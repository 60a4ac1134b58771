import VeritasOs.SignedLog

namespace VeritasOs.SignedRuns
open BindArtifacts hiding sha256OfCanonicalJson
open Text JsonText TextLines BackwardLines FullLedger WitnessLedger SignedLog CallRuns

def hashReasons : List String := ["payload_hash_mismatch","previous_hash_mismatch","signature_invalid"]

theorem begun_apart (apart : ∀ word ∈ hashReasons, ¬ front.toList <+: word.toList) (rest : String) :
    front ++ rest ∉ hashReasons := fun listed => apart _ listed ⟨rest.toList,String.toList_append.symm⟩

theorem resolve_reason (failed : resolvePayloadForEntry artifacts entry = .error reason) : reason ∉ hashReasons := by
  have named : reason ∈ ["malformed_artifact_ref","artifact_unreadable","unsupported_artifact_backend"] := by
    unfold resolvePayloadForEntry at failed
    cases parsed : parseArtifactReference (entry.get "artifact_ref") with
    | error error =>
      rw [parsed] at failed
      obtain rfl := Except.error.inj failed
      have malformed : error = "malformed_artifact_ref" := by
        unfold parseArtifactReference at parsed
        grind
      simp [malformed]
    | ok found =>
      rw [parsed] at failed
      simp only [bind,Except.bind] at failed
      grind
  simp only [List.mem_cons,List.not_mem_nil,or_false] at named
  rcases named with rfl | rfl | rfl <;> decide

theorem linkage_reason (found : verifyEntryArtifactLinkage sha256 artifacts entry = some reason) : reason ∉ hashReasons := by
  unfold verifyEntryArtifactLinkage at found
  split at found
  · cases found
  · split at found
    · split at found
      · rename_i failed
        obtain rfl := Option.some.inj found
        exact resolve_reason failed
      · split at found
        · cases found
        · obtain rfl := Option.some.inj found
          decide
      · split at found
        · obtain rfl := Option.some.inj found
          decide
        · split at found
          · cases found
          · obtain rfl := Option.some.inj found
            decide
    · obtain rfl := Option.some.inj found
      decide
  · obtain rfl := Option.some.inj found
    decide

theorem metadata_reason (found : verifySignerMetadata entry = some reason) : reason ∉ hashReasons := by
  unfold verifySignerMetadata at found
  split at found
  · cases found
  · split at found
    · obtain rfl := Option.some.inj found
      exact begun_apart (by decide) _
    · dsimp only at found
      split at found
      · cases found
      · obtain rfl := Option.some.inj found
        decide
  · obtain rfl := Option.some.inj found
    decide

theorem anchorFields_reason (found : verifyAnchorFields backend status receipt = some reason) : reason ∉ hashReasons := by
  unfold verifyAnchorFields at found
  split at found
  · obtain rfl := Option.some.inj found
    exact begun_apart (by decide) _
  · split_ifs at found
    · obtain rfl := Option.some.inj found
      decide
    · obtain rfl := Option.some.inj found
      decide
    · obtain rfl := Option.some.inj found
      decide
    · obtain rfl := Option.some.inj found
      decide
    · obtain rfl := Option.some.inj found
      decide
    · obtain ⟨name,_,rfl⟩ := Option.map_eq_some_iff.mp found
      exact begun_apart (by decide) _

theorem anchor_reason (found : verifyAnchor verifier entry = some reason) : reason ∉ hashReasons := by
  unfold verifyAnchor at found
  split at found
  · rename_i other failed
    obtain rfl := Option.some.inj found
    unfold verifyAnchorReceipt at failed
    grind [anchorFields_reason,hashReasons]
  · split at found
    · unfold verifyTsaReceiptDetails at found
      grind [hashReasons]
    · cases found

-- An entry in its place, as the verifier sees it.
structure Fine (verifier : Verifier) (prevHash : Value) (entry : Dict) : Prop where
  previous : entry.get "previous_hash" = prevHash
  payload : ∃ hash, sha256OfCanonicalJson verifier.sha256 (entry.getD "decision_payload" (.dict [])) = .ok hash ∧ entry.get "payload_hash" = .str hash
  unmirrored : entry.get "mirror_receipt" = .none
  hashed : ∃ chainHash, entryChainHash verifier entry = .ok chainHash

def FineFrom (verifier : Verifier) : Value → List Dict → Prop
  | _,[] => True
  | prevHash,entry :: rest => Fine verifier prevHash entry ∧ FineFrom verifier (nextPrevious verifier prevHash [entry]) rest

theorem fineFrom_concat : FineFrom verifier prevHash (entries ++ [last]) ↔
      FineFrom verifier prevHash entries ∧ Fine verifier (nextPrevious verifier prevHash entries) last := by
  induction entries generalizing prevHash with
  | nil => simp [FineFrom,nextPrevious]
  | cons entry rest ih =>
    rw [List.cons_append,FineFrom,FineFrom,ih,and_assoc]
    rfl

-- What is missed without the remote state: a receipt, when there has to be one.
def missedReceipt (verifier : Verifier) (entry : Dict) : Bool :=
  verifier.mode.strictMode || lower (strip ((entry.get "mirror_backend").orStr "")) == "s3_object_lock"

def checksOf (verifier : Verifier) (entry : Dict) : EntryChecks where
  payload := none
  chain := none
  signature := checkSignature verifier entry
  linkage := verifyEntryArtifactLinkage verifier.sha256 verifier.artifacts entry
  mirror := if missedReceipt verifier entry then some "mirror_receipt_missing" else none
  signerMetadata := verifySignerMetadata entry
  anchor := verifyAnchor verifier entry

theorem Fine.checked (start : HashValue prevHash) (fine : Fine verifier prevHash entry) :
    checkEntry verifier prevHash entry = .ok (checksOf verifier entry) := by
  obtain ⟨hash,hashed,named⟩ := fine.payload
  have chain : pyEq (entry.get "previous_hash") prevHash = true := start.pyEq_exact.mpr fine.previous
  have mirror : verifyMirrorReceipt verifier.sha256 verifier.env verifier.hmac verifier.mode verifier.client entry =
      .ok (if missedReceipt verifier entry then some "mirror_receipt_missing" else none) := by
    unfold verifyMirrorReceipt missedReceipt
    rw [fine.unmirrored]
    dsimp only
    by_cases missed : verifier.mode.strictMode = true ∨ lower (strip ((entry.get "mirror_backend").orStr "")) = "s3_object_lock"
    · rw [if_pos (by simpa using missed),if_pos (by simpa using missed)]
    · rw [if_neg (by simpa using missed),if_neg (by simpa using missed)]
  unfold checkEntry
  rw [hashed,mirror,named,chain]
  simp only [bind,Except.bind,if_true]
  rfl

theorem checks_reason (genuine : checkSignature verifier entry = none) :
    ∀ reason ∈ (checksOf verifier entry).reasons, reason ∉ hashReasons := by
  intro reason listed
  have held := List.reduceOption_mem_iff.mp listed
  simp only [checksOf,genuine,List.mem_cons,List.not_mem_nil,or_false,reduceCtorEq,false_or] at held
  rcases held with linkage | mirror | metadata | anchor
  · exact linkage_reason linkage.symm
  · split at mirror
    · obtain rfl := Option.some.inj mirror
      decide
    · cases mirror
  · exact metadata_reason metadata.symm
  · exact anchor_reason anchor.symm

theorem fine_run {verifier : Verifier} {index : Nat} {entries : List Dict} {before : WitnessProgress} (start : HashValue before.prevHash)
    (fine : FineFrom verifier before.prevHash entries) :
    ∃ after, verifyWitnessFrom verifier index entries before = .ok after ∧ after.chainOk = before.chainOk ∧
      after.signatureOk = (before.signatureOk && entries.all fun entry => (checkSignature verifier entry).isNone) ∧
      after.mirrorOk = (before.mirrorOk && entries.all fun entry => !missedReceipt verifier entry) ∧
      ∃ later, after.errors = before.errors ++ later ∧
        ((∀ entry ∈ entries, checkSignature verifier entry = none) → ∀ error ∈ later, error.reason ∉ hashReasons) := by
  induction entries generalizing index before with
  | nil => exact ⟨before,rfl,rfl,by simp,by simp,[],(List.append_nil _).symm,fun _ error listed => absurd listed List.not_mem_nil⟩
  | cons entry rest ih =>
    obtain ⟨here,others⟩ := fine
    obtain ⟨chainHash,hashed⟩ := here.hashed
    rw [nextPrevious,List.foldl_cons,List.foldl_nil,hashed] at others
    obtain ⟨after,done,chainOk,signatureOk,mirrorOk,later,errors,reasons⟩ :=
      @ih (index + 1) (before.note index entry (checksOf verifier entry) chainHash) (.text chainHash) others
    refine ⟨after,?_,?_,?_,?_,(checksOf verifier entry).reasons.map (fun reason => ⟨index,reason⟩) ++ later,?_,?_⟩
    · exact bind_ok.mpr ⟨_,here.checked start,bind_ok.mpr ⟨chainHash,hashed,done⟩⟩
    · rw [chainOk,WitnessProgress.note,checksOf]
      simp
    · rw [signatureOk,WitnessProgress.note,checksOf]
      simp [Bool.and_assoc]
    · rw [mirrorOk,WitnessProgress.note,checksOf]
      cases missed : missedReceipt verifier entry <;> simp [missed]
    · rw [errors,WitnessProgress.note,List.append_assoc]
    · intro genuine error listed
      rcases List.mem_append.mp listed with first | last
      · obtain ⟨reason,held,rfl⟩ := List.mem_map.mp first
        exact checks_reason (genuine entry List.mem_cons_self) reason held
      · exact reasons (fun other inside => genuine other (List.mem_cons_of_mem _ inside)) error last

theorem fine_verified {verifier : Verifier} {entries : List Dict} (fine : FineFrom verifier .none entries) :
    ∃ report, verifyWitnessLedger verifier entries = .ok report ∧ report.chainOk = true ∧
      report.signatureOk = (entries.all fun entry => (checkSignature verifier entry).isNone) ∧
      report.mirrorOk = (entries.all fun entry => !missedReceipt verifier entry) ∧
      ((∀ entry ∈ entries, checkSignature verifier entry = none) → ∀ error ∈ report.detailedErrors, error.reason ∉ hashReasons) := by
  obtain ⟨after,done,chainOk,signatureOk,mirrorOk,later,errors,reasons⟩ := @fine_run verifier 0 entries {} .absent fine
  refine ⟨_,bind_ok.mpr ⟨after,done,rfl⟩,chainOk,signatureOk.trans (Bool.true_and _),mirrorOk.trans (Bool.true_and _),?_⟩
  intro genuine error listed
  dsimp only at listed
  rw [errors,List.nil_append] at listed
  exact reasons genuine error listed

abbrev service (system : System) : Serve (List Char) Call (Except Failure Dict) := appendSignedDecision system

def Returned (system : System) (calls : List Call) : Prop := ∀ answer ∈ answers (service system) [] calls, ∃ entry, answer = .ok entry

section Runs
variable {system : System} {verifier : Verifier}

theorem Returned.concat (returned : Returned system (calls ++ [call])) :
    Returned system calls ∧ ∃ entry, (appendSignedDecision system (after (service system) [] calls) call).1 = .ok entry := by
  unfold Returned at returned
  rw [answers_concat,List.forall_mem_append,List.forall_mem_singleton] at returned
  exact returned

theorem chainHashOf_last (hashing : verifier.sha256 = system.sha256)
    (fine : FineFrom verifier .none (docs.map entryOf)) (made : previousHash system.sha256 (ledgerOf docs) = .ok previous) :
    previous = nextPrevious verifier .none (docs.map entryOf) := by
  rw [previousHash,readLastEntry_ledger] at made
  rcases List.eq_nil_or_concat docs with rfl | ⟨init,last,rfl⟩
  · exact (Except.ok.inj made).symm
  · rw [List.concat_eq_append] at made fine ⊢
    rw [List.map_append,List.map_singleton] at fine ⊢
    rw [List.getLast?_concat,Option.map_some,chainHashOf] at made
    obtain ⟨_,final⟩ := fineFrom_concat.mp fine
    obtain ⟨hash,_,named⟩ := final.payload
    obtain ⟨chainHash,hashed⟩ := final.hashed
    have some_ : (Value.dict (entryOf last)).truthy = true := by
      cases members : entryOf last with
      | nil =>
        rw [members] at named
        cases named
      | cons member rest => rfl
    rw [if_pos some_] at made
    unfold entryChainHash at hashed
    rw [hashing] at hashed
    rw [hashed] at made
    rw [nextPrevious,List.foldl_append,List.foldl_cons,List.foldl_nil,entryChainHash,hashing,hashed]
    exact (Except.ok.inj made).symm

theorem append_fine (hashing : verifier.sha256 = system.sha256) (fine : FineFrom verifier .none (docs.map entryOf))
    (json : isJson (.dict call.payload) = true) (returned : (appendSignedDecision system (ledgerOf docs) call).1 = .ok answer) :
    ∃ members signer hash signature, Line system call (ledgerOf docs) signer hash signature (entryOf members) members ∧
      (appendSignedDecision system (ledgerOf docs) call).2 = ledgerOf (docs ++ [members]) ∧
      FineFrom verifier .none ((docs ++ [members]).map entryOf) := by
  obtain ⟨written,made,_,ledger⟩ := append_returned returned
  obtain ⟨signer,hash,signature,entry,members,line,rfl⟩ := prepareLine_line json made
  have same : entryOf members = entry := Value.dict.inj (writeLine_exact line.prepared.json line.document).1
  obtain ⟨payload,held,hashed⟩ := line.prepared.payload
  obtain ⟨chainHash,chained⟩ := hash_json verifier.sha256 line.prepared.json
  have own : Fine verifier (nextPrevious verifier .none (docs.map entryOf)) entry :=
    ⟨chainHashOf_last hashing fine line.previous,
      ⟨hash,by rw [Dict.getD,held,hashing]; exact hashed,by rw [Dict.get,line.prepared.signed.hash]; rfl⟩,
      by rw [Dict.get,line.prepared.unmirrored _ (by decide)]; rfl,⟨chainHash,chained⟩⟩
  refine ⟨members,signer,hash,signature,same ▸ line,?_,?_⟩
  · rw [ledger,ledgerOf_concat]
  · rw [List.map_append,List.map_singleton,same]
    exact fineFrom_concat.mpr ⟨fine,own⟩

def Entered (system : System) (call : Call) (members : List (String × Json)) : Prop :=
  ∃ ledger signer hash signature, Line system call ledger signer hash signature (entryOf members) members

theorem made_by (entered : List.Forall₂ (Entered system) calls docs)
    (held : members ∈ docs) : ∃ call ∈ calls, Entered system call members := by
  induction entered with
  | nil => cases held
  | cons own others ih =>
    rcases List.mem_cons.mp held with rfl | later
    · exact ⟨_,List.mem_cons_self,own⟩
    · obtain ⟨call,made,found⟩ := ih later
      exact ⟨call,List.mem_cons_of_mem _ made,found⟩

theorem run_fine (hashing : verifier.sha256 = system.sha256) {calls : List Call} (json : ∀ call ∈ calls, isJson (.dict call.payload) = true)
    (returned : Returned system calls) :
    ∃ docs, after (service system) [] calls = ledgerOf docs ∧ FineFrom verifier .none (docs.map entryOf) ∧ List.Forall₂ (Entered system) calls docs := by
  induction calls using List.reverseRecOn with
  | nil => exact ⟨[],rfl,trivial,.nil⟩
  | append_singleton calls call ih =>
    obtain ⟨before,answer,last⟩ := returned.concat
    obtain ⟨docs,ledger,fine,entered⟩ := ih (fun own listed => json own (List.mem_append_left _ listed)) before
    rw [ledger] at last
    obtain ⟨members,signer,hash,signature,line,next,fine'⟩ := append_fine hashing fine (json call (by simp)) last
    refine ⟨docs ++ [members],?_,fine',List.rel_append entered (.cons ⟨_,signer,hash,signature,line⟩ .nil)⟩
    rw [after_concat,ledger,next]

end Runs

-- A call of honest parties: JSON data, a signer that can sign once more, and a key whose signatures verify.
structure Honest (system : System) (call : Call) : Prop where
  json : isJson (.dict call.payload) = true
  again : ∀ hash, ∃ signature, call.signAgain hash = .ok signature
  genuine : ∀ signer, buildTrustlogSigner system.env system.keys none none = .ok signer → ∀ hash signature,
    call.sign hash = .ok signature ∨ call.signAgain hash = .ok signature → signer.verifyPayloadSignature hash signature = some true

theorem Honest.signed (honest : Honest system call) (entered : Entered system call members) :
    verifySignature (keyring system.env system.keys) (entryOf members) = true := by
  obtain ⟨ledger,signer,hash,signature,line⟩ := entered
  refine line.prepared.signed.verifies line.built (honest.genuine signer line.built hash signature ?_)
  rcases line.sign with sign | again | ⟨stub,failed⟩
  · exact .inl sign
  · exact .inr again
  · obtain ⟨other,made⟩ := honest.again stub
    rw [made] at failed
    cases failed

-- A call whose line can be written: JSON data, and a signer that signs.
structure Ready (call : Call) : Prop where
  json : isJson (.dict call.payload) = true
  signs : ∀ hash, ∃ signature, call.sign hash = .ok signature
  fault : call.fault = none

-- And a mirror that can be written to, and no anchor.
structure Quiet (path : String) (call : Call) : Prop extends Ready call where
  mirror : call.mirror = .localAppend (some path) none
  anchor : call.anchor = .noOp

section Progress
variable {system : System} {signer : TrustlogSigner} {path : String}

theorem enforceEntrySize_returns (sha256 : String → String) (sign : String → Except Exc String) (json : isJson (.dict entry) = true) :
    ∃ kept, enforceEntrySize sha256 sign entry = .ok kept := by
  obtain ⟨members,document⟩ := entry_document json
  obtain ⟨payloadHash,hashed⟩ := hash_json sha256 (stub_json json)
  unfold enforceEntrySize
  rw [document]
  dsimp only
  split
  · exact ⟨entry,rfl⟩
  · rw [hashed]
    simp only [bind,Except.bind]
    split
    · exact ⟨_,rfl⟩
    · exact ⟨_,rfl⟩

theorem signEntry_returns (built : buildTrustlogSigner system.env system.keys none none = .ok signer) (ready : Ready call) :
    ∃ entry, signEntry system call = .ok entry := by
  obtain ⟨full,first⟩ := hash_json system.sha256 ready.json
  obtain ⟨hash,second⟩ := hash_json system.sha256 (summary_json (order_distinct system) ready.json)
  obtain ⟨signature,signed⟩ := ready.signs hash
  exact ⟨_,bind_ok.mpr ⟨signer,built,bind_ok.mpr ⟨full,first,bind_ok.mpr ⟨hash,second,bind_ok.mpr ⟨signature,signed,rfl⟩⟩⟩⟩⟩

theorem prepareLine_returns (built : buildTrustlogSigner system.env system.keys none none = .ok signer) (ready : Ready call)
    (found : previousHash system.sha256 ledger = .ok previous) : ∃ written, prepareLine system call ledger = .ok written := by
  obtain ⟨signed,first⟩ := signEntry_returns built ready
  obtain ⟨_,hash,signature,_,_,prepared⟩ := signEntry_prepared ready.json first
  have plain : isJson previous = true := by cases chainHashOf_hash found <;> rfl
  obtain ⟨entry,enforced⟩ := enforceEntrySize_returns system.sha256 call.signAgain (prepared.previous plain).json
  obtain ⟨⟨_,_,kept,_⟩,_⟩ := enforceEntrySize_prepared (prepared.previous plain) enforced
  obtain ⟨members,document⟩ := entry_document kept.json
  refine ⟨⟨entry,.dict entry,print spaced 0 (.obj members) ++ ['\n']⟩,bind_ok.mpr ⟨signed,first,?_⟩⟩
  rw [ready.fault,if_neg (by simp)]
  exact bind_ok.mpr ⟨previous,found,bind_ok.mpr ⟨entry,enforced,(writeLine_exact kept.json document).2⟩⟩

theorem append_quiet (built : buildTrustlogSigner system.env system.keys none none = .ok signer) {call : Call} (quiet : Quiet path call)
    {ledger : List Char} {previous : Value} (found : previousHash system.sha256 ledger = .ok previous) :
    ∃ answer, (appendSignedDecision system ledger call).1 = .ok answer ∧ lookup (.str "worm_mirror") answer = some (.dict (localMirror true true (some path) [])) := by
  obtain ⟨written,made⟩ := prepareLine_returns built quiet.toReady found
  obtain ⟨_,_,_,entry,members,line,rfl⟩ := prepareLine_line quiet.json made
  obtain ⟨entryHash,hashed⟩ := hash_json system.sha256 line.prepared.json
  unfold appendSignedDecision
  rw [made]
  dsimp only
  rw [quiet.fault]
  dsimp only
  unfold afterwards
  dsimp only
  rw [hashed,quiet.mirror,quiet.anchor]
  have mirrored : mirrorToWorm system.sha256 system.hmac (print spaced 0 (.obj members) ++ ['\n']) (.localAppend (some path) none) =
      .ok (localMirror true true (some path) []) := rfl
  have fine : (Dict.get (localMirror true true (some path) []) "ok").truthy = true := rfl
  have skipped : (Dict.get (anchorEntryHash system.sha256 .noOp call.anchoredAt call.receiptId entryHash) "ok").truthy = true := rfl
  rw [mirrored]
  dsimp only
  rw [fine,skipped,Bool.not_true,Bool.and_false,Bool.and_false,if_neg (by decide),if_neg (by decide)]
  refine ⟨_,rfl,?_⟩
  rw [lookup_append,line.prepared.unmirrored _ (by decide),Option.none_or]
  rfl

theorem previousHash_returns {verifier : Verifier} (hashing : verifier.sha256 = system.sha256) {docs : List (List (String × Json))}
    (fine : FineFrom verifier .none (docs.map entryOf)) : ∃ previous, previousHash system.sha256 (ledgerOf docs) = .ok previous := by
  rw [previousHash,readLastEntry_ledger]
  rcases List.eq_nil_or_concat docs with rfl | ⟨init,last,rfl⟩
  · exact ⟨.none,rfl⟩
  · rw [List.concat_eq_append] at fine ⊢
    rw [List.map_append,List.map_singleton] at fine
    obtain ⟨_,final⟩ := fineFrom_concat.mp fine
    obtain ⟨chainHash,hashed⟩ := final.hashed
    unfold entryChainHash at hashed
    rw [hashing] at hashed
    rw [List.getLast?_concat,Option.map_some,chainHashOf,hashed]
    split
    · exact ⟨_,rfl⟩
    · exact ⟨_,rfl⟩

end Progress

def localVerifier (system : System) : Verifier where
  env := system.env
  sha256 := system.sha256
  hmac := system.hmac
  rawSha256 _ := none
  artifacts := ⟨[],fun _ => .absent⟩
  s3Client := none
  boto3 := none
  verifySignatureFn := some (verifySignature (keyring system.env system.keys))

-- The mirror has the line, as far as the caller is told.
def Mirrored (answer : Except Failure Dict) : Prop :=
  ∃ entry mirror, answer = .ok entry ∧ entry.get "worm_mirror" = .dict mirror ∧
    (Dict.get mirror "configured").truthy = true ∧ (Dict.get mirror "ok").truthy = true

theorem run_returns {system : System} {signer : TrustlogSigner} {path : String} (built : buildTrustlogSigner system.env system.keys none none = .ok signer)
    {calls : List Call} (quiet : ∀ call ∈ calls, Quiet path call) : ∀ answer ∈ answers (service system) [] calls, Mirrored answer := by
  induction calls using List.reverseRecOn with
  | nil => exact fun answer given => absurd given List.not_mem_nil
  | append_singleton calls call ih =>
    rw [List.forall_mem_append,List.forall_mem_singleton] at quiet
    have before := ih quiet.1
    have returned : Returned system calls := fun answer given => by
      obtain ⟨entry,_,same,_⟩ := before answer given
      exact ⟨entry,same⟩
    obtain ⟨docs,ledger,fine,_⟩ := @run_fine system (localVerifier system) rfl calls (fun own listed => (quiet.1 own listed).json) returned
    obtain ⟨previous,found⟩ := previousHash_returns rfl fine
    obtain ⟨answer,given,mirrored⟩ := append_quiet built quiet.2 found
    rw [answers_concat,List.forall_mem_append,List.forall_mem_singleton,ledger]
    exact ⟨before,answer,_,given,by rw [Dict.get,mirrored]; rfl,rfl,rfl⟩

def sampleSystem : System where
  env _ := none
  sha256 text := text
  hmac _ _ := ""
  keys := ⟨"fingerprint",fun hash signature => some (signature == "signed " ++ hash),fun _ _ => ⟨none,fun _ _ => none⟩⟩
  order := summaryAllowlist
  listed := .refl _
  postureHardFail := false
  postureRequired := false

def sampleCall (requestId : String) : Call where
  payload := [field "request_id" (.str requestId)]
  enableArtifactRef := false
  decisionId := requestId
  now := "2026-01-01T00:00:00Z"
  sign hash := .ok ("signed " ++ hash)
  signAgain hash := .ok ("signed " ++ hash)
  fault := none
  mirror := .localAppend (some "worm.jsonl") none
  anchor := .noOp
  anchoredAt := "2026-01-01T00:00:00Z"
  receiptId := "receipt"

theorem sample_built : buildTrustlogSigner sampleSystem.env sampleSystem.keys none none = .ok (fileSigner sampleSystem.keys) := by
  unfold buildTrustlogSigner
  rw [if_pos (by decide)]

theorem sample_quiet (requestId : String) : Quiet "worm.jsonl" (sampleCall requestId) where
  json := rfl
  signs _ := ⟨_,rfl⟩
  fault := rfl
  mirror := rfl
  anchor := rfl

theorem sample_honest (requestId : String) : Honest sampleSystem (sampleCall requestId) where
  json := rfl
  again _ := ⟨_,rfl⟩
  genuine signer built hash signature signed := by
    obtain rfl := Except.ok.inj (sample_built.symm.trans built)
    rcases signed with first | again
    · obtain rfl := Except.ok.inj first
      exact congrArg some (beq_self_eq_true _)
    · obtain rfl := Except.ok.inj again
      exact congrArg some (beq_self_eq_true _)

theorem sample_returned {calls : List Call} (each : ∀ call ∈ calls, ∃ requestId, call = sampleCall requestId) : Returned sampleSystem calls := by
  intro answer given
  have quiet : ∀ call ∈ calls, Quiet "worm.jsonl" call := fun call listed => by
    obtain ⟨requestId,rfl⟩ := each call listed
    exact sample_quiet requestId
  obtain ⟨entry,_,same,_⟩ := run_returns sample_built quiet answer given
  exact ⟨entry,same⟩

theorem honest_ledger_verifies {system : System} {verifier : Verifier} {calls : List Call} (honest : ∀ call ∈ calls, Honest system call)
    (returned : Returned system calls) (hashing : verifier.sha256 = system.sha256)
    (checking : verifier.verifySignatureFn = some (verifySignature (keyring system.env system.keys))) :
    ∃ entries report, readAllEntries (after (service system) [] calls) = entries.map Value.dict ∧ entries.length = calls.length ∧
      verifyWitnessLedger verifier entries = .ok report ∧ report.chainOk = true ∧ report.signatureOk = true ∧
      ∀ error ∈ report.detailedErrors, error.reason ∉ hashReasons := by
  obtain ⟨docs,ledger,fine,entered⟩ := run_fine hashing (fun call listed => (honest call listed).json) returned
  obtain ⟨report,verified,chainOk,signatureOk,_,reasons⟩ := fine_verified fine
  have genuine : ∀ entry ∈ docs.map entryOf, checkSignature verifier entry = none := by
    intro entry listed
    obtain ⟨members,held,rfl⟩ := List.mem_map.mp listed
    obtain ⟨call,made,own⟩ := made_by entered held
    unfold checkSignature
    rw [checking]
    dsimp only
    rw [(honest call made).signed own,if_pos rfl]
  refine ⟨docs.map entryOf,report,?_,?_,verified,chainOk,?_,reasons genuine⟩
  · rw [ledger,readAllEntries_ledger]
  · rw [List.length_map,entered.length_eq]
  · rw [signatureOk,List.all_eq_true]
    intro entry listed
    rw [genuine entry listed]
    rfl

theorem honest_ledger_verifies_sample :
    ∃ entries report, readAllEntries (after (service sampleSystem) [] [sampleCall "r1",sampleCall "r2"]) = entries.map Value.dict ∧ entries.length = 2 ∧
      verifyWitnessLedger (localVerifier sampleSystem) entries = .ok report ∧ report.chainOk = true ∧ report.signatureOk = true ∧
      ∀ error ∈ report.detailedErrors, error.reason ∉ hashReasons :=
  honest_ledger_verifies (List.forall_mem_cons.mpr ⟨sample_honest "r1",List.forall_mem_singleton.mpr (sample_honest "r2")⟩)
    (sample_returned (List.forall_mem_cons.mpr ⟨⟨_,rfl⟩,List.forall_mem_singleton.mpr ⟨_,rfl⟩⟩)) rfl rfl

theorem strict_missing {verifier : Verifier} (strict : verifier.mode.strictMode = true) {entries : List Dict} (fine : FineFrom verifier .none entries)
    {report : WitnessReport} (verified : verifyWitnessLedger verifier entries = .ok report) : report.mirrorOk = entries.isEmpty := by
  obtain ⟨found,done,_,_,mirrorOk,_⟩ := fine_verified fine
  obtain rfl := Except.ok.inj (done.symm.trans verified)
  rw [mirrorOk]
  cases entries with
  | nil => rfl
  | cons entry rest => simp [missedReceipt,strict]

-- The verifier has nothing to say about the mirror, and finds the receipts the callers were given.
def ReceiptsKept (system : System) (verifier : Verifier) (calls : List Call) : Prop :=
  ∃ entries report, readAllEntries (after (service system) [] calls) = entries.map Value.dict ∧
    verifyWitnessLedger verifier entries = .ok report ∧ report.mirrorOk = true ∧
    List.Forall₂ (fun answer entry => ∃ returned, answer = .ok returned ∧ returned.get "mirror_receipt" = entry.get "mirror_receipt")
      (answers (service system) [] calls) entries

theorem dicts_inj {first second : List Dict} (same : first.map Value.dict = second.map Value.dict) : first = second :=
  List.map_injective_iff.mpr (fun _ _ => Value.dict.inj) same

-- The receipt is put into the answer after the line is written, so the ledger has none of them.
theorem receipts_kept_iff {system : System} {verifier : Verifier} {calls : List Call} (json : ∀ call ∈ calls, isJson (.dict call.payload) = true)
    (mirrored : ∀ answer ∈ answers (service system) [] calls, Mirrored answer) (hashing : verifier.sha256 = system.sha256)
    (strict : verifier.mode.strictMode = true) : ReceiptsKept system verifier calls ↔ calls = [] := by
  have returned : Returned system calls := fun answer given => by
    obtain ⟨entry,_,same,_⟩ := mirrored answer given
    exact ⟨entry,same⟩
  obtain ⟨docs,ledger,fine,entered⟩ := run_fine hashing json returned
  have read : readAllEntries (after (service system) [] calls) = (docs.map entryOf).map Value.dict := by
    rw [ledger,readAllEntries_ledger]
  constructor
  · intro kept
    obtain ⟨entries,report,found,verified,mirrorOk,_⟩ := kept
    obtain rfl := dicts_inj (found.symm.trans read)
    rw [strict_missing strict fine verified,List.isEmpty_iff,List.map_eq_nil_iff] at mirrorOk
    rw [mirrorOk] at entered
    cases entered
    rfl
  · intro none_
    subst none_
    obtain ⟨report,verified,_⟩ := fine_verified fine
    cases entered
    exact ⟨[],report,read,verified,strict_missing strict fine verified,.nil⟩

def strictVerifier : Verifier :=
  { localVerifier sampleSystem with env := fun name => if name = "VERITAS_TRUSTLOG_VERIFY_MIRROR_S3_STRICT" then some "1" else none }

theorem sample_mirrored : ∀ answer ∈ answers (service sampleSystem) [] [sampleCall "r1"], Mirrored answer :=
  run_returns sample_built (List.forall_mem_singleton.mpr (sample_quiet "r1"))

theorem receipts_kept_iff_sample : ReceiptsKept sampleSystem strictVerifier [sampleCall "r1"] ↔ [sampleCall "r1"] = [] :=
  receipts_kept_iff (List.forall_mem_singleton.mpr rfl) sample_mirrored rfl (by decide)

theorem mirrored_call_unverified :
    ¬ ∀ (system : System) (verifier : Verifier) (calls : List Call), (∀ call ∈ calls, isJson (.dict call.payload) = true) →
      (∀ answer ∈ answers (service system) [] calls, Mirrored answer) → verifier.sha256 = system.sha256 →
      verifier.mode.strictMode = true → verifier.mode.remoteEnabled = false → ReceiptsKept system verifier calls := by
  intro every
  obtain ⟨entries,report,found,verified,mirrorOk,_⟩ :=
    every sampleSystem strictVerifier [sampleCall "r1"] (List.forall_mem_singleton.mpr rfl) sample_mirrored rfl (by decide) (by decide)
  obtain ⟨docs,ledger,fine,entered⟩ := @run_fine sampleSystem strictVerifier rfl [sampleCall "r1"]
    (List.forall_mem_singleton.mpr rfl) (sample_returned (List.forall_mem_singleton.mpr ⟨_,rfl⟩))
  rw [ledger,readAllEntries_ledger] at found
  obtain rfl := dicts_inj found
  rw [strict_missing (by decide) fine verified,List.isEmpty_iff,List.map_eq_nil_iff] at mirrorOk
  rw [mirrorOk] at entered
  cases entered

theorem name_unread (rest : List Char) : lex .start ("decision_id".toList ++ rest) = none := rfl

theorem line_begins (document : toJson false (.dict (field "decision_id" (.str decisionId) :: rest)) = some (.obj members)) :
    ∃ more, print spaced 0 (.obj members) = '{' :: '"' :: ("decision_id".toList ++ more) := by
  simp only [toJson,membersJson,field,Bool.false_eq_true,if_false,Option.bind_some,Option.bind_eq_some_iff,Option.map_eq_some_iff] at document
  obtain ⟨_,⟨first,_,rfl⟩,named,spelled,same⟩ := document
  simp only [nameKeys,keyText,Option.bind_some,Option.map_eq_some_iff] at spelled
  obtain ⟨others,_,rfl⟩ := spelled
  obtain rfl := Json.obj.inj same
  exact ⟨_,rfl⟩

theorem glued_unread (line : print spaced 0 (.obj doc) = torn ++ right) (some_ : torn ≠ [])
    (document : toJson false (.dict (field "decision_id" (.str decisionId) :: rest)) = some (.obj members)) :
    readLine isSpace (torn ++ print spaced 0 (.obj members)) = none := by
  obtain ⟨more,begins⟩ := line_begins document
  have plain : stripBy isSpace (torn ++ print spaced 0 (.obj members)) = torn ++ print spaced 0 (.obj members) := by
    obtain ⟨first,_,opens⟩ := print_object spaced 0 doc
    obtain ⟨body,_,closes⟩ := print_object spaced 0 members
    cases torn with
    | nil => exact absurd rfl some_
    | cons c cut =>
      rw [opens,List.cons_append] at line
      obtain ⟨rfl,_⟩ := List.cons.inj line
      rw [stripBy,List.cons_append,List.dropWhile_cons_of_neg (by decide),closes,← List.cons_append,← List.append_assoc,
        List.rdropWhile_concat_neg _ _ _ (by decide)]
  unfold readLine
  rw [plain]
  dsimp only
  rw [if_neg (by simp [some_])]
  exact object_after_unread line some_ begins (name_unread more)

theorem readAllEntries_glued (visible : Visible glued) (unread : readLine isSpace glued = none) :
    readAllEntries (ledgerOf docs ++ (glued ++ ['\n'])) = (docs.map entryOf).map Value.dict := by
  have readable : Readable (readLine isSpace) _ := readable_objects (by decide) (by decide) spaced spaced_flat (by decide) docs
  have lines : ledgerOf docs ++ (glued ++ ['\n']) = file ((docs.map fun members => print spaced 0 (.obj members)) ++ [glued]) [] := by
    rw [file_append]
    simp [ledgerOf]
  have all : ∀ line ∈ (docs.map fun members => print spaced 0 (.obj members)) ++ [glued], Visible line := by
    rw [List.forall_mem_append,List.forall_mem_singleton]
    exact ⟨readable.visible,visible⟩
  have whole := readAllEntries_ledger docs
  rw [readAllEntries,ledgerOf,readAll_file readable visible_nil,readable.empty,Option.toList_none,List.append_nil] at whole
  rw [readAllEntries,lines,readAll,byteLines_file all visible_nil,tail,if_pos rfl,List.append_nil,List.filterMap_append,
    List.filterMap_cons_none unread,List.filterMap_nil,List.append_nil,whole]

-- The entries before the crash and the new one, which names the last of them.
def Recovered (system : System) (docs : List (List (String × Json))) (ledger : List Char) (call : Call) : Prop :=
  ∃ written, prepareLine system call ledger = .ok written ∧
    readAllEntries (appendSignedDecision system ledger call).2 = (docs.map entryOf ++ [written.entry]).map Value.dict ∧
    chainHashOf system.sha256 (docs.getLast?.map fun members => .dict (entryOf members)) = .ok (written.entry.get "previous_hash")

section Crash
variable {system : System} {docs : List (List (String × Json))} {doc : List (String × Json)} {torn right : List Char}
  (line : print spaced 0 (.obj doc) = torn ++ right) {call : Call} (json : isJson (.dict call.payload) = true) {answer : Dict}
  (returned : (appendSignedDecision system (ledgerOf docs ++ torn) call).1 = .ok answer)
include line json returned

theorem torn_lost (some_ : torn ≠ []) :
    readAllEntries (appendSignedDecision system (ledgerOf docs ++ torn) call).2 = (docs.map entryOf).map Value.dict := by
  obtain ⟨written,made,_,ledger⟩ := append_returned returned
  obtain ⟨_,_,_,_,members,own,rfl⟩ := prepareLine_line json made
  obtain ⟨decisionId,rest,begins⟩ := own.prepared.begins
  have document := own.document
  rw [begins] at document
  have visible : Visible (torn ++ print spaced 0 (.obj members)) := by
    have first := print_visible spaced_flat 0 (.obj doc)
    rw [line] at first
    exact visible_append.mpr ⟨(visible_append.mp first).1,print_visible spaced_flat 0 _⟩
  rw [ledger,List.append_assoc,← List.append_assoc torn]
  exact readAllEntries_glued visible (glued_unread line some_ document)

theorem torn_unrecovered (some_ : torn ≠ []) : ¬ Recovered system docs (ledgerOf docs ++ torn) call := by
  intro recovered
  obtain ⟨_,_,read,_⟩ := recovered
  rw [torn_lost line json returned some_] at read
  simpa using congrArg List.length read

-- The ledger ends in the beginning of a line, or all of it, but for the line break.
theorem recovered_iff : Recovered system docs (ledgerOf docs ++ torn) call ↔ torn = [] := by
  constructor
  · intro recovered
    by_contra some_
    exact torn_unrecovered line json returned some_ recovered
  · rintro rfl
    obtain ⟨written,made,_,ledger⟩ := append_returned returned
    obtain ⟨_,_,_,entry,members,own,rfl⟩ := prepareLine_line json made
    rw [List.append_nil] at made ledger ⊢
    have same : entryOf members = entry := Value.dict.inj (writeLine_exact own.prepared.json own.document).1
    refine ⟨_,made,?_,?_⟩
    · rw [ledger,← ledgerOf_concat,readAllEntries_ledger,List.map_append,List.map_singleton,same]
    · have previous := own.previous
      rwa [List.append_nil,previousHash,readLastEntry_ledger] at previous

end Crash

def sampleDoc : List (String × Json) := [("decision_id",.str "r0")]

theorem sample_torn : print spaced 0 (.obj sampleDoc) = ['{'] ++ "\"decision_id\": \"r0\"\x7d".toList := rfl

theorem torn_last : readLastEntry ['{'] = none := by
  have start : byteLength ['{'] - chunkSize = 0 := Nat.sub_eq_zero_of_le chunkSize_pos
  have lines : byteLines (byteDrop 0 ['{']) = [['{']] := rfl
  have unread : readLine isByteSpace ['{'] = none := rfl
  rw [readLastEntry,readLast,start,readBack,lines,List.reverse_singleton,List.findSome?_singleton,unread]
  rfl

theorem sample_after_crash : ∃ answer, (appendSignedDecision sampleSystem (ledgerOf [] ++ ['{']) (sampleCall "r1")).1 = .ok answer := by
  have found : previousHash sampleSystem.sha256 (ledgerOf [] ++ ['{']) = .ok .none := congrArg (chainHashOf sampleSystem.sha256) torn_last
  obtain ⟨answer,given,_⟩ := append_quiet sample_built (sample_quiet "r1") found
  exact ⟨answer,given⟩

theorem recovered_iff_sample : Recovered sampleSystem [] (ledgerOf [] ++ ['{']) (sampleCall "r1") ↔ ['{'] = [] :=
  recovered_iff sample_torn rfl sample_after_crash.choose_spec

theorem crash_unrecovered :
    ¬ ∀ (system : System) (docs : List (List (String × Json))) (doc : List (String × Json)) (torn right : List Char) (call : Call) (answer : Dict),
      print spaced 0 (.obj doc) = torn ++ right → right ≠ [] → isJson (.dict call.payload) = true →
      (appendSignedDecision system (ledgerOf docs ++ torn) call).1 = .ok answer → Recovered system docs (ledgerOf docs ++ torn) call := by
  intro every
  obtain ⟨answer,returned⟩ := sample_after_crash
  exact torn_unrecovered sample_torn rfl returned (by simp)
    (every sampleSystem [] sampleDoc ['{'] _ (sampleCall "r1") answer sample_torn (by decide) rfl returned)

end VeritasOs.SignedRuns
