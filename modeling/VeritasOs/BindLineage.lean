import VeritasOs.BindConcurrent

namespace VeritasOs.BindLineage
open Text Interaction BindArtifacts BindCore

def ofLineage (decisionId executionIntentId : String) (entry : Dict) : Bool :=
  decide (entry.get "kind" = .str bindReceiptKind) && decide (entry.get "decision_id" = .str decisionId) &&
    decide (entry.get "execution_intent_id" = .str executionIntentId)

def lineage (decisionId executionIntentId : String) (entries : List Dict) : List Dict :=
  entries.filter (ofLineage decisionId executionIntentId)

def hashOf (entry : Dict) : Option String :=
  match entry.get "bind_receipt_hash" with
  | .str hash => if hash = "" then none else some hash
  | _ => none

def latestHash (receipts : List Dict) : Option String := receipts.reverse.findSome? hashOf

-- A digest as the log keeps it: a part of it that looks like a telephone number is masked.
def storedDigest (storage : TrustLog.Storage) (text : String) : String := storage.masking.redactString (storage.sha256 text)

structure Persisted (storage : TrustLog.Storage) (entry : Dict) (previous : Option String) (hash : String) : Prop where
  digest : ∃ text, hash = storedDigest storage text
  linked : entry.get "prev_bind_hash" = optStr previous
  hashed : entry.get "bind_receipt_hash" = .str hash
  receipt : ∃ fields : Dict, entry.get "bind_receipt" = .dict fields ∧ Dict.get fields "prev_bind_hash" = optStr previous ∧
    Dict.get fields "bind_receipt_hash" = .str hash

-- Each receipt names the hash of the one before it, the first one what was there before.
def Chain (storage : TrustLog.Storage) : Option String → List Dict → Prop
  | _,[] => True
  | previous,entry :: rest => ∃ hash, Persisted storage entry previous hash ∧ Chain storage (some hash) rest

-- A stored digest is not empty, and masked again it stays as it is.
structure DigestsSettled (storage : TrustLog.Storage) : Prop where
  filled : ∀ text, storedDigest storage text ≠ ""
  settled : ∀ text, storage.masking.redactString (storedDigest storage text) = storedDigest storage text

theorem latest_cons (entry : Dict) (rest : List Dict) : latestHash (entry :: rest) = (latestHash rest).or (hashOf entry) := by
  simp [latestHash]

theorem findSome_filter {α β : Type} (wanted : α → Bool) (read : α → Option β) (items : List α) :
    (items.filter wanted).findSome? read = items.findSome? fun item => if wanted item then read item else none := by
  induction items with
  | nil => rfl
  | cons item rest ih =>
    by_cases holds : wanted item = true
    · rw [List.filter_cons_of_pos holds,List.findSome?_cons,List.findSome?_cons,if_pos holds,ih]
    · rw [List.filter_cons_of_neg holds,List.findSome?_cons,if_neg holds,ih]

theorem previous_latest (decision : decisionId ≠ "") (intent : executionIntentId ≠ "")
    (entries : List Dict) : getPreviousBindHash entries decisionId executionIntentId = latestHash (lineage decisionId executionIntentId entries) := by
  have strict : ∀ {wanted : String} (found : Value), wanted ≠ "" → matchesFilter wanted found = decide (found = .str wanted) := by
    intro wanted found filled
    simp [matchesFilter,filled]
  unfold getPreviousBindHash latestHash lineage
  rw [← List.filter_reverse,findSome_filter]
  congr 1
  funext entry
  rw [strict _ decision,strict _ intent]
  rfl

theorem lineage_append (decisionId executionIntentId : String) (entries : List Dict) (line : Dict) :
    lineage decisionId executionIntentId (entries ++ [line]) =
      lineage decisionId executionIntentId entries ++ if ofLineage decisionId executionIntentId line then [line] else [] := by
  rw [lineage,List.filter_append,List.filter_singleton,cond_eq_ite]
  rfl

section Chains
variable {storage : TrustLog.Storage} (digests : DigestsSettled storage)
include digests

variable {previous : Option String} {hash : String}

theorem hashOf_persisted (persisted : Persisted storage entry previous hash) : hashOf entry = some hash := by
  obtain ⟨text,rfl⟩ := persisted.digest
  rw [hashOf,persisted.hashed]
  exact if_neg (digests.filled text)

theorem latest_digest (chain : Chain storage previous receipts) (latest : latestHash receipts = some hash) :
    ∃ text, hash = storedDigest storage text := by
  induction receipts generalizing previous with
  | nil => cases latest
  | cons entry rest ih =>
    obtain ⟨own,persisted,later⟩ := chain
    rw [latest_cons,hashOf_persisted digests persisted] at latest
    cases reached : latestHash rest with
    | none =>
      rw [reached] at latest
      cases latest
      exact persisted.digest
    | some other =>
      rw [reached] at latest
      cases latest
      exact ih later reached

theorem chain_extend (chain : Chain storage previous receipts)
    (persisted : Persisted storage entry ((latestHash receipts).or previous) hash) : Chain storage previous (receipts ++ [entry]) := by
  induction receipts generalizing previous with
  | nil => exact ⟨hash,persisted,trivial⟩
  | cons first rest ih =>
    obtain ⟨own,before,later⟩ := chain
    rw [latest_cons,hashOf_persisted digests before,Option.or_assoc] at persisted
    exact ⟨own,before,ih later persisted⟩

theorem link_copied (digest : ∀ hash, previous = some hash → ∃ text, hash = storedDigest storage text) :
    jsonCopy (TrustLog.redactValue storage.masking (optStr previous)) = some (optStr previous) := by
  cases previous with
  | none => rfl
  | some hash =>
    obtain ⟨text,rfl⟩ := digest hash rfl
    rw [optStr,TrustLog.redactValue,digests.settled]
    rfl

theorem line_persisted
    (made : TrustLog.prepareEntry storage.masking storage.sha256 (bindReceiptEntry candidate) previousSha now = .ok (prepared,line))
    (hash : ∃ text, candidate.bindReceiptHash = storage.sha256 text) (link : candidate.prevBindHash = optStr previous)
    (digest : ∀ hash, previous = some hash → ∃ text, hash = storedDigest storage text) :
    Persisted storage line previous (storage.masking.redactString candidate.bindReceiptHash) := by
  obtain ⟨_,members⟩ := TrustLog.prepareEntry_line (bindReceiptEntry_record candidate) made
  obtain ⟨text,same⟩ := hash
  have linked := link_copied digests digest
  rw [← link] at linked
  refine ⟨⟨text,by rw [same]; rfl⟩,?_,?_,?_⟩
  · obtain ⟨copy,copied,found⟩ := members "prev_bind_hash" candidate.prevBindHash (by decide) rfl
    rw [found,← link]
    exact Option.some.inj (copied.symm.trans linked)
  · obtain ⟨copy,copied,found⟩ := members "bind_receipt_hash" (.str candidate.bindReceiptHash) (by decide) rfl
    cases copied
    exact found
  · obtain ⟨fields,there,parts⟩ := (receiptLine made).payload
    obtain ⟨copy,copied,found⟩ := parts "prev_bind_hash" candidate.prevBindHash rfl
    obtain ⟨other,recopied,refound⟩ := parts "bind_receipt_hash" (.str candidate.bindReceiptHash) rfl
    refine ⟨fields,there,?_,?_⟩
    · rw [found,← link]
      exact Option.some.inj (copied.symm.trans linked)
    · cases recopied
      exact refound

end Chains

variable {sha256 : String → String} {receipt : BindReceipt} {system : BindSystem Nat Unit Bool} {i : Bool}

theorem hash_digest {hash : String} (hashed : hashBindReceipt sha256 receipt = .ok hash) : ∃ text, hash = sha256 text := by
  unfold hashBindReceipt sha256OfCanonicalJson at hashed
  split at hashed
  · cases hashed
  · exact ⟨_,(Except.ok.inj hashed).symm⟩

variable {W S ι : Type}

-- A receipt of the lineage for which the caller names no previous hash.
structure Submitted (decisionId executionIntentId : String) (receipt : BindReceipt) : Prop where
  decision : receipt.decisionId = decisionId
  intent : receipt.executionIntentId = executionIntentId
  unlinked : receipt.prevBindHash.truthy = false

-- What a call writes: the receipt linked to the latest hash that it read.
def linkedTo (receipt : BindReceipt) (entries : List Dict) (hash : String) : BindReceipt :=
  { receipt with
    prevBindHash := optStr (getPreviousBindHash entries receipt.decisionId receipt.executionIntentId)
    bindReceiptHash := hash }

def afterRead (sha256 : String → String) (receipt : BindReceipt) (entries : List Dict) : Bind S BindReceipt :=
  lift (hashBindReceipt sha256 (linkedTo receipt entries receipt.bindReceiptHash)) >>= fun hash =>
    .ask (.appendTrustLog (bindReceiptEntry (linkedTo receipt entries hash))) fun answer => lift answer >>= fun entry =>
      pure { linkedTo receipt entries hash with trustlogHash := (entry.get "sha256").orStr "" }

theorem append_reads (unlinked : receipt.prevBindHash.truthy = false) :
    (appendBindReceiptTrustlog sha256 receipt : Bind S BindReceipt) = .ask .iterTrustLog (afterRead sha256 receipt) := by
  unfold appendBindReceiptTrustlog previousBindHash
  rw [unlinked]
  rfl

theorem appends_after_read (unlinked : receipt.prevBindHash.truthy = false)
    (called : Interaction.Calls (appendBindReceiptTrustlog sha256 receipt) history (.appendTrustLog entry)) :
    ∃ entries hash, history = [⟨.iterTrustLog,entries⟩] ∧ (∃ text, hash = sha256 text) ∧ entry = bindReceiptEntry (linkedTo receipt entries hash) := by
  rw [append_reads unlinked] at called
  rcases calls_ask.mp called with ⟨_,same⟩ | ⟨entries,rest,rfl,later⟩
  · cases same
  · rcases calls_bind.mp later with inside | ⟨hash,left,right,rfl,hashed,asked⟩
    · exact absurd inside (by simp)
    · obtain ⟨rfl,made⟩ := returns_lift.mp hashed
      rcases calls_ask.mp asked with ⟨rfl,same⟩ | ⟨answer,rest,rfl,last⟩
      · cases same
        exact ⟨entries,hash,rfl,hash_digest made,rfl⟩
      · exact absurd last (by simp [calls_bind])

section Calls
variable [DecidableEq ι] (storage : TrustLog.Storage) (around : ι → Surroundings) (adapter : ι → Adapter W S) (receipt : ι → BindReceipt)
  (decisionId executionIntentId : String)

def appends (host : Host W) : BindSystem W S ι := launch (fun i => appendBindReceiptTrustlog storage.sha256 (receipt i)) host

-- What keeps the lineage from forking, on a log that is not rotated: from the read of a call
-- to its append no receipt of the lineage was written, and the read got all there were.
structure StepMeets (system : BindSystem W S ι) (i : ι) (op : Op S) : Prop where
  room : Room storage op system.shared
  fresh : ∀ entry, op = .appendTrustLog entry → ∃ entries, lookedUp (system.threads i).history = some entries ∧
    lineage decisionId executionIntentId entries = lineage decisionId executionIntentId system.shared.log.active

variable {storage around adapter receipt decisionId executionIntentId}

theorem append_chained (digests : DigestsSettled storage) (room : log.active.length < storage.maxLines)
    (hash : ∃ text, candidate.bindReceiptHash = storage.sha256 text)
    (link : candidate.prevBindHash = optStr (latestHash (lineage decisionId executionIntentId log.active)))
    (chain : Chain storage none (lineage decisionId executionIntentId log.active)) : Chain storage none
      (lineage decisionId executionIntentId (TrustLog.appendTrustLog storage (bindReceiptEntry candidate) log).2.active) := by
  rcases TrustLog.appendTrustLog_lines storage (bindReceiptEntry candidate) log with ⟨_,same⟩ | ⟨prepared,line,made,_,same⟩
  · rwa [same]
  · rw [same,TrustLog.rotateIfNeeded_room room,lineage_append]
    split
    · have persisted := line_persisted digests made hash link fun _ latest => latest_digest digests chain latest
      exact chain_extend digests chain (by rw [Option.or_none]; exact persisted)
    · rwa [List.append_nil]

theorem chain_step (digests : DigestsSettled storage) (same : ∀ i, (around i).storage = storage) (decision : decisionId ≠ "")
    (intent : executionIntentId ≠ "") (submitted : ∀ i, Submitted decisionId executionIntentId (receipt i)) {host : Host W}
    {meets : BindSystem W S ι → ι → Op S → Prop} {system : BindSystem W S ι}
    (path : Runs (handlers around adapter) meets (appends storage receipt host) system)
    (chain : Chain storage none (lineage decisionId executionIntentId system.shared.log.active)) {i : ι} {op : Op S}
    {next : Ans S op → Bind S BindReceipt} (pending : (system.threads i).program = .ask op next)
    (condition : StepMeets storage decisionId executionIntentId system i op) : Chain storage none
      (lineage decisionId executionIntentId (handler (around i) (adapter i) op system.shared).2.log.active) := by
  cases op with
  | appendTrustLog entry =>
    obtain ⟨entries,read,unchanged⟩ := condition.fresh entry rfl
    have reached := history_leads path i
    rw [pending] at reached
    obtain ⟨answer,hash,history,digest,rfl⟩ := appends_after_read (submitted i).unlinked ⟨_,reached⟩
    rw [history] at read
    obtain rfl : answer = entries := Option.some.inj read
    rw [show (handler (around i) (adapter i) (.appendTrustLog _) system.shared).2.log =
      (TrustLog.appendTrustLog (around i).storage _ system.shared.log).2 from rfl,same i]
    refine append_chained digests (condition.room _ rfl) digest ?_ chain
    rw [← unchanged,linkedTo,(submitted i).decision,(submitted i).intent,previous_latest decision intent]
  | _ => exact chain

end Calls

-- In every run whose steps meet the conditions the lineage stays one chain.
theorem lineage_chained [DecidableEq ι] (storage : TrustLog.Storage) (digests : DigestsSettled storage) (around : ι → Surroundings)
    (same : ∀ i, (around i).storage = storage) (adapter : ι → Adapter W S) (decisionId executionIntentId : String) (decision : decisionId ≠ "")
    (intent : executionIntentId ≠ "") (receipt : ι → BindReceipt) (submitted : ∀ i, Submitted decisionId executionIntentId (receipt i))
    (host : Host W) (start : Chain storage none (lineage decisionId executionIntentId host.log.active)) (system : BindSystem W S ι)
    (path : Runs (handlers around adapter) (StepMeets storage decisionId executionIntentId) (appends storage receipt host) system) :
    Chain storage none (lineage decisionId executionIntentId system.shared.log.active) := by
  induction path with
  | start => exact start
  | step earlier i op next pending condition ih => exact chain_step digests same decision intent submitted earlier ih pending condition

def twinReceipt (i : Bool) : BindReceipt :=
  { bindReceiptId := if i then "receipt-2" else "receipt-1"
    executionIntentId := "intent-1"
    decisionId := "decision-1"
    bindTs := "2024-01-01T00:00:00Z" }

theorem twin_submitted (i : Bool) : Submitted "decision-1" "intent-1" (twinReceipt i) := ⟨rfl,rfl,rfl⟩

theorem marked_settled : DigestsSettled markedStorage := ⟨markedStorage_nonempty,fun _ => rfl⟩

abbrev twinHandlers : Bool → Interaction.Handler (Ans Unit) (Host Nat) := handlers (fun _ => markedSurroundings) twinAdapter

abbrev twinStart : BindSystem Nat Unit Bool := appends markedStorage twinReceipt ⟨0,{}⟩

theorem twin_reads (path : Runs twinHandlers meets twinStart system)
    (unread : system.threads i = twinStart.threads i) (condition : meets system i .iterTrustLog) :
    ∃ after, Runs twinHandlers meets twinStart after ∧ after.shared.log.active = system.shared.log.active ∧
      after.threads i = ⟨afterRead markedStorage.sha256 (twinReceipt i) system.shared.log.active,[⟨.iterTrustLog,system.shared.log.active⟩]⟩ ∧
      ∀ j, j ≠ i → after.threads j = system.threads j := by
  have pending : (system.threads i).program = .ask .iterTrustLog (afterRead markedStorage.sha256 (twinReceipt i)) := by
    rw [unread]
    exact append_reads (twin_submitted i).unlinked
  refine ⟨_,path.step i .iterTrustLog _ pending condition,rfl,?_,fun j other => advance_other _ _ _ _ _ other⟩
  rw [advance_self,unread]
  rfl

theorem twin_appends (path : Runs twinHandlers meets twinStart system)
    (read : system.threads i = ⟨afterRead markedStorage.sha256 (twinReceipt i) entries,history⟩)
    (digest : ∀ hash, latestHash (lineage "decision-1" "intent-1" entries) = some hash → ∃ text, hash = storedDigest markedStorage text)
    (room : system.shared.log.active.length < markedStorage.maxLines) (condition : ∀ entry, meets system i (.appendTrustLog entry)) :
    ∃ after line hash, Runs twinHandlers meets twinStart after ∧ after.shared.log.active = system.shared.log.active ++ [line] ∧
      ofLineage "decision-1" "intent-1" line = true ∧
      Persisted markedStorage line (latestHash (lineage "decision-1" "intent-1" entries)) hash ∧
      ∀ j, j ≠ i → after.threads j = system.threads j := by
  have objects : ∀ value ∈ (twinReceipt i).objects, Recordable value := by
    have empty : Recordable (.dict []) := rfl
    have absent : Recordable (optDict none) := rfl
    have unregulated : Recordable (.dict ({} : Regulated).toDict) := rfl
    simp [BindReceipt.objects,twinReceipt,empty,absent,unregulated]
  obtain ⟨hash,hashed⟩ := (hashBindReceipt_isOk markedStorage.sha256 (linkedTo (twinReceipt i) entries (twinReceipt i).bindReceiptHash)).mpr
    ((chained_recordable rfl _).mpr objects)
  let candidate := linkedTo (twinReceipt i) entries hash
  have pending : (system.threads i).program = .ask (.appendTrustLog (bindReceiptEntry candidate)) fun answer => lift answer >>= fun entry =>
      pure { candidate with trustlogHash := (entry.get "sha256").orStr "" } := by
    rw [read]
    unfold afterRead
    rw [hashed]
    rfl
  have rehashed : hashBindReceipt markedStorage.sha256 candidate = .ok hash := hashed
  have link : candidate.prevBindHash = optStr (latestHash (lineage "decision-1" "intent-1" entries)) :=
    congrArg optStr (previous_latest (show "decision-1" ≠ "" by decide) (show "intent-1" ≠ "" by decide) entries)
  obtain ⟨prepared,stored⟩ : ∃ prepared, (TrustLog.appendTrustLog markedStorage (bindReceiptEntry candidate) system.shared.log).1 = .ok prepared :=
    TrustLog.appendTrustLog_succeeds (receiptEntry_writable rehashed) rfl
  rcases TrustLog.appendTrustLog_lines markedStorage (bindReceiptEntry candidate) system.shared.log with ⟨⟨error,failed⟩,_⟩ | ⟨_,line,made,_,same⟩
  · cases failed.symm.trans stored
  · rw [TrustLog.rotateIfNeeded_room room] at same
    have written := receiptLine made
    have own : ofLineage "decision-1" "intent-1" line = true := by
      rw [ofLineage,written.kind,written.decision,written.intent]
      rfl
    exact ⟨_,line,_,path.step i _ _ pending (condition _),same,own,line_persisted marked_settled made (hash_digest rehashed) link digest,
      fun j other => advance_other _ _ _ _ _ other⟩

theorem read_room (host : Host Nat) : Room markedStorage (.iterTrustLog : Op Unit) host := by
  rintro entry ⟨⟩

theorem read_meets (system : BindSystem Nat Unit Bool) (i : Bool) : StepMeets markedStorage "decision-1" "intent-1" system i .iterTrustLog :=
  ⟨read_room system.shared,by rintro entry ⟨⟩⟩

theorem append_meets (read : system.threads i = ⟨program,[⟨.iterTrustLog,system.shared.log.active⟩]⟩)
    (room : system.shared.log.active.length < markedStorage.maxLines) (entry : Dict) :
    StepMeets markedStorage "decision-1" "intent-1" system i (.appendTrustLog entry) :=
  ⟨fun _ _ => room,fun _ _ => ⟨system.shared.log.active,by rw [read]; rfl,rfl⟩⟩

theorem latest_none (empty : entries = []) (hash : String) :
    latestHash (lineage "decision-1" "intent-1" entries) = some hash → ∃ text, hash = storedDigest markedStorage text := by
  subst empty
  intro latest
  cases latest

theorem lineage_chained_sample : ∃ system : BindSystem Nat Unit Bool,
    Runs twinHandlers (StepMeets markedStorage "decision-1" "intent-1") twinStart system ∧
      (lineage "decision-1" "intent-1" system.shared.log.active).length = 2 ∧
      Chain markedStorage none (lineage "decision-1" "intent-1" system.shared.log.active) := by
  obtain ⟨first,reading,empty,mine,others⟩ := twin_reads .start (i := false) rfl (read_meets _ _)
  have none_ : first.shared.log.active = [] := empty
  obtain ⟨second,line,hash,writing,one,own,persisted,kept⟩ := twin_appends reading mine (latest_none rfl) (by rw [none_]; decide)
    (append_meets (by rw [mine,empty]) (by rw [none_]; decide))
  rw [none_,List.nil_append] at one
  have unread : second.threads true = twinStart.threads true := (kept true (by decide)).trans (others true (by decide))
  obtain ⟨third,rereading,unchanged,theirs,_⟩ := twin_reads writing unread (read_meets _ _)
  have latest : latestHash (lineage "decision-1" "intent-1" second.shared.log.active) = some hash := by
    rw [one,lineage,List.filter_singleton,own]
    exact (latest_cons line []).trans (hashOf_persisted marked_settled persisted)
  have same : third.shared.log.active = [line] := unchanged.trans one
  have room : [line].length < markedStorage.maxLines := show 1 < 5000 by decide
  obtain ⟨last,other,_,rewriting,two,owned,_,_⟩ := twin_appends rereading theirs (by rw [latest]; rintro _ ⟨⟩; exact persisted.digest)
    (by rw [same]; exact room) (append_meets (by rw [theirs,unchanged]) (by rw [same]; exact room))
  refine ⟨last,rewriting,?_,?_⟩
  · rw [two,same,lineage_append,lineage,List.filter_singleton,own,owned]
    rfl
  · exact lineage_chained markedStorage marked_settled (fun _ => markedSurroundings) (fun _ => rfl) twinAdapter "decision-1" "intent-1" (by decide)
      (by decide) twinReceipt twin_submitted ⟨0,{}⟩ trivial last rewriting

-- Both calls read the log before either has written, and both receipts begin the lineage.
theorem lineage_forks : ∃ system : BindSystem Nat Unit Bool,
    Runs twinHandlers (fun system _ op => Room markedStorage op system.shared) twinStart system ∧
      ¬Chain markedStorage none (lineage "decision-1" "intent-1" system.shared.log.active) := by
  have begun : Runs twinHandlers (fun system _ op => Room markedStorage op system.shared) twinStart twinStart := .start
  obtain ⟨first,reading,empty,mine,others⟩ := twin_reads begun (i := false) rfl (read_room _)
  obtain ⟨second,rereading,unchanged,theirs,kept⟩ := twin_reads reading (i := true) (others true (by decide)) (read_room _)
  have none_ : second.shared.log.active = [] := unchanged.trans empty
  obtain ⟨third,line,hash,writing,one,own,persisted,left⟩ := twin_appends rereading ((kept false (by decide)).trans mine) (latest_none rfl)
    (by rw [none_]; decide) (fun _ _ _ => by rw [none_]; decide)
  rw [none_,List.nil_append] at one
  have room : [line].length < markedStorage.maxLines := show 1 < 5000 by decide
  obtain ⟨last,other,rehash,rewriting,two,owned,repersisted,_⟩ := twin_appends writing ((left true (by decide)).trans theirs)
    (latest_none empty) (by rw [one]; exact room) (fun _ _ _ => by rw [one]; exact room)
  refine ⟨last,rewriting,?_⟩
  rw [two,one,lineage_append,lineage,List.filter_singleton,own,owned]
  rintro ⟨_,_,between,linked,_⟩
  rw [empty] at repersisted
  have unlinked := repersisted.linked
  cases linked.linked.symm.trans unlinked

end VeritasOs.BindLineage
