import VeritasOs.ReceiptLog
import VeritasOs.BindRollback

namespace VeritasOs.BindCore
open Text DateTime Interaction BindArtifacts BindAdmissibility DecisionSemantics

variable {W S : Type} {sha256 : String → String} {storage : TrustLog.Storage}

-- bind_hash_matches: the receipt, normalised and hashed again, has the hash it carries.
def BindHashMatches (sha256 : String → String) (receipt : BindReceipt) : Prop :=
  ∃ normalized, normalizeBindReceipt receipt = .ok normalized ∧ hashBindReceipt sha256 normalized = .ok receipt.bindReceiptHash

variable {receipt : BindReceipt} {call : Call} {cleared : Cleared S} {key : String} {intent : ExecutionIntent} {log : TrustLog.Log}
variable {host : Host W}

theorem normalize_trustlogHash (made : normalizeBindReceipt receipt = .ok normalized) : normalized.trustlogHash = receipt.trustlogHash := by
  rw [(receiptFrom_ok made).1]
  exact orStr_str receipt.trustlogHash

theorem hashBindReceipt_text {hash : String} (hashed : hashBindReceipt sha256 receipt = .ok hash) :
    ∃ text, canonicalJsonDumps (.dict (BindReceipt.toDict { receipt with bindReceiptHash := "" })) = some text ∧ hash = sha256 text := by
  rw [hashBindReceipt,blank_hash,sha256OfCanonicalJson] at hashed
  split at hashed
  · cases hashed
  · rename_i text written
    exact ⟨text,written,(Except.ok.inj hashed).symm⟩

-- The hash was taken without a TrustLog hash, so a receipt that has one does not match.
theorem linked_unverified (injective : Function.Injective sha256)
    (hashed : hashBindReceipt sha256 candidate = .ok receipt.bindReceiptHash) (blank : candidate.trustlogHash = "")
    (linked : receipt.trustlogHash ≠ "") : ¬BindHashMatches sha256 receipt := by
  rintro ⟨normalized,made,again⟩
  obtain ⟨text,written,same⟩ := hashBindReceipt_text hashed
  obtain ⟨other,rewritten,equal⟩ := hashBindReceipt_text again
  obtain rfl : text = other := injective (same.symm.trans equal)
  have listed := canonical_str_member "trustlog_hash" normalized.trustlogHash rewritten written (toDict_named _)
    (lookup_mem (by rfl))
  have found := lookup_of_mem (receipt_record _).distinct listed
  have link : normalized.trustlogHash = candidate.trustlogHash := by
    simpa using found.symm.trans (show _ = some (Value.str candidate.trustlogHash) from rfl)
  exact linked (by rw [← normalize_trustlogHash made,link,blank])

def Unlinked : BindReceipt ⊕ Cleared S → Prop
  | .inl receipt => receipt.trustlogHash = ""
  | .inr cleared => cleared.base.trustlogHash = ""

theorem baseReceipt_unlinked (sha256 : String → String) (call : Call) (ts key : String) :
    Yields (fun base => base.trustlogHash = "") (baseReceipt sha256 call ts key : Bind S BindReceipt) := by
  unfold baseReceipt
  exact yields_all fun _ => yields_all fun _ => yields_all fun _ => rfl

theorem boundaryGate_unlinked (blank : cleared.base.trustlogHash = "") : Yields Unlinked (boundaryGate call cleared) := by
  unfold boundaryGate
  refine yields_all fun result => ?_
  dsimp only
  split
  · exact yields_all fun _ => blank
  · exact yields_all fun _ => blank
  · exact yields_all fun _ => blank
  · exact blank

theorem signalGate_unlinked (blank : base.trustlogHash = "") : Yields Unlinked (signalGate call ts key base snapshot fingerprint) := by
  unfold signalGate
  refine yields_all fun authority => yields_all fun constraints => yields_all fun risk => yields_all fun ttl =>
    yields_all fun admissibility => ?_
  dsimp only
  split
  · exact yields_all fun _ => blank
  · split
    · exact yields_all fun _ => blank
    · exact boundaryGate_unlinked blank

theorem clearGates_unlinked (blank : base.trustlogHash = "") :
    Yields Unlinked (clearGates call ts key base : Bind S (BindReceipt ⊕ Cleared S)) := by
  unfold clearGates
  split
  · exact yields_all fun _ => blank
  · refine yields_all fun seen => ?_
    cases seen with
    | error error =>
      dsimp only
      split
      · trivial
      · exact blank
    | ok pair => exact signalGate_unlinked blank

def StageUnlinked : Stage S → Prop
  | .replayed _ => True
  | .refused receipt => receipt.trustlogHash = ""
  | .cleared clearance => clearance.base.trustlogHash = ""

theorem prelude_unlinked (sha256 : String → String) (call : Call) : Yields StageUnlinked (prelude sha256 call : Bind S (Stage S)) := by
  unfold prelude
  refine yields_all fun ts => yields_all fun rawKey => yields_all fun found => ?_
  cases found with
  | some receipt => trivial
  | none =>
    refine yields_bind (baseReceipt_unlinked _ _ _ _) fun base blank => yields_bind (clearGates_unlinked blank) fun outcome kept => ?_
    cases outcome with
    | inl receipt => exact kept
    | inr clearance => exact kept

theorem described_unlinked (blank : ∀ target, (build target).trustlogHash = "") :
    Yields (fun receipt => receipt.trustlogHash = "") (described build : Bind S BindReceipt) :=
  yields_all fun target => blank target

theorem rollbackUnchecked_unlinked {code failure : String} {reason : Value} (blank : cleared.base.trustlogHash = "") :
    Yields (fun receipt => receipt.trustlogHash = "") (rollbackUnchecked intent cleared code reason failure) := by
  unfold rollbackUnchecked
  refine yields_all fun answer => ?_
  cases answer with
  | error error =>
    dsimp only
    split
    · trivial
    · exact described_unlinked fun _ => blank
  | ok word =>
    dsimp only
    split
    · exact described_unlinked fun _ => blank
    · exact described_unlinked fun _ => blank

theorem rollbackAfterVerificationFailure_unlinked (blank : cleared.base.trustlogHash = "") :
    Yields (fun receipt => receipt.trustlogHash = "") (rollbackAfterVerificationFailure intent cleared) := by
  unfold rollbackAfterVerificationFailure
  refine yields_all fun answer => ?_
  cases answer with
  | error error =>
    dsimp only
    split
    · trivial
    · exact described_unlinked fun _ => blank
  | ok word =>
    dsimp only
    split
    · exact described_unlinked fun _ => blank
    · refine yields_all fun seen => ?_
      cases seen with
      | error error =>
        dsimp only
        split
        · trivial
        · exact described_unlinked fun _ => blank
      | ok pair => exact described_unlinked fun _ => blank

theorem commitStage_unlinked (blank : cleared.base.trustlogHash = "") :
    Yields (fun receipt => receipt.trustlogHash = "") (commitStage intent cleared) := by
  rw [commitStage_ask]
  intro answer
  cases answer with
  | error error =>
    simp only [afterApply,applyFailed]
    split
    · trivial
    · split
      · exact rollbackUnchecked_unlinked blank
      · exact described_unlinked fun _ => blank
  | ok value =>
    simp only [afterApply,verifyApplied]
    refine yields_all fun verified => ?_
    split
    · exact rollbackAfterVerificationFailure_unlinked blank
    · refine yields_all fun seen => ?_
      cases seen with
      | error error =>
        dsimp only
        split
        · trivial
        · exact rollbackUnchecked_unlinked blank
      | ok pair => exact described_unlinked fun _ => blank

def Foreign (storage : TrustLog.Storage) (entry : Dict) : Prop :=
  ∀ previous now prepared line, TrustLog.prepareEntry storage.masking storage.sha256 entry previous now = .ok (prepared,line) →
    line.get "kind" ≠ .str bindReceiptKind

-- A receipt as it is when its entry is built: hashed, and not yet linked to the log.
structure Hashed (sha256 : String → String) (candidate : BindReceipt) : Prop where
  blank : candidate.trustlogHash = ""
  hash : hashBindReceipt sha256 candidate = .ok candidate.bindReceiptHash

def Reviewed (storage : TrustLog.Storage) (entry : Dict) : Prop :=
  Foreign storage entry ∨ ∃ candidate, entry = bindReceiptEntry candidate ∧ Hashed storage.sha256 candidate

-- Every line that reads as a bind receipt was written for a hashed one.
def Kept (storage : TrustLog.Storage) (log : TrustLog.Log) : Prop :=
  ∀ line ∈ log.active, line.get "kind" = .str bindReceiptKind →
    ∃ candidate, ReceiptLine storage candidate line ∧ Hashed storage.sha256 candidate

-- The masking leaves the kind of an intent entry alone and makes no digest of another.
structure MaskingSound (storage : TrustLog.Storage) : Prop where
  intentKind : storage.masking.redactString "governance.execution_intent" ≠ bindReceiptKind
  digests : ∀ text other, storage.masking.redactString (storage.sha256 text) = storage.sha256 other →
    storage.masking.redactString (storage.sha256 text) = storage.sha256 text

theorem rotateIfNeeded_mem (listed : line ∈ (TrustLog.rotateIfNeeded maxLines log).active) : line ∈ log.active := by
  unfold TrustLog.rotateIfNeeded at listed
  split at listed
  · exact listed
  · cases listed

theorem kept_append (reviewed : Reviewed storage entry) (kept : Kept storage log) :
    Kept storage (TrustLog.appendTrustLog storage entry log).2 := by
  rcases TrustLog.appendTrustLog_lines storage entry log with ⟨_,same⟩ | ⟨prepared,line,made,_,same⟩
  · intro old listed
    exact kept old (same ▸ listed)
  · intro other listed isReceipt
    rw [same] at listed
    rcases List.mem_append.mp listed with old | new
    · exact kept other (rotateIfNeeded_mem old) isReceipt
    · obtain rfl := List.mem_singleton.mp new
      rcases reviewed with foreign | ⟨candidate,rfl,hashed⟩
      · exact absurd isReceipt (foreign _ _ _ _ made)
      · exact ⟨candidate,receiptLine made,hashed⟩

theorem intentEntry_foreign (sound : MaskingSound storage)
    (built : buildExecutionIntentTrustlogEntry storage.sha256 intent = .ok entry) : Foreign storage entry := by
  intro previous now prepared line made
  unfold buildExecutionIntentTrustlogEntry at built
  cases hashed : hashExecutionIntent storage.sha256 intent with
  | error error => simp [hashed,bind,Except.bind] at built
  | ok intentHash =>
    simp only [hashed,bind,Except.bind,pure,Except.pure,Except.ok.injEq] at built
    subst entry
    obtain ⟨_,members⟩ := TrustLog.prepareEntry_line ⟨by simp [StrKeys,field],by simp [field]⟩ made
    rw [text_part (members "kind" _ (by decide) rfl)]
    simpa using sound.intentKind

def Adds (storage : TrustLog.Storage) (op : Op S) : Prop := ∀ entry, op = .appendTrustLog entry → Reviewed storage entry

theorem finalizeReceipt_adds (sound : MaskingSound storage) (blank : receipt.trustlogHash = "") :
    Within (Adds (S := S) storage) (finalizeReceipt storage.sha256 intent append receipt) := by
  refine (finalizeReceipt_finalizes storage.sha256 intent append receipt).mono fun op entries entry append => ?_
  rcases entries entry append with built | ⟨candidate,rfl,link,hashed⟩
  · exact .inl (intentEntry_foreign sound built)
  · exact .inr ⟨candidate,rfl,link.trans blank,hashed⟩

theorem execute_adds (sound : MaskingSound storage) (call : Call) :
    Within (Adds (S := S) storage) (executeBindAdjudication storage.sha256 call) := by
  have unwritten : ∀ op : Op S, op.effectful = false ∨ op.logs = false → Adds storage op := by
    rintro op silent entry rfl
    simp [Op.effectful,Op.logs] at silent
  refine within_bind_yields ((prelude_calm call).mono fun op calm => unwritten op (.inl calm)) (prelude_unlinked _ _) ?_
  intro stage blank
  cases stage with
  | replayed receipt => trivial
  | refused receipt => exact finalizeReceipt_adds sound blank
  | cleared clearance =>
    exact within_bind_yields ((commitStage_unlogged _ _).mono fun op unlogged => unwritten op (.inr unlogged))
      (commitStage_unlinked blank) fun receipt kept => finalizeReceipt_adds sound kept

theorem kept_handler (same : around.storage = storage) (adapter : Adapter W S) (writes : Adds storage op) (kept : Kept storage host.log) :
    Kept storage (handler around adapter op host).2.log := by
  subst same
  cases op with
  | appendTrustLog entry => exact kept_append (writes entry rfl) kept
  | _ => exact kept

theorem found_unverified (injective : Function.Injective storage.sha256) (nonempty : ∀ text, storage.sha256 text ≠ "")
    (sound : MaskingSound storage) (kept : Kept storage log) {entries : List Dict} (read : ∀ entry ∈ entries, entry ∈ log.active)
    {receiptId intentId decisionId : String} {found : BindReceipt}
    (listed : found ∈ findBindReceipts entries receiptId intentId decisionId) (hash : receipt.bindReceiptHash = found.bindReceiptHash)
    (link : receipt.trustlogHash = found.trustlogHash) : ¬BindHashMatches storage.sha256 receipt := by
  obtain ⟨entry,there,taken⟩ := List.mem_filterMap.mp listed
  split at taken
  · rename_i filters
    simp only [Bool.and_eq_true,decide_eq_true_eq] at filters
    obtain ⟨candidate,stored,hashed⟩ := kept entry (read entry there) filters.1.1.1
    obtain ⟨own,linked⟩ := extract_line stored taken
    intro matched
    obtain ⟨_,_,again⟩ := id matched
    obtain ⟨text,_,first⟩ := hashBindReceipt_text hashed.hash
    obtain ⟨other,_,second⟩ := hashBindReceipt_text again
    have masked : receipt.bindReceiptHash = storage.masking.redactString (storage.sha256 text) := by rw [hash,own,first]
    have digest := sound.digests text other (masked.symm.trans second)
    have whole : hashBindReceipt storage.sha256 candidate = .ok receipt.bindReceiptHash := by
      rw [hashed.hash,first,masked,digest]
    exact linked_unverified injective whole hashed.blank (link ▸ linked nonempty) matched
  · cases taken

theorem duplicate_listed (found : findDuplicateBindReceipt entries intent key = some duplicate) :
    duplicate ∈ findBindReceipts entries "" intent.executionIntentId intent.decisionId :=
  List.mem_reverse.mp (List.mem_of_find?_eq_some found)

theorem written_unverified (around : Surroundings) (injective : Function.Injective around.storage.sha256)
    (nonempty : ∀ text, around.storage.sha256 text ≠ "") (blank : receipt.trustlogHash = "")
    (returned : run (handler around adapter) (finalizeReceipt around.storage.sha256 intent true receipt) host = (.ok final,after)) :
    ¬BindHashMatches around.storage.sha256 final := by
  obtain ⟨trace,follows,path⟩ := run_returns returned
  unfold finalizeReceipt at path
  simp only [Bool.not_true,Bool.false_eq_true,if_false] at path
  obtain ⟨_,left,right,rfl,_,appended⟩ := returns_bind.mp path
  obtain ⟨reads,previous,hash,entry,_,hashed,rfl,rfl⟩ := appendBindReceipt_returns appended
  obtain ⟨middle,_,last⟩ := (follows_append _ _ _ _ _).mp follows
  obtain ⟨before,_,answered,_⟩ := (follows_append _ _ _ _ _).mp last
  have stored : TrustLog.appendTrustLog around.storage _ before.log = (.ok entry,_) := Prod.ext (Eq.symm answered) rfl
  refine linked_unverified injective hashed blank ?_
  rcases TrustLog.appendTrustLog_lines around.storage _ before.log with ⟨⟨error,failed⟩,_⟩ | ⟨prepared,line,made,answer,_⟩
  · rw [stored] at failed
    cases failed
  · obtain rfl := answer entry (by rw [stored])
    obtain ⟨⟨text,digest,_⟩,_⟩ := TrustLog.prepareEntry_line (bindReceiptEntry_record _) made
    simpa [digest] using nonempty text

inductive Chronicle (storage : TrustLog.Storage) : Host W → Prop
  | opened (world : W) : Chronicle storage ⟨world,{}⟩
  | call {S : Type} {host : Host W} (earlier : Chronicle storage host) (around : Surroundings) (adapter : Adapter W S) (call : Call)
      (same : around.storage = storage) : Chronicle storage (execute around adapter call host).2
  | append {host : Host W} (earlier : Chronicle storage host) (entry : Dict) (foreign : Foreign storage entry) :
      Chronicle storage { host with log := (TrustLog.appendTrustLog storage entry host.log).2 }

theorem execute_kept (sound : MaskingSound storage) (same : around.storage = storage) (adapter : Adapter W S)
    (call : Call) (kept : Kept storage host.log) : Kept storage (execute around adapter call host).2.log := by
  obtain ⟨trace,follows,path⟩ := run_exact (handler around adapter) (executeBindAdjudication around.storage.sha256 call) host
  rw [same] at path
  exact (follows_invariant (Adds storage) (fun host => Kept storage host.log) (fun op writes host => kept_handler same adapter writes)
    follows (path.within (execute_adds sound call)).1 kept).1

theorem chronicle_kept (sound : MaskingSound storage) (reached : Chronicle storage host) : Kept storage host.log := by
  induction reached with
  | opened world => exact fun line listed => nomatch listed
  | call _ around adapter call same ih => exact execute_kept sound same adapter call ih
  | append _ entry foreign ih => exact kept_append (.inl foreign) ih

-- No receipt that went through the log re-verifies, neither the one returned nor one read back.
theorem receipts_never_reverify (storage : TrustLog.Storage) (injective : Function.Injective storage.sha256)
    (nonempty : ∀ text, storage.sha256 text ≠ "") (sound : MaskingSound storage) (host : Host W) (reached : Chronicle storage host)
    (around : Surroundings) (same : around.storage = storage) (adapter : Adapter W S) (call : Call)
    (appends : call.appendTrustlog = true) (receipt : BindReceipt) (final : Host W)
    (returned : execute around adapter call host = (.ok receipt,final)) : ¬BindHashMatches storage.sha256 receipt ∧
      ∀ receiptId intentId decisionId, ∀ found ∈ findBindReceipts final.log.active receiptId intentId decisionId,
        ¬BindHashMatches storage.sha256 found := by
  have kept := chronicle_kept sound reached
  have after : Kept storage final.log := by
    have later := execute_kept sound same adapter call kept
    rwa [returned] at later
  refine ⟨?_,fun _ _ _ found listed => found_unverified injective nonempty sound after (fun _ there => there) listed rfl rfl⟩
  subst same
  obtain ⟨stage,middle,staged,later⟩ := run_bind_ok.mp returned
  obtain ⟨trace,follows,path⟩ := run_returns staged
  have blank : StageUnlinked stage := Leads.yields path (prelude_unlinked _ _)
  cases stage with
  | replayed old =>
    cases later
    obtain ⟨entries,duplicate,key,read,hit,rfl⟩ := prelude_replayed path
    have calm := (Leads.within path (prelude_calm call)).1
    obtain ⟨_,each⟩ := follows_invariant (Adds around.storage) (fun host => Kept around.storage host.log)
      (fun op writes host => kept_handler rfl adapter writes) follows
      (fun event listed entry append => absurd (calm event listed) (by simp [append,Calm,Op.effectful])) kept
    obtain ⟨host',kept',answer⟩ := each _ read
    have lines : ∀ entry ∈ entries, entry ∈ host'.log.active := by
      rw [show entries = _ from answer]
      intro entry listed
      simp only [handler,onLog,TrustLog.iterTrustLog] at listed
      split at listed
      · cases listed
      · exact listed
    exact found_unverified injective nonempty sound kept' lines (duplicate_listed hit) rfl rfl
  | refused refusal =>
    rw [conclude,appends] at later
    exact written_unverified around injective nonempty blank later
  | cleared clearance =>
    obtain ⟨applied,after,performed,finalized⟩ := run_bind_ok.mp later
    obtain ⟨effect,_,stagePath⟩ := run_returns performed
    rw [appends] at finalized
    exact written_unverified around injective nonempty (Leads.yields stagePath (commitStage_unlinked blank)) finalized

def markedStorage : TrustLog.Storage := { quietStorage with sha256 := fun s => "#" ++ s }

def markedSurroundings : Surroundings := { quietSurroundings with storage := markedStorage }

def countingAdapter (verify : Except Exc Value) : Adapter Nat Unit where
  buildIdempotencyKey _ count := (.ok (.str "key-1"),count)
  snapshot count := (.ok (),count)
  fingerprintState _ count := (.ok (.str "state-1"),count)
  validateAuthority _ _ count := (.ok (.bool true),count)
  validateConstraints _ _ count := (.ok (.dict [(.str "window",.bool true)]),count)
  assessRuntimeRisk _ _ count := (.ok (.bool true),count)
  apply _ _ count := (.ok .none,count + 1)
  verifyPostconditions _ _ count := (verify,count)
  revert _ _ count := (.ok (.bool true),count - 1)
  describeTarget count := (.ok (.str "config"),count)

theorem markedStorage_injective : Function.Injective markedStorage.sha256 := by
  intro left right same
  have lists : "#".toList ++ left.toList = "#".toList ++ right.toList := by
    simpa [markedStorage] using congrArg String.toList same
  exact String.toList_inj.mp (List.append_cancel_left lists)

theorem markedStorage_nonempty (text : String) : markedStorage.sha256 text ≠ "" := by
  intro empty
  have lists := congrArg String.toList empty
  simp [markedStorage] at lists

theorem markedStorage_sound : MaskingSound markedStorage := ⟨by decide,fun _ _ _ => rfl⟩

theorem commit_stages : ∃ clearance middle applied after,
    run (handler markedSurroundings (countingAdapter (.ok (.bool true)))) (prelude markedStorage.sha256 sampleCall) ⟨0,{}⟩ =
      (.ok (.cleared clearance),middle) ∧
    run (handler markedSurroundings (countingAdapter (.ok (.bool true)))) (commitStage sampleIntent clearance) middle =
      (.ok applied,after) ∧
    applied.trustlogHash = "" ∧ applied.prevBindHash = .none ∧ (∃ hash, hashBindReceipt markedStorage.sha256 applied = .ok hash) ∧
    ∃ hash, hashExecutionIntent markedStorage.sha256 sampleIntent = .ok hash :=
  ⟨_,_,_,_,rfl,rfl,rfl,rfl,⟨_,rfl⟩,_,rfl⟩

theorem commit_returns : ∃ applied after receipt final, applied.trustlogHash = "" ∧
    run (handler markedSurroundings (countingAdapter (.ok (.bool true))))
      (finalizeReceipt markedStorage.sha256 sampleIntent true applied) after = (.ok receipt,final) ∧
    execute markedSurroundings (countingAdapter (.ok (.bool true))) sampleCall ⟨0,{}⟩ = (.ok receipt,final) := by
  obtain ⟨clearance,middle,applied,after,staged,performed,blank,chain,hashed,hashable⟩ := commit_stages
  have recordable := (hashBindReceipt_isOk _ _).mp hashed
  obtain ⟨receipt,final,finalized⟩ := finalize_completes (countingAdapter (.ok (.bool true)))
    (show ∀ n, markedSurroundings.storage.appendFault n = .none from fun _ => rfl) hashable chain recordable after
  exact ⟨applied,after,receipt,final,blank,finalized,run_bind_ok.mpr ⟨_,_,staged,run_bind_ok.mpr ⟨_,_,performed,finalized⟩⟩⟩

theorem receipts_never_reverify_sample : ∃ receipt final,
    execute markedSurroundings (countingAdapter (.ok (.bool true))) sampleCall ⟨0,{}⟩ = (.ok receipt,final) ∧
      ¬BindHashMatches markedStorage.sha256 receipt := by
  obtain ⟨_,_,receipt,final,_,_,returned⟩ := commit_returns
  exact ⟨receipt,final,returned,(receipts_never_reverify markedStorage markedStorage_injective markedStorage_nonempty
    markedStorage_sound ⟨0,{}⟩ (.opened 0) markedSurroundings rfl _ _ rfl receipt final returned).1⟩

-- The plainest commit of all already fails.
theorem commit_mismatch : ¬∀ receipt final,
    execute markedSurroundings (countingAdapter (.ok (.bool true))) sampleCall ⟨0,{}⟩ = (.ok receipt,final) →
      BindHashMatches markedStorage.sha256 receipt := by
  intro every
  obtain ⟨_,_,receipt,final,blank,finalized,returned⟩ := commit_returns
  exact written_unverified markedSurroundings markedStorage_injective markedStorage_nonempty blank finalized
    (every receipt final returned)

end VeritasOs.BindCore
