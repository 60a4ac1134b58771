import VeritasOs.BindAccount

namespace VeritasOs.BindCore
open Text DateTime Interaction BindArtifacts BindAdmissibility DecisionSemantics

variable {S : Type} {storage : TrustLog.Storage}

def ownNames : List String :=
  ["bind_receipt_id","execution_intent_id","decision_id","bind_ts","live_state_fingerprint_before","live_state_fingerprint_after",
   "authority_check_result","constraint_check_result","drift_check_result","risk_check_result","admissibility_result",
   "final_outcome","rollback_reason","escalation_reason","trustlog_hash","prev_bind_hash","bind_receipt_hash",
   "execution_intent_hash","policy_snapshot_id","actor_identity","decision_hash","governance_identity","revalidation_context"]

def labelNames : List String :=
  ["bind_reason_code","bind_failure_reason","idempotency_key","idempotency_status","retry_safety","rollback_status",
   "failure_category","target_path","target_type","target_path_type","target_label","operator_surface","relevant_ui_href"]

def regulatedNames : List String :=
  ["regulated_action_path_id","action_contract_id","action_contract_version","authority_evidence_id","authority_evidence_hash",
   "authority_validation_status","admissibility_predicates","failed_predicates","stale_predicates","missing_predicates",
   "irreversibility_boundary_id","commit_boundary_result","refusal_basis","escalation_basis","authority_evidence_summary"]

theorem optional_keys (name : String) (value : Option Value) : ((optionalField name value).map Prod.fst).Sublist [.str name] := by
  cases value <;> simp [optionalField,field]

theorem regulated_keys (regulated : Regulated) : (regulated.toDict.map Prod.fst).Sublist (regulatedNames.map Key.str) := by
  simp only [Regulated.toDict,List.map_append]
  exact ((((((((((((((optional_keys _ _).append (optional_keys _ _)).append (optional_keys _ _)).append (optional_keys _ _)).append
    (optional_keys _ _)).append (optional_keys _ _)).append (optional_keys _ _)).append (optional_keys _ _)).append
    (optional_keys _ _)).append (optional_keys _ _)).append (optional_keys _ _)).append (optional_keys _ _)).append
    (optional_keys _ _)).append (optional_keys _ _)).append (optional_keys _ _)

theorem receipt_record (receipt : BindReceipt) : Record receipt.toDict := by
  refine ⟨toDict_named receipt,?_⟩
  have keys : (receipt.toDict.map Prod.fst).Sublist ((ownNames ++ labelNames ++ regulatedNames).map Key.str) := by
    simp only [BindReceipt.toDict,List.map_append]
    exact ((List.Sublist.refl _).append (List.Sublist.refl _)).append (regulated_keys receipt.regulated)
  exact keys.nodup (by decide)

-- What a reader finds in the line written for a receipt: masked identifiers, the
-- decision id as it is, and a masked copy of every member of the receipt.
structure ReceiptLine (storage : TrustLog.Storage) (candidate : BindReceipt) (line : Dict) : Prop where
  kind : line.get "kind" = .str (storage.masking.redactString bindReceiptKind)
  intent : line.get "execution_intent_id" = .str (storage.masking.redactString candidate.executionIntentId)
  decision : line.get "decision_id" = .str candidate.decisionId
  chain : ∃ text, line.get "sha256" = .str (storage.sha256 text)
  payload : ∃ fields : Dict, line.get "bind_receipt" = .dict fields ∧ ∀ name value, lookup (.str name) candidate.toDict = some value →
      ∃ copy, jsonCopy (TrustLog.redactValue storage.masking value) = some copy ∧ fields.get name = copy

theorem bindReceiptEntry_record (candidate : BindReceipt) : Record (bindReceiptEntry candidate) :=
  ⟨by simp [StrKeys,bindReceiptEntry,field],by simp [bindReceiptEntry,field]⟩

theorem lookup_redactMembers (masking : TrustLog.Masking) (wanted : Key) (members : Dict) :
    lookup wanted (TrustLog.redactMembers masking members) = (lookup wanted members).map (TrustLog.redactValue masking) := by
  rw [TrustLog.redactMembers_map]
  exact lookup_map (fun _ value => TrustLog.redactValue masking value) wanted members

theorem redacted_record (record : Record dict) (masking : TrustLog.Masking) : Record (TrustLog.redactMembers masking dict) := by
  rw [TrustLog.redactMembers_map]
  exact record.of_keys (by simp)

theorem redacted_copy (record : Record dict) (copied : jsonCopy (TrustLog.redactValue storage.masking (.dict dict)) = some copy) :
    ∃ fields : Dict, copy = .dict fields ∧ ∀ name value, lookup (.str name) dict = some value →
      ∃ part, jsonCopy (TrustLog.redactValue storage.masking value) = some part ∧ fields.get name = part := by
  rw [TrustLog.redactValue] at copied
  obtain ⟨fields,rfl,members⟩ := jsonCopy_record (redacted_record record storage.masking) copied
  refine ⟨fields,rfl,fun name value found => ?_⟩
  obtain ⟨part,same,there⟩ := members (.str name) _ (by rw [lookup_redactMembers,found]; rfl)
  exact ⟨part,same,by rw [Dict.get,there]; rfl⟩

theorem receiptLine
    (made : TrustLog.prepareEntry storage.masking storage.sha256 (bindReceiptEntry candidate) previous now = .ok (prepared,line)) :
    ReceiptLine storage candidate line := by
  obtain ⟨⟨text,_,chain⟩,members⟩ := TrustLog.prepareEntry_line (bindReceiptEntry_record candidate) made
  have masked : ∀ name s, name ∉ TrustLog.addedFields → TrustLog.structuralFields.contains name = false →
      lookup (.str name) (bindReceiptEntry candidate) = some (.str s) → line.get name = .str (storage.masking.redactString s) := by
    intro name s plain free found
    obtain ⟨copy,same,there⟩ := members name _ plain found
    rw [TrustLog.maskMember,free] at same
    cases same
    exact there
  refine ⟨masked "kind" _ (by decide) rfl rfl,masked "execution_intent_id" _ (by decide) rfl rfl,?_,⟨text,chain⟩,?_⟩
  · obtain ⟨copy,same,there⟩ := members "decision_id" _ (by decide) rfl
    cases same
    exact there
  · obtain ⟨copy,same,there⟩ := members "bind_receipt" _ (by decide) rfl
    obtain ⟨fields,rfl,parts⟩ := redacted_copy (receipt_record candidate) same
    exact ⟨fields,there,parts⟩

@[simp] theorem orStr_str (s : String) : (Value.str s).orStr "" = s := by
  by_cases empty : s = ""
  · simp [Value.orStr,Value.truthy,empty]
  · simp [Value.orStr,Value.truthy,Value.text,empty]

theorem receiptFrom_ok (made : receiptFrom payload trustlogHash rollback escalation previous = .ok receipt) :
    receipt.trustlogHash = trustlogHash ∧ receipt.bindReceiptHash = (payload.get "bind_receipt_hash").orStr "" := by
  unfold receiptFrom at made
  simp only [bind,Except.bind,pure,Except.pure] at made
  repeat' split at made
  all_goals cases made
  exact ⟨rfl,rfl⟩

theorem receiptFrom_isOk {payload : Dict} {authority constraint drift risk admissibility revalidation : Dict} {outcome : FinalOutcome}
    (trustlogHash : String) (rollback escalation previous : Value)
    (authorityOk : payload.get "authority_check_result" = .dict authority)
    (constraintOk : payload.get "constraint_check_result" = .dict constraint)
    (driftOk : payload.get "drift_check_result" = .dict drift) (riskOk : payload.get "risk_check_result" = .dict risk)
    (admissibilityOk : payload.get "admissibility_result" = .dict admissibility)
    (outcomeOk : payload.get "final_outcome" = .str outcome.value)
    (revalidationOk : payload.get "revalidation_context" = .dict revalidation) :
    ∃ receipt, receiptFrom payload trustlogHash rollback escalation previous = .ok receipt ∧
      receipt.revalidationContext = revalidation := by
  have whole : ∀ members, dictOf (.dict members) = .ok members := by
    intro members
    cases members <;> rfl
  have label : outcomeFrom payload = .ok outcome := by
    rw [outcomeFrom,outcomeOk]
    cases outcome <;> rfl
  unfold receiptFrom
  rw [authorityOk,constraintOk,driftOk,riskOk,admissibilityOk,revalidationOk,label,whole,whole,whole,whole,whole,whole]
  exact ⟨_,rfl,rfl⟩

theorem text_part {masking : TrustLog.Masking} {s : String} {fields : Dict} {name : String}
    (part : ∃ copy, jsonCopy (TrustLog.redactValue masking (.str s)) = some copy ∧ fields.get name = copy) :
    fields.get name = .str (masking.redactString s) := by
  obtain ⟨copy,same,found⟩ := part
  cases same
  exact found

theorem extract_line (stored : ReceiptLine storage candidate line) (extracted : extractBindReceipt line = some found) :
    found.bindReceiptHash = storage.masking.redactString candidate.bindReceiptHash ∧
      ((∀ text, storage.sha256 text ≠ "") → found.trustlogHash ≠ "") := by
  obtain ⟨fields,there,parts⟩ := stored.payload
  obtain ⟨text,chain⟩ := stored.chain
  have hash := text_part (parts "bind_receipt_hash" _ rfl)
  have link := text_part (parts "trustlog_hash" _ rfl)
  unfold extractBindReceipt at extracted
  split at extracted
  · cases extracted
  · rw [there,chain] at extracted
    simp only [Value.asDict?,link] at extracted
    obtain ⟨trustlog,own⟩ := receiptFrom_ok (toOption_some extracted)
    refine ⟨by rw [own,hash,orStr_str],fun digests => ?_⟩
    rw [trustlog]
    split
    · rename_i recorded
      simpa [Value.truthy,Value.text] using recorded
    · simpa using digests text

theorem intentEntry_writable (built : buildExecutionIntentTrustlogEntry sha256 intent = .ok entry) : TrustLog.Writable entry := by
  unfold buildExecutionIntentTrustlogEntry at built
  cases hashed : hashExecutionIntent sha256 intent with
  | error error => simp [hashed,bind,Except.bind] at built
  | ok intentHash =>
    simp only [hashed,bind,Except.bind,pure,Except.pure,Except.ok.injEq] at built
    subst entry
    have written := intent_recordable hashed
    exact ⟨⟨by simp [StrKeys,field],by simp [field]⟩,by simpa [field] using written⟩

theorem receiptEntry_writable {sha256 : String → String} {candidate : BindReceipt} {hash : String}
    (hashed : hashBindReceipt sha256 candidate = .ok hash) : TrustLog.Writable (bindReceiptEntry candidate) := by
  have objects := (hashBindReceipt_isOk sha256 candidate).mp ⟨hash,hashed⟩
  have whole : Recordable (.dict candidate.toDict) := (receipt_recordable candidate).mpr objects
  have previous : Recordable candidate.prevBindHash := objects _ (by simp [BindReceipt.objects])
  exact ⟨bindReceiptEntry_record candidate,by simpa [bindReceiptEntry,field] using ⟨previous,whole⟩⟩

-- What finalising appends: the entry of the intent, or that of a hashed receipt.
def Finalizes (sha256 : String → String) (intent : ExecutionIntent) (trustlogHash : String) (op : Op S) : Prop :=
  ∀ entry, op = .appendTrustLog entry → buildExecutionIntentTrustlogEntry sha256 intent = .ok entry ∨
    ∃ candidate, entry = bindReceiptEntry candidate ∧ candidate.trustlogHash = trustlogHash ∧
      hashBindReceipt sha256 candidate = .ok candidate.bindReceiptHash

theorem finalizeReceipt_finalizes (sha256 : String → String) (intent : ExecutionIntent) (append : Bool) (receipt : BindReceipt) :
    Within (Finalizes (S := S) sha256 intent receipt.trustlogHash) (finalizeReceipt sha256 intent append receipt) := by
  unfold finalizeReceipt
  dsimp only
  split
  · trivial
  · unfold appendExecutionIntentTrustlog appendBindReceiptTrustlog previousBindHash
    refine within_bind (within_bind_yields (within_lift _ _) (yields_lift _) fun entry built => ?_) fun _ =>
      within_bind ?_ fun previous => within_bind_yields (within_lift _ _) (yields_lift _) fun hash hashed =>
        within_bind (within_bind ⟨?_,fun _ => trivial⟩ fun _ => within_lift _ _) fun _ => trivial
    · refine within_bind ⟨?_,fun _ => trivial⟩ fun _ => within_lift _ _
      rintro other ⟨⟩
      exact .inl built
    · split
      · trivial
      · exact ⟨by rintro other ⟨⟩,fun _ => trivial⟩
    · rintro other ⟨⟩
      exact .inr ⟨_,rfl,rfl,hashed⟩

def Writes (op : Op S) : Prop := ∀ entry, op = .appendTrustLog entry → TrustLog.Writable entry

theorem finalizeReceipt_writable (sha256 : String → String) (intent : ExecutionIntent) (append : Bool) (receipt : BindReceipt) :
    Within (Writes (S := S)) (finalizeReceipt sha256 intent append receipt) := by
  refine (finalizeReceipt_finalizes sha256 intent append receipt).mono fun op entries entry append => ?_
  rcases entries entry append with built | ⟨candidate,rfl,_,hashed⟩
  · exact intentEntry_writable built
  · exact receiptEntry_writable hashed

section Faultless
variable {W : Type} {around : Surroundings} (adapter : Adapter W S) (faultless : ∀ n, around.storage.appendFault n = .none)
include faultless

theorem handler_appends (writes : Writes op) (host : Host W) : appendError ⟨op,(handler around adapter op host).1⟩ = none := by
  cases op with
  | appendTrustLog entry =>
    obtain ⟨prepared,stored⟩ := TrustLog.appendTrustLog_succeeds (writes entry rfl) (faultless host.log.appends)
    rw [show (handler around adapter (.appendTrustLog entry) host).1 = .ok prepared from stored]
    rfl
  | _ => rfl

theorem follows_appends (follows : Follows (handler around adapter) host trace final)
    (kinds : ∀ event ∈ trace, Writes event.1) : AppendsSucceed trace := by
  intro event listed
  obtain ⟨middle,_,answered⟩ := (follows_invariant Writes (fun _ => True) (fun _ _ _ _ => trivial) follows kinds trivial).2 event listed
  have succeeds := handler_appends adapter faultless (kinds event listed) middle
  rwa [← answered] at succeeds

theorem finalize_completes
    (hashable : ∃ hash, hashExecutionIntent around.storage.sha256 intent = .ok hash) (chain : receipt.prevBindHash = .none)
    (recordable : ∀ value ∈ receipt.objects, Recordable value) (host : Host W) :
    ∃ final after, run (handler around adapter) (finalizeReceipt around.storage.sha256 intent append receipt) host = (.ok final,after) := by
  obtain ⟨trace,follows,path⟩ := run_exact (handler around adapter) (finalizeReceipt around.storage.sha256 intent append receipt) host
  cases ran : run (handler around adapter) (finalizeReceipt around.storage.sha256 intent append receipt) host with
  | mk outcome after =>
    cases outcome with
    | ok final => exact ⟨final,after,rfl⟩
    | error error =>
      rw [ran] at path
      have kinds := (path.within (finalizeReceipt_writable _ _ _ _)).1
      exact absurd (follows_appends adapter faultless follows kinds) ((finalize_raises hashable chain path).2 recordable)

end Faultless

end VeritasOs.BindCore
