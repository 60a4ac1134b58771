import VeritasOs.ValueJson

namespace VeritasOs.BindArtifacts
open Text

inductive FinalOutcome where
  | committed | blocked | escalated | rolledBack | applyFailed | snapshotFailed | preconditionFailed
deriving DecidableEq

def FinalOutcome.value : FinalOutcome → String
  | .committed => "COMMITTED"
  | .blocked => "BLOCKED"
  | .escalated => "ESCALATED"
  | .rolledBack => "ROLLED_BACK"
  | .applyFailed => "APPLY_FAILED"
  | .snapshotFailed => "SNAPSHOT_FAILED"
  | .preconditionFailed => "PRECONDITION_FAILED"

def finalOutcomes : List FinalOutcome :=
  [.committed,.blocked,.escalated,.rolledBack,.applyFailed,.snapshotFailed,.preconditionFailed]

def finalOutcomeOf (text : String) : Option FinalOutcome := finalOutcomes.find? fun outcome => outcome.value == text

structure ExecutionIntent where
  executionIntentId : String
  decisionId : String := ""
  requestId : String := ""
  policySnapshotId : String := ""
  actorIdentity : String := ""
  targetSystem : String := ""
  targetResource : String := ""
  intendedAction : String := ""
  evidenceRefs : List String := []
  decisionHash : String := ""
  decisionTs : String := ""
  ttlSeconds : Option Int := none
  expectedStateFingerprint : Option String := none
  approvalContext : Option Dict := none
  policyLineage : Option Dict := none

def optStr : Option String → Value
  | none => .none
  | some s => .str s

def optDict : Option Dict → Value
  | none => .none
  | some members => .dict members

def field (name : String) (value : Value) : Key × Value := (.str name,value)

def ExecutionIntent.toDict (intent : ExecutionIntent) : Dict :=
  [field "execution_intent_id" (.str intent.executionIntentId),field "decision_id" (.str intent.decisionId),
   field "request_id" (.str intent.requestId),field "policy_snapshot_id" (.str intent.policySnapshotId),
   field "actor_identity" (.str intent.actorIdentity),field "target_system" (.str intent.targetSystem),
   field "target_resource" (.str intent.targetResource),field "intended_action" (.str intent.intendedAction),
   field "evidence_refs" (.list (intent.evidenceRefs.map .str)),field "decision_hash" (.str intent.decisionHash),
   field "decision_ts" (.str intent.decisionTs),field "ttl_seconds" ((intent.ttlSeconds.map Value.int).getD .none),
   field "expected_state_fingerprint" (optStr intent.expectedStateFingerprint),field "approval_context" (optDict intent.approvalContext),
   field "policy_lineage" (optDict intent.policyLineage)]

structure Checks where
  authority : Dict := []
  constraint : Dict := []
  drift : Dict := []
  risk : Dict := []

structure Labels where
  bindReasonCode : Option String := none
  bindFailureReason : Option String := none
  idempotencyKey : Option String := none
  idempotencyStatus : Option String := none
  retrySafety : Option String := none
  rollbackStatus : Option String := none
  failureCategory : Option String := none
  targetPath : String := ""
  targetType : String := ""
  targetPathType : String := "other"
  targetLabel : String := "other"
  operatorSurface : String := "audit"
  relevantUiHref : String := "/audit"

structure Regulated where
  regulatedActionPathId : Option String := none
  actionContractId : Option String := none
  actionContractVersion : Option String := none
  authorityEvidenceId : Option String := none
  authorityEvidenceHash : Option String := none
  authorityValidationStatus : Option String := none
  admissibilityPredicates : Option (List Dict) := none
  failedPredicates : Option (List Dict) := none
  stalePredicates : Option (List Dict) := none
  missingPredicates : Option (List Dict) := none
  irreversibilityBoundaryId : Option String := none
  commitBoundaryResult : Option String := none
  refusalBasis : Option (List String) := none
  escalationBasis : Option (List String) := none
  authorityEvidenceSummary : Option Dict := none

-- The two fingerprints hold whatever the adapter answered. The three reasons that
-- are read back from the log unconverted are objects as well.
structure BindReceipt where
  bindReceiptId : String
  executionIntentId : String := ""
  decisionId : String := ""
  bindTs : String
  liveStateFingerprintBefore : Value := .str ""
  liveStateFingerprintAfter : Value := .str ""
  checks : Checks := {}
  admissibilityResult : Dict := []
  finalOutcome : FinalOutcome := .blocked
  rollbackReason : Value := .none
  escalationReason : Value := .none
  trustlogHash : String := ""
  prevBindHash : Value := .none
  bindReceiptHash : String := ""
  executionIntentHash : String := ""
  policySnapshotId : String := ""
  actorIdentity : String := ""
  decisionHash : String := ""
  governanceIdentity : Option Dict := none
  revalidationContext : Dict := []
  labels : Labels := {}
  regulated : Regulated := {}

def orText (s default : String) : String := if s = "" then default else s

-- The target labels as to_dict writes them.
def Labels.renew (labels : Labels) : Labels :=
  { labels with
    targetPath := strip labels.targetPath
    targetType := strip labels.targetType
    targetPathType := orText (strip labels.targetPathType) "other"
    targetLabel := orText (strip labels.targetLabel) "other"
    operatorSurface := orText (strip labels.operatorSurface) "audit"
    relevantUiHref := orText (strip labels.relevantUiHref) "/audit" }

def dictList (items : List Dict) : Value := .list (items.map .dict)
def strList (items : List String) : Value := .list (items.map .str)

def optionalField (name : String) (value : Option Value) : Dict := (value.map (field name)).toList

def Labels.toDict (labels : Labels) : Dict :=
  [field "bind_reason_code" (optStr labels.bindReasonCode),field "bind_failure_reason" (optStr labels.bindFailureReason),
   field "idempotency_key" (optStr labels.idempotencyKey),field "idempotency_status" (optStr labels.idempotencyStatus),
   field "retry_safety" (optStr labels.retrySafety),field "rollback_status" (optStr labels.rollbackStatus),
   field "failure_category" (optStr labels.failureCategory),field "target_path" (.str labels.renew.targetPath),
   field "target_type" (.str labels.renew.targetType),field "target_path_type" (.str labels.renew.targetPathType),
   field "target_label" (.str labels.renew.targetLabel),field "operator_surface" (.str labels.renew.operatorSurface),
   field "relevant_ui_href" (.str labels.renew.relevantUiHref)]

-- Each regulated field is left out while it is None.
def Regulated.toDict (regulated : Regulated) : Dict :=
  optionalField "regulated_action_path_id" (regulated.regulatedActionPathId.map .str) ++
  optionalField "action_contract_id" (regulated.actionContractId.map .str) ++
  optionalField "action_contract_version" (regulated.actionContractVersion.map .str) ++
  optionalField "authority_evidence_id" (regulated.authorityEvidenceId.map .str) ++
  optionalField "authority_evidence_hash" (regulated.authorityEvidenceHash.map .str) ++
  optionalField "authority_validation_status" (regulated.authorityValidationStatus.map .str) ++
  optionalField "admissibility_predicates" (regulated.admissibilityPredicates.map dictList) ++
  optionalField "failed_predicates" (regulated.failedPredicates.map dictList) ++
  optionalField "stale_predicates" (regulated.stalePredicates.map dictList) ++
  optionalField "missing_predicates" (regulated.missingPredicates.map dictList) ++
  optionalField "irreversibility_boundary_id" (regulated.irreversibilityBoundaryId.map .str) ++
  optionalField "commit_boundary_result" (regulated.commitBoundaryResult.map .str) ++
  optionalField "refusal_basis" (regulated.refusalBasis.map strList) ++
  optionalField "escalation_basis" (regulated.escalationBasis.map strList) ++
  optionalField "authority_evidence_summary" (regulated.authorityEvidenceSummary.map .dict)

def BindReceipt.ownFields (receipt : BindReceipt) : Dict :=
  [field "bind_receipt_id" (.str receipt.bindReceiptId),field "execution_intent_id" (.str receipt.executionIntentId),
   field "decision_id" (.str receipt.decisionId),field "bind_ts" (.str receipt.bindTs),
   field "live_state_fingerprint_before" receipt.liveStateFingerprintBefore,
   field "live_state_fingerprint_after" receipt.liveStateFingerprintAfter,field "authority_check_result" (.dict receipt.checks.authority),
   field "constraint_check_result" (.dict receipt.checks.constraint),field "drift_check_result" (.dict receipt.checks.drift),
   field "risk_check_result" (.dict receipt.checks.risk),field "admissibility_result" (.dict receipt.admissibilityResult),
   field "final_outcome" (.str receipt.finalOutcome.value),field "rollback_reason" receipt.rollbackReason,
   field "escalation_reason" receipt.escalationReason,field "trustlog_hash" (.str receipt.trustlogHash),
   field "prev_bind_hash" receipt.prevBindHash,field "bind_receipt_hash" (.str receipt.bindReceiptHash),
   field "execution_intent_hash" (.str receipt.executionIntentHash),field "policy_snapshot_id" (.str receipt.policySnapshotId),
   field "actor_identity" (.str receipt.actorIdentity),field "decision_hash" (.str receipt.decisionHash),
   field "governance_identity" (optDict receipt.governanceIdentity),field "revalidation_context" (.dict receipt.revalidationContext)]

def BindReceipt.toDict (receipt : BindReceipt) : Dict :=
  receipt.ownFields ++ receipt.labels.toDict ++ receipt.regulated.toDict

def typeError (text : String) : Exc := ⟨.typeError,text⟩
def valueError (text : String) : Exc := ⟨.valueError,text⟩

section Hashing
variable (sha256 : String → String)

def sha256OfCanonicalJson (payload : Value) : Except Exc String :=
  match canonicalJsonDumps payload with
  | none => .error (typeError "Object is not JSON serializable")
  | some text => .ok (sha256 text)

def hashExecutionIntent (intent : ExecutionIntent) : Except Exc String :=
  sha256OfCanonicalJson sha256 (.dict intent.toDict)

-- The receipt's own hash is blanked, its TrustLog hash is not.
def hashBindReceipt (receipt : BindReceipt) : Except Exc String :=
  sha256OfCanonicalJson sha256 (.dict (Dict.set receipt.toDict "bind_receipt_hash" (.str "")))

def buildExecutionIntentTrustlogEntry (intent : ExecutionIntent) : Except Exc Dict := do
  let intentHash ← hashExecutionIntent sha256 intent
  return [field "kind" (.str "governance.execution_intent"),field "request_id" (.str (orText intent.requestId intent.decisionId)),
    field "decision_id" (.str intent.decisionId),field "execution_intent_id" (.str intent.executionIntentId),
    field "policy_snapshot_id" (.str intent.policySnapshotId),field "actor_identity" (.str intent.actorIdentity),
    field "decision_hash" (.str intent.decisionHash),field "execution_intent_hash" (.str intentHash),
    field "execution_intent" (.dict intent.toDict)]

end Hashing

def keyOf : Value → Option Key
  | .str s => some (.str s)
  | .int n => some (.int n)
  | .bool b => some (.bool b)
  | .none => some .none
  | .float x => some (.float x)
  | .tuple items => some (.other (Value.repr (.tuple items)))
  | .object text _ => some (.other text)
  | .list _ => none
  | .dict _ => none

def pairOf : Value → Option (Key × Value)
  | .list [key,value] => (keyOf key).map (·,value)
  | .tuple [key,value] => (keyOf key).map (·,value)
  | .str s => match s.toList with
    | [key,value] => some (.str (String.ofList [key]),.str (String.ofList [value]))
    | _ => none
  | .dict [(key,_),(.str value,_)] => some (key,.str value)
  | _ => none

def dictOf (value : Value) : Except Exc Dict :=
  if !value.truthy then .ok []
  else
    match value with
    | .dict members => .ok members
    | .list items | .tuple items =>
      match items.mapM pairOf with
      | some pairs => .ok (Dict.update [] pairs)
      | none => .error (valueError "dictionary update sequence element is not a pair")
    | _ => .error (typeError "object is not iterable")

def textIfTruthy (value : Value) : Option String := if value.truthy then some value.text else none

def normalizeStringList : Value → Option (List String)
  | .list items => some (items.map Value.text)
  | _ => none

def normalizeDictList : Value → Option (List Dict)
  | .list items => some (items.filterMap Value.asDict?)
  | _ => none

def labelsFrom (payload : Dict) : Labels :=
  { bindReasonCode := textIfTruthy (payload.get "bind_reason_code")
    bindFailureReason := textIfTruthy (payload.get "bind_failure_reason")
    idempotencyKey := textIfTruthy (payload.get "idempotency_key")
    idempotencyStatus := textIfTruthy (payload.get "idempotency_status")
    retrySafety := textIfTruthy (payload.get "retry_safety")
    rollbackStatus := textIfTruthy (payload.get "rollback_status")
    failureCategory := textIfTruthy (payload.get "failure_category")
    targetPath := (payload.get "target_path").orStr ""
    targetType := (payload.get "target_type").orStr ""
    targetPathType := (payload.get "target_path_type").orStr "other"
    targetLabel := (payload.get "target_label").orStr "other"
    operatorSurface := (payload.get "operator_surface").orStr "audit"
    relevantUiHref := (payload.get "relevant_ui_href").orStr "/audit" }

def regulatedFrom (payload : Dict) : Regulated :=
  { regulatedActionPathId := textIfTruthy (payload.get "regulated_action_path_id")
    actionContractId := textIfTruthy (payload.get "action_contract_id")
    actionContractVersion := textIfTruthy (payload.get "action_contract_version")
    authorityEvidenceId := textIfTruthy (payload.get "authority_evidence_id")
    authorityEvidenceHash := textIfTruthy (payload.get "authority_evidence_hash")
    authorityValidationStatus := textIfTruthy (payload.get "authority_validation_status")
    admissibilityPredicates := normalizeDictList (payload.get "admissibility_predicates")
    failedPredicates := normalizeDictList (payload.get "failed_predicates")
    stalePredicates := normalizeDictList (payload.get "stale_predicates")
    missingPredicates := normalizeDictList (payload.get "missing_predicates")
    irreversibilityBoundaryId := textIfTruthy (payload.get "irreversibility_boundary_id")
    commitBoundaryResult := textIfTruthy (payload.get "commit_boundary_result")
    refusalBasis := normalizeStringList (payload.get "refusal_basis")
    escalationBasis := normalizeStringList (payload.get "escalation_basis")
    authorityEvidenceSummary := (payload.get "authority_evidence_summary").asDict? }

def outcomeFrom (payload : Dict) : Except Exc FinalOutcome :=
  let text := (payload.get "final_outcome").orStr "BLOCKED"
  match finalOutcomeOf text with
  | some outcome => .ok outcome
  | none => .error (valueError (quoteStr text ++ " is not a valid FinalOutcome"))

-- The fields that both readers convert alike. They differ in the TrustLog hash and
-- in the three values that only one of them turns into text.
def receiptFrom (payload : Dict) (trustlogHash : String) (rollbackReason escalationReason prevBindHash : Value) :
    Except Exc BindReceipt := do
  let authority ← dictOf (payload.get "authority_check_result")
  let constraint ← dictOf (payload.get "constraint_check_result")
  let drift ← dictOf (payload.get "drift_check_result")
  let risk ← dictOf (payload.get "risk_check_result")
  let admissibility ← dictOf (payload.get "admissibility_result")
  let outcome ← outcomeFrom payload
  let revalidation ← dictOf (payload.get "revalidation_context")
  return {
    bindReceiptId := (payload.get "bind_receipt_id").orStr ""
    executionIntentId := (payload.get "execution_intent_id").orStr ""
    decisionId := (payload.get "decision_id").orStr ""
    bindTs := (payload.get "bind_ts").orStr ""
    liveStateFingerprintBefore := .str ((payload.get "live_state_fingerprint_before").orStr "")
    liveStateFingerprintAfter := .str ((payload.get "live_state_fingerprint_after").orStr "")
    checks := ⟨authority,constraint,drift,risk⟩
    admissibilityResult := admissibility
    finalOutcome := outcome
    rollbackReason := rollbackReason
    escalationReason := escalationReason
    trustlogHash := trustlogHash
    prevBindHash := prevBindHash
    bindReceiptHash := (payload.get "bind_receipt_hash").orStr ""
    executionIntentHash := (payload.get "execution_intent_hash").orStr ""
    policySnapshotId := (payload.get "policy_snapshot_id").orStr ""
    actorIdentity := (payload.get "actor_identity").orStr ""
    decisionHash := (payload.get "decision_hash").orStr ""
    governanceIdentity := (payload.get "governance_identity").asDict?
    revalidationContext := revalidation
    labels := labelsFrom payload
    regulated := regulatedFrom payload
  }

def bindReceiptKind : String := "governance.bind_receipt"

def extractBindReceipt (entry : Dict) : Option BindReceipt :=
  if entry.get "kind" ≠ .str bindReceiptKind then none
  else
    match (entry.get "bind_receipt").asDict? with
    | some payload =>
      let recorded := payload.get "trustlog_hash"
      let trustlogHash := if recorded.truthy then recorded.text else (entry.get "sha256").orStr ""
      (receiptFrom payload trustlogHash (payload.get "rollback_reason") (payload.get "escalation_reason")
        (payload.get "prev_bind_hash")).toOption
    | none => none

def normalizeBindReceipt (receipt : BindReceipt) : Except Exc BindReceipt :=
  let data := receipt.toDict
  receiptFrom data ((data.get "trustlog_hash").orStr "") (optStr (textIfTruthy (data.get "rollback_reason")))
    (optStr (textIfTruthy (data.get "escalation_reason"))) (optStr (textIfTruthy (data.get "prev_bind_hash")))

-- An absent or empty filter matches every entry.
def matchesFilter (wanted : String) (found : Value) : Bool := wanted == "" || decide (found = .str wanted)

def getPreviousBindHash (entries : List Dict) (decisionId executionIntentId : String) : Option String :=
  entries.reverse.findSome? fun entry =>
    if decide (entry.get "kind" = .str bindReceiptKind) && matchesFilter decisionId (entry.get "decision_id") &&
        matchesFilter executionIntentId (entry.get "execution_intent_id") then
      match entry.get "bind_receipt_hash" with
      | .str hash => if hash = "" then none else some hash
      | _ => none
    else none

def findBindReceipts (entries : List Dict) (bindReceiptId executionIntentId decisionId : String) : List BindReceipt :=
  entries.filterMap fun entry =>
    if decide (entry.get "kind" = .str bindReceiptKind) && matchesFilter bindReceiptId (entry.get "bind_receipt_id") &&
        matchesFilter executionIntentId (entry.get "execution_intent_id") &&
        matchesFilter decisionId (entry.get "decision_id") then extractBindReceipt entry
    else none

theorem field_named : ∃ s, (field name value).1 = .str s := ⟨name,rfl⟩

theorem strKeys_append (left : StrKeys first) (right : StrKeys second) : StrKeys (first ++ second) := by
  intro member listed
  rcases List.mem_append.mp listed with here | there
  · exact left member here
  · exact right member there

theorem optional_named (name : String) (value : Option Value) : StrKeys (optionalField name value) := by
  intro member listed
  simp only [optionalField,Option.mem_toList,Option.map_eq_some_iff] at listed
  obtain ⟨_,_,rfl⟩ := listed
  exact field_named

theorem ownFields_named (receipt : BindReceipt) : StrKeys receipt.ownFields := by
  simp [StrKeys,BindReceipt.ownFields,field]

theorem labels_named (labels : Labels) : StrKeys labels.toDict := by
  simp [StrKeys,Labels.toDict,field]

theorem regulated_named (regulated : Regulated) : StrKeys regulated.toDict := by
  unfold Regulated.toDict
  repeat' apply strKeys_append
  all_goals exact optional_named _ _

theorem toDict_named (receipt : BindReceipt) : StrKeys receipt.toDict :=
  strKeys_append (strKeys_append (ownFields_named receipt) (labels_named receipt.labels)) (regulated_named receipt.regulated)

def BindReceipt.objects (receipt : BindReceipt) : List Value :=
  [receipt.liveStateFingerprintBefore,receipt.liveStateFingerprintAfter,.dict receipt.checks.authority,
   .dict receipt.checks.constraint,.dict receipt.checks.drift,.dict receipt.checks.risk,.dict receipt.admissibilityResult,
   receipt.rollbackReason,receipt.escalationReason,receipt.prevBindHash,optDict receipt.governanceIdentity,
   .dict receipt.revalidationContext,.dict receipt.regulated.toDict]

@[simp] theorem recordable_optStr (value : Option String) : Recordable (optStr value) := by
  cases value <;> rfl

theorem receipt_recordable (receipt : BindReceipt) : Recordable (.dict receipt.toDict) ↔ ∀ value ∈ receipt.objects, Recordable value := by
  rw [recordable_dict (toDict_named receipt)]
  simp only [BindReceipt.toDict,List.forall_mem_append]
  rw [← recordable_dict (regulated_named receipt.regulated)]
  simp [BindReceipt.ownFields,Labels.toDict,BindReceipt.objects,field,and_assoc]

theorem blank_hash (receipt : BindReceipt) :
    Dict.set receipt.toDict "bind_receipt_hash" (.str "") = BindReceipt.toDict { receipt with bindReceiptHash := "" } := rfl

theorem hashBindReceipt_isOk (sha256 : String → String) (receipt : BindReceipt) :
    (∃ hash, hashBindReceipt sha256 receipt = .ok hash) ↔ ∀ value ∈ receipt.objects, Recordable value := by
  have same : (∀ value ∈ receipt.objects, Recordable value) ↔
      Recordable (.dict (BindReceipt.toDict { receipt with bindReceiptHash := "" })) :=
    (receipt_recordable { receipt with bindReceiptHash := "" }).symm
  rw [same,hashBindReceipt,blank_hash,sha256OfCanonicalJson,← canonical_recordable]
  cases canonicalJsonDumps (.dict (BindReceipt.toDict { receipt with bindReceiptHash := "" })) <;> simp

theorem chained_recordable {receipt : BindReceipt} (chain : receipt.prevBindHash = .none) (previous : Option String) :
    (∀ value ∈ BindReceipt.objects { receipt with prevBindHash := optStr previous }, Recordable value) ↔
      ∀ value ∈ receipt.objects, Recordable value := by
  simp [BindReceipt.objects,chain]

end VeritasOs.BindArtifacts
