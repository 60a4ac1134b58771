import VeritasOs.BindAdmissibility
import VeritasOs.DecisionSemantics
import VeritasOs.Interaction
import VeritasOs.TrustLog

namespace VeritasOs.BindCore
open Text DateTime Interaction BindArtifacts BindAdmissibility DecisionSemantics

inductive CommitBoundaryOutcome where
  | commit | block | escalate | refuse
deriving DecidableEq

def CommitBoundaryOutcome.value : CommitBoundaryOutcome → String
  | .commit => "commit"
  | .block => "block"
  | .escalate => "escalate"
  | .refuse => "refuse"

-- The evaluator leaves the metadata empty, so a result can always be written as JSON.
structure PredicateResult where
  predicateId : String
  predicateType : String
  status : String
  reason : String
  evidenceRef : Option String
  severity : String
  evaluatedAt : String
  metadata : Dict := []
  encodable : (toJson true (.dict metadata)).isSome = true := by rfl

structure CommitBoundaryResult where
  commitBoundaryResult : CommitBoundaryOutcome
  actionContractId : String := ""
  actionContractVersion : String := ""
  authorityEvidenceId : String := ""
  authorityEvidenceHash : String := ""
  authorityValidationStatus : String := ""
  admissibilityPredicates : List PredicateResult := []
  failedPredicates : List PredicateResult := []
  stalePredicates : List PredicateResult := []
  missingPredicates : List PredicateResult := []
  refusalBasis : List String := []
  escalationBasis : List String := []
  irreversibilityBoundaryId : String := ""
  evaluatedAt : String := ""
  reasonSummary : String := ""

-- The arguments of evaluate_commit_boundary. The contract and the evidence are the
-- payloads; validating and building them is part of what the answer stands for.
structure BoundaryRequest where
  executionIntentId : String
  actionClass : String
  actionContract : Option Dict
  authorityEvidence : Option Dict
  requestedScope : List String
  requiredEvidenceMetadata : Dict
  evidenceFreshnessMetadata : Dict
  policySnapshotId : String
  actorIdentity : String
  humanApprovalState : Dict
  bindContextMetadata : Dict

-- The nine adapter methods and the optional key, the TrustLog, the boundary
-- evaluator, the clock and the identifier source. A snapshot is any object.
inductive Op (S : Type) where
  | utcNow
  | uuid4
  | buildIdempotencyKey (intent : ExecutionIntent)
  | snapshot
  | fingerprintState (snapshot : S)
  | validateAuthority (intent : ExecutionIntent) (snapshot : S)
  | validateConstraints (intent : ExecutionIntent) (snapshot : S)
  | assessRuntimeRisk (intent : ExecutionIntent) (snapshot : S)
  | evaluateCommitBoundary (arguments : BoundaryRequest)
  | apply (intent : ExecutionIntent) (snapshot : S)
  | verifyPostconditions (intent : ExecutionIntent) (snapshot : S)
  | revert (intent : ExecutionIntent) (snapshot : S)
  | describeTarget
  | iterTrustLog
  | appendTrustLog (entry : Dict)

@[reducible] def Ans (S : Type) : Op S → Type
  | .utcNow | .uuid4 => String
  | .snapshot => Except Exc S
  | .evaluateCommitBoundary _ => Except Exc CommitBoundaryResult
  | .iterTrustLog => List Dict
  | .appendTrustLog _ => Except Exc Dict
  | _ => Except Exc Value

abbrev Bind (S : Type) := Prog (Op S) (Ans S) Exc

variable {S : Type}

namespace Ask
@[reducible] def utcNow : Bind S String := request Op.utcNow
@[reducible] def uuid4 : Bind S String := request Op.uuid4
@[reducible] def buildIdempotencyKey (intent : ExecutionIntent) : Bind S (Except Exc Value) :=
  request (Op.buildIdempotencyKey intent)
@[reducible] def snapshot : Bind S (Except Exc S) := request Op.snapshot
@[reducible] def fingerprintState (snapshot : S) : Bind S (Except Exc Value) := request (Op.fingerprintState snapshot)
@[reducible] def validateAuthority (intent : ExecutionIntent) (snapshot : S) : Bind S (Except Exc Value) :=
  request (Op.validateAuthority intent snapshot)
@[reducible] def validateConstraints (intent : ExecutionIntent) (snapshot : S) : Bind S (Except Exc Value) :=
  request (Op.validateConstraints intent snapshot)
@[reducible] def assessRuntimeRisk (intent : ExecutionIntent) (snapshot : S) : Bind S (Except Exc Value) :=
  request (Op.assessRuntimeRisk intent snapshot)
@[reducible] def evaluateCommitBoundary (arguments : BoundaryRequest) : Bind S (Except Exc CommitBoundaryResult) :=
  request (Op.evaluateCommitBoundary arguments)
@[reducible] def apply (intent : ExecutionIntent) (snapshot : S) : Bind S (Except Exc Value) :=
  request (Op.apply intent snapshot)
@[reducible] def verifyPostconditions (intent : ExecutionIntent) (snapshot : S) : Bind S (Except Exc Value) :=
  request (Op.verifyPostconditions intent snapshot)
@[reducible] def revert (intent : ExecutionIntent) (snapshot : S) : Bind S (Except Exc Value) :=
  request (Op.revert intent snapshot)
@[reducible] def describeTarget : Bind S (Except Exc Value) := request Op.describeTarget
@[reducible] def iterTrustLog : Bind S (List Dict) := request Op.iterTrustLog
@[reducible] def appendTrustLog (entry : Dict) : Bind S (Except Exc Dict) := request (Op.appendTrustLog entry)
end Ask

-- A call whose exception nobody catches.
def describeTarget : Bind S Value := Ask.describeTarget >>= lift

-- snapshot() and fingerprint_state() share one try block.
def observe : Bind S (Except Exc (S × Value)) := do
  match ← Ask.snapshot with
  | .error error => pure (.error error)
  | .ok snapshot =>
    match ← Ask.fingerprintState snapshot with
    | .error error => pure (.error error)
    | .ok fingerprint => pure (.ok (snapshot,fingerprint))

structure BindPolicyConfig where
  driftRequired : Bool := true
  ttlRequired : Bool := false
  approvalFreshnessRequired : Bool := false
  rollbackOnApplyFailure : Bool := false
  missingSignalOutcome : AdmissibilityOutcome := .block

def parseMissingSignalOutcome : Value → AdmissibilityOutcome
  | .str s => if lower (strip s) = "escalate" then .escalate else .block
  | _ => .block

def bindOverrides (container : Option Dict) : Dict :=
  match container with
  | none => []
  | some members => ((members.get "bind_adjudication").asDict?).getD []

-- The overrides of the approval win over those of the lineage.
def resolveBindPolicyConfig (intent : ExecutionIntent) : BindPolicyConfig :=
  let merged := Dict.update (Dict.update [] (bindOverrides intent.policyLineage)) (bindOverrides intent.approvalContext)
  { driftRequired := (merged.getD "drift_required" (.bool true)).truthy
    ttlRequired := (merged.getD "ttl_required" (.bool false)).truthy
    approvalFreshnessRequired := (merged.getD "approval_freshness_required" (.bool false)).truthy
    rollbackOnApplyFailure := (merged.getD "rollback_on_apply_failure" (.bool false)).truthy
    missingSignalOutcome := parseMissingSignalOutcome (merged.getD "missing_signal_default" (.str "block")) }

-- A decision timestamp that does not parse gives no expiry; an expiry outside the
-- calendar raises.
def buildTtlExpiry (intent : ExecutionIntent) : Except Exc (Option String) :=
  match intent.ttlSeconds with
  | none => .ok none
  | some seconds =>
    if intent.decisionTs = "" then .ok none
    else
      match parseTimestamp intent.decisionTs with
      | .error error => if error.kind = .valueError then .ok none else .error error
      | .ok base => (plusSecondsIso base seconds).map some

def strippedText : Value → Option String
  | .str s => if strip s = "" then none else some (strip s)
  | _ => none

def buildApprovalExpiry (intent : ExecutionIntent) : Option String :=
  intent.approvalContext.bind fun approval => strippedText (approval.get "approval_expires_at")

def extractGovernanceIdentity (intent : ExecutionIntent) : Option Dict :=
  intent.policyLineage.bind fun lineage => (lineage.get "governance_identity").asDict?

def buildRevalidationContext (intent : ExecutionIntent) (policy : BindPolicyConfig) (ttlExpiresAt approvalExpiresAt : Option String)
    (idempotencyKey : String) : Dict :=
  [field "expected_state_fingerprint" (optStr intent.expectedStateFingerprint),field "ttl_expires_at" (optStr ttlExpiresAt),
   field "approval_expires_at" (optStr approvalExpiresAt),field "drift_required" (.bool policy.driftRequired),
   field "ttl_required" (.bool policy.ttlRequired),field "approval_freshness_required" (.bool policy.approvalFreshnessRequired),
   field "missing_signal_outcome" (.str policy.missingSignalOutcome.value),field "idempotency_key" (.str idempotencyKey)]

def approvalKey (intent : ExecutionIntent) : Option String :=
  intent.approvalContext.bind fun approval => strippedText (approval.get "idempotency_key")

def resolveIdempotencyKey (adapterKey : String) (intent : ExecutionIntent) : String :=
  if adapterKey ≠ "" then adapterKey else (approvalKey intent).getD intent.executionIntentId

-- Only a key that somebody chose is deduplicated, not the intent id it falls back to.
def idempotencyReplayEnabled (adapterKey : String) (intent : ExecutionIntent) : Bool :=
  adapterKey ≠ "" || (approvalKey intent).isSome

def receiptKey (receipt : BindReceipt) : String :=
  strip ((receipt.revalidationContext.get "idempotency_key").orStr "")

-- The latest receipt of the same intent, decision and key.
def findDuplicateBindReceipt (entries : List Dict) (intent : ExecutionIntent) (idempotencyKey : String) : Option BindReceipt :=
  (findBindReceipts entries "" intent.executionIntentId intent.decisionId).reverse.find? fun receipt =>
    receiptKey receipt ≠ "" ∧ receiptKey receipt = idempotencyKey

def validateIntentPreconditions (intent : ExecutionIntent) : Option String :=
  if intent.executionIntentId = "" then some "execution_intent_id is required"
  else if intent.decisionId = "" then some "decision_id is required"
  else if intent.targetResource = "" then some "target_resource is required"
  else if intent.intendedAction = "" then some "intended_action is required"
  else none

def extractBindDecisionValues (intent : ExecutionIntent) : List String :=
  [intent.approvalContext,intent.policyLineage].flatMap fun container =>
    match container with
    | none => []
    | some members =>
      collectDecisionValues members ++ (((members.get "decision_semantics").asDict?).map collectDecisionValues).getD []

def resolveRegulatedActionContext (intent : ExecutionIntent) : Dict :=
  ([intent.approvalContext,intent.policyLineage].findSome? fun container =>
    container.bind fun members => (members.get "regulated_action_governance").asDict?).getD []

def actionContractId (context : Dict) : Except Exc String :=
  let declared := context.get "action_contract_id"
  let payload := context.get "action_contract"
  if declared.truthy then .ok (strip declared.text)
  else if !payload.truthy then .ok ""
  else
    match payload.asDict? with
    | some contract => .ok (strip ((contract.get "id").orStr ""))
    | none => .error ⟨.attributeError,"object has no attribute 'get'"⟩

def boundaryRequest (intent : ExecutionIntent) (context : Dict) : Except Exc BoundaryRequest := do
  let required ← dictOf (context.get "required_evidence_metadata")
  let freshness ← dictOf (context.get "evidence_freshness_metadata")
  let approval ← dictOf (context.get "human_approval_state")
  let metadata ← dictOf (context.get "bind_context_metadata")
  return {
    executionIntentId := intent.executionIntentId
    actionClass := strip ((context.get "action_class").orStr "")
    actionContract := (context.get "action_contract").asDict?
    authorityEvidence := (context.get "authority_evidence").asDict?
    requestedScope := (normalizeStringList (context.get "requested_scope")).getD []
    requiredEvidenceMetadata := required
    evidenceFreshnessMetadata := freshness
    policySnapshotId := intent.policySnapshotId
    actorIdentity := intent.actorIdentity
    humanApprovalState := approval
    bindContextMetadata := metadata
  }

-- except (TypeError, ValueError) as exc: raise RuntimeError(...)
def boundaryError (error : Exc) : Exc :=
  if error.kind = .typeError ∨ error.kind = .valueError then
    ⟨.runtimeError,"BIND_COMMIT_BOUNDARY_EVALUATION_FAILED:" ++ error.text⟩
  else error

def evaluateRegulatedCommitBoundary (intent : ExecutionIntent) (context : Dict) : Bind S (Option CommitBoundaryResult) := do
  let contractId ← lift (actionContractId context)
  if contractId = "" then return none
  else
    let arguments ← lift ((boundaryRequest intent context).mapError boundaryError)
    let answer ← Ask.evaluateCommitBoundary arguments
    let result ← lift (answer.mapError boundaryError)
    return some result

def predicateToDict (predicate : PredicateResult) : Dict :=
  [field "predicate_id" (.str predicate.predicateId),field "predicate_type" (.str predicate.predicateType),
   field "status" (.str predicate.status),field "reason" (.str predicate.reason),field "evidence_ref" (optStr predicate.evidenceRef),
   field "severity" (.str predicate.severity),field "evaluated_at" (.str predicate.evaluatedAt),
   field "metadata" (.dict predicate.metadata)]

def nonempty (s : String) : Option String := if s = "" then none else some s

def regulatedReceiptUpdates (context : Dict) (result : Option CommitBoundaryResult) (fields : Regulated) : Regulated :=
  if context = [] then fields
  else
    let fields := { fields with
      regulatedActionPathId := (nonempty ((context.get "regulated_action_path_id").orStr "")).or fields.regulatedActionPathId }
    match result with
    | none => fields
    | some result => { fields with
        actionContractId := (nonempty result.actionContractId).or fields.actionContractId
        actionContractVersion := (nonempty result.actionContractVersion).or fields.actionContractVersion
        authorityEvidenceId := (nonempty result.authorityEvidenceId).or fields.authorityEvidenceId
        authorityEvidenceHash := (nonempty result.authorityEvidenceHash).or fields.authorityEvidenceHash
        authorityValidationStatus := (nonempty result.authorityValidationStatus).or fields.authorityValidationStatus
        admissibilityPredicates := some (result.admissibilityPredicates.map predicateToDict)
        failedPredicates := some (result.failedPredicates.map predicateToDict)
        stalePredicates := some (result.stalePredicates.map predicateToDict)
        missingPredicates := some (result.missingPredicates.map predicateToDict)
        irreversibilityBoundaryId := (nonempty result.irreversibilityBoundaryId).or fields.irreversibilityBoundaryId
        commitBoundaryResult := some result.commitBoundaryResult.value
        refusalBasis := some result.refusalBasis
        escalationBasis := some result.escalationBasis
        authorityEvidenceSummary := some [field "reason_summary" (.str result.reasonSummary),
          field "evaluated_at" (.str result.evaluatedAt)] }

def checkDict (status reasonCode message : String) : Dict :=
  [field "status" (.str status),field "reason_code" (.str reasonCode),field "message" (.str message)]

def checkFromRuntime (check : CheckResult) : Dict := checkDict check.status.value check.reasonCode check.message

def checkUnknown (reasonCode message : String) : Dict := checkDict CheckStatus.fail.value reasonCode message

-- The updates are made to the receipt as to_dict writes it.
def withReceipt (base : BindReceipt) (updates : BindReceipt → BindReceipt) : BindReceipt :=
  updates { base with labels := base.labels.renew }

def admissibilityDict (admissible : Bool) (recommended : String) (reasonCodes : List String) (target : Value) : Dict :=
  [field "admissible" (.bool admissible),field "recommended_outcome" (.str recommended),field "reason_codes" (strList reasonCodes),
   field "target" target]

-- The metadata of the lineage fills the target labels that are blank.
def applyBindTargetMetadataFromLineage (labels : Labels) (intent : ExecutionIntent) : Labels :=
  match intent.policyLineage.bind fun lineage => (lineage.get "bind_target_metadata").asDict? with
  | none => labels
  | some metadata =>
    let backfill := fun (current name : String) => if strip current ≠ "" then none else strippedText (metadata.get name)
    let path := backfill labels.targetPath "target_path"
    let type := backfill labels.targetType "target_type"
    let pathType := backfill labels.targetPathType "target_path_type"
    let label := backfill labels.targetLabel "target_label"
    let surface := backfill labels.operatorSurface "operator_surface"
    let href := backfill labels.relevantUiHref "relevant_ui_href"
    if [path,type,pathType,label,surface,href].all Option.isNone then labels
    else
      let renewed := labels.renew
      { renewed with
        targetPath := path.getD renewed.targetPath
        targetType := type.getD renewed.targetType
        targetPathType := pathType.getD renewed.targetPathType
        targetLabel := label.getD renewed.targetLabel
        operatorSurface := surface.getD renewed.operatorSurface
        relevantUiHref := href.getD renewed.relevantUiHref }

def firstCheckReason (receipt : BindReceipt) : Option (Option String × Option String) :=
  [receipt.checks.authority,receipt.checks.constraint,receipt.checks.drift,receipt.checks.risk].findSome?
    fun check => (nonempty (strip ((check.get "reason_code").orStr ""))).map fun code =>
      (some code,nonempty (strip ((check.get "message").orStr "")))

def firstReasonText (receipt : BindReceipt) : Option (Option String × Option String) :=
  [receipt.rollbackReason,receipt.escalationReason].findSome? fun
    | .str s => if strip s = "" then none else some (nonempty (strip (before ':' s)),some (strip s))
    | _ => none

def admissibilityReason (receipt : BindReceipt) : Option (Option String × Option String) :=
  match receipt.admissibilityResult.get "reason_codes" with
  | .list (.str first :: _) =>
    if strip first = "" then none
    else (nonempty (strip ((receipt.admissibilityResult.get "reason").orStr ""))).map fun reason =>
      (some (strip first),some reason)
  | _ => none

def resolveReceiptFailureFields (receipt : BindReceipt) : Option String × Option String :=
  (((admissibilityReason receipt).or (firstCheckReason receipt)).or (firstReasonText receipt)).getD (none,none)

def resolveRetrySafety (receipt : BindReceipt) : String :=
  match receipt.finalOutcome with
  | .committed | .rolledBack | .blocked => "SAFE"
  | .escalated | .applyFailed => "REQUIRES_ESCALATION"
  | .snapshotFailed | .preconditionFailed => "UNSAFE"

def mentions (needle : String) : Value → Bool
  | .str s => hasSub needle s
  | _ => false

def beginsWith (head : String) : Value → Bool
  | .str s => startsWith head s
  | _ => false

def resolveRollbackStatus (receipt : BindReceipt) : String :=
  match receipt.finalOutcome with
  | .rolledBack => "rolled_back"
  | .committed => "not_required"
  | .escalated => if mentions "BIND_REVERT" receipt.escalationReason then "rollback_failed" else "manual_intervention_required"
  | .applyFailed => "rollback_not_attempted"
  | _ => "not_required"

def resolveFailureCategory (receipt : BindReceipt) : String :=
  match receipt.finalOutcome with
  | .committed => "NONE"
  | .preconditionFailed => "PRECONDITION"
  | .snapshotFailed => "SNAPSHOT"
  | .applyFailed => "APPLY"
  | .blocked => "ADMISSIBILITY"
  | .rolledBack => if beginsWith "BIND_APPLY_FAILED" receipt.rollbackReason then "APPLY" else "POSTCONDITION"
  | .escalated =>
    if mentions "BIND_REVERT" receipt.escalationReason then "ROLLBACK"
    else if beginsWith "BIND_APPLY_FAILED" receipt.rollbackReason then "APPLY" else "POSTCONDITION"

def orElseText (value : Option String) (default : Option String) : Option String :=
  if value.getD "" = "" then default else value

-- The reason fields come from the receipt when it has none of its own.
def labelReason (receipt : BindReceipt) (labels : Labels) : Labels :=
  if labels.bindReasonCode.getD "" = "" ∨ labels.bindFailureReason.getD "" = "" then
    let reason := resolveReceiptFailureFields receipt
    { labels.renew with
      bindReasonCode := orElseText labels.bindReasonCode reason.1
      bindFailureReason := orElseText labels.bindFailureReason reason.2 }
  else labels

def labelOutcome (receipt : BindReceipt) (labels : Labels) : Labels :=
  { labels.renew with
    idempotencyStatus := orElseText labels.idempotencyStatus (some "fresh")
    retrySafety := orElseText labels.retrySafety (some (resolveRetrySafety receipt))
    rollbackStatus := orElseText labels.rollbackStatus (some (resolveRollbackStatus receipt))
    failureCategory := orElseText labels.failureCategory (some (resolveFailureCategory receipt)) }

def completeReceipt (receipt : BindReceipt) (intent : ExecutionIntent) : BindReceipt :=
  { receipt with
    labels := labelOutcome receipt (labelReason receipt (applyBindTargetMetadataFromLineage receipt.labels intent)) }

def bindReceiptEntry (candidate : BindReceipt) : Dict :=
  [field "kind" (.str bindReceiptKind),field "request_id" (.str candidate.decisionId),field "decision_id" (.str candidate.decisionId),
   field "execution_intent_id" (.str candidate.executionIntentId),field "bind_receipt_id" (.str candidate.bindReceiptId),
   field "bind_ts" (.str candidate.bindTs),field "final_outcome" (.str candidate.finalOutcome.value),
   field "prev_bind_hash" candidate.prevBindHash,field "bind_receipt_hash" (.str candidate.bindReceiptHash),
   field "bind_receipt" (.dict candidate.toDict)]

section Execute
variable (sha256 : String → String)

def appendExecutionIntentTrustlog (intent : ExecutionIntent) : Bind S Dict := do
  let entry ← lift (buildExecutionIntentTrustlogEntry sha256 intent)
  Ask.appendTrustLog entry >>= lift

def previousBindHash (receipt : BindReceipt) : Bind S Value :=
  if receipt.prevBindHash.truthy then pure receipt.prevBindHash
  else do
    let entries ← Ask.iterTrustLog
    pure (optStr (getPreviousBindHash entries receipt.decisionId receipt.executionIntentId))

def appendBindReceiptTrustlog (receipt : BindReceipt) : Bind S BindReceipt := do
  let previous ← previousBindHash receipt
  let candidate := { receipt with prevBindHash := previous }
  let hash ← lift (hashBindReceipt sha256 candidate)
  let candidate := { candidate with bindReceiptHash := hash }
  let entry ← Ask.appendTrustLog (bindReceiptEntry candidate) >>= lift
  return { candidate with trustlogHash := (entry.get "sha256").orStr "" }

def finalizeReceipt (intent : ExecutionIntent) (appendTrustlog : Bool) (receipt : BindReceipt) : Bind S BindReceipt :=
  let completed := completeReceipt receipt intent
  if !appendTrustlog then return completed
  else do
    let _ ← appendExecutionIntentTrustlog sha256 intent
    appendBindReceiptTrustlog sha256 completed

structure Call where
  intent : ExecutionIntent
  bindTs : Option String := none
  bindReceiptId : Option String := none
  appendTrustlog : Bool := true

def receiptId (call : Call) : Bind S String :=
  match nonempty (call.bindReceiptId.getD "") with
  | some id => pure id
  | none => Ask.uuid4

def baseReceipt (call : Call) (ts idempotencyKey : String) : Bind S BindReceipt := do
  let intent := call.intent
  let intentHash ← lift (hashExecutionIntent sha256 intent)
  let ttl ← lift (buildTtlExpiry intent)
  let id ← receiptId call
  return {
    bindReceiptId := id
    executionIntentId := intent.executionIntentId
    decisionId := intent.decisionId
    bindTs := ts
    executionIntentHash := intentHash
    policySnapshotId := intent.policySnapshotId
    actorIdentity := intent.actorIdentity
    decisionHash := intent.decisionHash
    labels := { idempotencyKey := some idempotencyKey }
    governanceIdentity := extractGovernanceIdentity intent
    revalidationContext := buildRevalidationContext intent {} ttl (buildApprovalExpiry intent) idempotencyKey
  }

structure Cleared (S : Type) where
  base : BindReceipt
  policy : BindPolicyConfig
  snapshot : S
  fingerprint : Value
  checks : Checks
  recommended : String
  regulated : Regulated → Regulated

def snapshotUnavailable : Checks :=
  ⟨checkUnknown "BIND_AUTHORITY_UNKNOWN" "snapshot unavailable",checkUnknown "BIND_CONSTRAINTS_UNKNOWN" "snapshot unavailable",
   checkUnknown "BIND_DRIFT_UNKNOWN" "snapshot unavailable",checkUnknown "BIND_RUNTIME_RISK_UNKNOWN" "snapshot unavailable"⟩

def admissibilityInput (intent : ExecutionIntent) (policy : BindPolicyConfig) (ts : String) (ttl : Option String)
    (authority constraints risk fingerprint : Value) : BindAdmissibilityInput :=
  { executionIntent := intent.executionIntentId
    currentTimestamp := ts
    authoritySignal := authority
    constraintSignals := constraints
    liveStateFingerprint := fingerprint
    expectedStateFingerprint := intent.expectedStateFingerprint
    runtimeRiskSignal := risk
    driftSensitive := policy.driftRequired
    ttlRequired := policy.ttlRequired
    approvalFreshnessRequired := policy.approvalFreshnessRequired
    missingSignalOutcome := policy.missingSignalOutcome
    ttlExpiresAt := ttl
    approvalExpiresAt := buildApprovalExpiry intent }

def finalBindDecision (values : List String) : String :=
  if values = [] then "eligible_to_commit" else resolveDecisionPrecedence (values.map .str) .bind

def precedenceReasonCode (decision : String) : Option String :=
  if decision = "block" then some "BIND_DECISION_PRECEDENCE_BLOCKED"
  else if decision = "escalate" then some "BIND_DECISION_PRECEDENCE_ESCALATED"
  else none

def inadmissibleReceipt (cleared : Cleared S) (admissibility : BindAdmissibilityResult) (values : List String) (target : Value) :
    BindReceipt :=
  let decision := finalBindDecision values
  let escalated := admissibility.recommendedOutcome = .escalate ∧ decision ≠ "block"
  let recommended := if escalated then "escalate" else "block"
  let reasonCodes := admissibility.reasonCodes ++ (precedenceReasonCode decision).toList
  let lineage : Dict := if precedenceReasonCode decision = none then [] else
    [field "effective_decision" (.str recommended),field "final_effective_decision" (.str recommended),
     field "precedence_decision" (.str decision),field "decision_sources" (strList values)]
  withReceipt cleared.base fun receipt => { receipt with
    liveStateFingerprintBefore := cleared.fingerprint
    checks := cleared.checks
    regulated := cleared.regulated receipt.regulated
    admissibilityResult := admissibilityDict false recommended reasonCodes target ++ lineage
    finalOutcome := if escalated then .escalated else .blocked
    escalationReason := if escalated then .str "BIND_ADMISSIBILITY_ESCALATION_REQUIRED" else .none }

def precedenceReceipt (cleared : Cleared S) (values : List String) (code : String) (target : Value) : BindReceipt :=
  let decision := finalBindDecision values
  let escalated := decision = "escalate"
  withReceipt cleared.base fun receipt => { receipt with
    liveStateFingerprintBefore := cleared.fingerprint
    checks := cleared.checks
    regulated := cleared.regulated receipt.regulated
    admissibilityResult := [field "admissible" (.bool false),
      field "recommended_outcome" (.str (if escalated then "escalate" else "block")),field "effective_decision" (.str decision),
      field "final_effective_decision" (.str decision),field "precedence_decision" (.str decision),
      field "decision_sources" (strList values),field "reason_codes" (strList [code]),field "target" target]
    finalOutcome := if escalated then .escalated else .blocked
    escalationReason := if escalated then .str code else .none }

def boundaryReceipt (cleared : Cleared S) (recommended code : String) (outcome : FinalOutcome) (target : Value) : BindReceipt :=
  withReceipt cleared.base fun receipt => { receipt with
    liveStateFingerprintBefore := cleared.fingerprint
    checks := cleared.checks
    regulated := cleared.regulated receipt.regulated
    admissibilityResult := admissibilityDict false recommended [code] target
    finalOutcome := outcome
    escalationReason := if outcome = .escalated then .str code else receipt.escalationReason }

-- The commit boundary decides last; without an action contract it is not asked.
def boundaryGate (call : Call) (cleared : Cleared S) : Bind S (BindReceipt ⊕ Cleared S) := do
  let context := resolveRegulatedActionContext call.intent
  let result ← evaluateRegulatedCommitBoundary call.intent context
  let cleared : Cleared S := { cleared with regulated := regulatedReceiptUpdates context result }
  match result.map CommitBoundaryResult.commitBoundaryResult with
  | some .block =>
    let target ← describeTarget
    pure (.inl (boundaryReceipt cleared "block" "BIND_COMMIT_BOUNDARY_BLOCKED" .blocked target))
  | some .escalate =>
    let target ← describeTarget
    pure (.inl (boundaryReceipt cleared "escalate" "BIND_COMMIT_BOUNDARY_ESCALATED" .escalated target))
  | some .refuse =>
    let target ← describeTarget
    pure (.inl (boundaryReceipt cleared "block" "BIND_COMMIT_BOUNDARY_REFUSED" .blocked target))
  | _ => pure (.inr cleared)

-- The base receipt with the resolved policy in its context, and the four checks.
def assessed (call : Call) (idempotencyKey : String) (base : BindReceipt) (snapshot : S) (fingerprint : Value)
    (ttl : Option String) (admissibility : BindAdmissibilityResult) : Cleared S :=
  let policy := resolveBindPolicyConfig call.intent
  { base := withReceipt base fun receipt => { receipt with
      revalidationContext := buildRevalidationContext call.intent policy ttl (buildApprovalExpiry call.intent) idempotencyKey }
    policy := policy
    snapshot := snapshot
    fingerprint := fingerprint
    checks := ⟨checkFromRuntime admissibility.authorityCheckResult,checkFromRuntime admissibility.constraintCheckResult,
      checkFromRuntime admissibility.driftCheckResult,checkFromRuntime admissibility.riskCheckResult⟩
    recommended := admissibility.recommendedOutcome.value
    regulated := regulatedReceiptUpdates (resolveRegulatedActionContext call.intent) none }

def signalGate (call : Call) (ts idempotencyKey : String) (base : BindReceipt) (snapshot : S) (fingerprint : Value) :
    Bind S (BindReceipt ⊕ Cleared S) := do
  let intent := call.intent
  let authority ← Ask.validateAuthority intent snapshot >>= lift
  let constraints ← Ask.validateConstraints intent snapshot >>= lift
  let risk ← Ask.assessRuntimeRisk intent snapshot >>= lift
  let ttl ← lift (buildTtlExpiry intent)
  let admissibility ← lift (evaluateBindAdmissibility
    (admissibilityInput intent (resolveBindPolicyConfig intent) ts ttl authority constraints risk fingerprint))
  let cleared := assessed call idempotencyKey base snapshot fingerprint ttl admissibility
  let values := extractBindDecisionValues intent
  if !admissibility.admissibilityResult then
    let target ← describeTarget
    pure (.inl (inadmissibleReceipt cleared admissibility values target))
  else
    match precedenceReasonCode (finalBindDecision values) with
    | some code =>
      let target ← describeTarget
      pure (.inl (precedenceReceipt cleared values code target))
    | none => boundaryGate call cleared

def clearGates (call : Call) (ts idempotencyKey : String) (base : BindReceipt) : Bind S (BindReceipt ⊕ Cleared S) :=
  match validateIntentPreconditions call.intent with
  | some error => do
    let target ← describeTarget
    return .inl (withReceipt base fun receipt => { receipt with
      admissibilityResult := [field "admissible" (.bool false),field "reason_codes" (strList ["BIND_PRECONDITION_INVALID"]),
        field "reason" (.str error),field "target" target]
      finalOutcome := .preconditionFailed })
  | none => do
    match ← observe with
    | .error error =>
      if !error.handled then .fail error
      else pure <| .inl (withReceipt base fun receipt => { receipt with
        liveStateFingerprintBefore := .str ""
        checks := snapshotUnavailable
        admissibilityResult := [field "admissible" (.bool false),field "recommended_outcome" (.str "block"),
          field "reason_codes" (strList ["BIND_SNAPSHOT_FAILED"]),field "reason" (.str error.text)]
        finalOutcome := .snapshotFailed })
    | .ok (snapshot,fingerprint) => signalGate call ts idempotencyKey base snapshot fingerprint

def appliedReceipt (cleared : Cleared S) (reasonCodes : List String) (outcome : FinalOutcome) (rollback escalation : Value)
    (target : Value) : BindReceipt :=
  withReceipt cleared.base fun receipt => { receipt with
    liveStateFingerprintBefore := cleared.fingerprint
    checks := cleared.checks
    admissibilityResult := admissibilityDict true cleared.recommended reasonCodes target
    finalOutcome := outcome
    rollbackReason := rollback
    escalationReason := escalation }

-- The receipt is built last, so an adapter that cannot describe its target raises here.
def described (build : Value → BindReceipt) : Bind S BindReceipt := do
  let target ← describeTarget
  pure (build target)

-- The only rollback that reads the state again records it, and compares nothing.
def restoredReceipt (cleared : Cleared S) (post target : Value) : BindReceipt :=
  { appliedReceipt cleared ["BIND_POSTCONDITION_FAILED"] .rolledBack (.str "BIND_POSTCONDITION_FAILED")
      cleared.base.escalationReason target with
    liveStateFingerprintAfter := post }

def rollbackAfterVerificationFailure (intent : ExecutionIntent) (cleared : Cleared S) : Bind S BindReceipt := do
  let receipt := appliedReceipt cleared ["BIND_POSTCONDITION_FAILED"]
  let reason := Value.str "BIND_POSTCONDITION_FAILED"
  match ← Ask.revert intent cleared.snapshot with
  | .error error =>
    if !error.handled then .fail error
    else described (receipt .escalated reason (.str ("BIND_REVERT_FAILED_AFTER_VERIFY_FAILURE:" ++ error.text)))
  | .ok reverted =>
    if !reverted.truthy then described (receipt .escalated reason (.str "BIND_REVERT_REPORTED_FALSE"))
    else
      match ← observe with
      | .error error =>
        if !error.handled then .fail error
        else described (receipt .escalated reason (.str ("BIND_POST_ROLLBACK_SNAPSHOT_FAILED:" ++ error.text)))
      | .ok (_,post) => described (restoredReceipt cleared post)

-- The two helpers that take the adapter's word for the rollback differ in the
-- reason code and in the text for a revert that raised.
def rollbackUnchecked (intent : ExecutionIntent) (cleared : Cleared S) (reasonCode : String) (reason : Value) (failure : String) :
    Bind S BindReceipt := do
  let receipt := appliedReceipt cleared [reasonCode]
  match ← Ask.revert intent cleared.snapshot with
  | .error error =>
    if !error.handled then .fail error
    else described (receipt .escalated reason (.str (failure ++ error.text)))
  | .ok reverted =>
    if reverted.truthy then described (receipt .rolledBack reason cleared.base.escalationReason)
    else described (receipt .escalated reason (.str "BIND_REVERT_REPORTED_FALSE"))

def rollbackAfterRuntimeSignalFailure (intent : ExecutionIntent) (cleared : Cleared S) (error : Exc) : Bind S BindReceipt :=
  rollbackUnchecked intent cleared "BIND_POST_SIGNAL_MISSING" (.str ("BIND_POST_FINGERPRINT_FAILED:" ++ error.text))
    "BIND_REVERT_FAILED_AFTER_POST_SIGNAL_ERROR:"

def rollbackAfterApplyFailure (intent : ExecutionIntent) (cleared : Cleared S) (error : Exc) : Bind S BindReceipt :=
  rollbackUnchecked intent cleared "BIND_APPLY_FAILED" (.str ("BIND_APPLY_FAILED:" ++ error.text))
    "BIND_REVERT_FAILED_AFTER_APPLY_ERROR:"

def applyFailed (intent : ExecutionIntent) (cleared : Cleared S) (error : Exc) : Bind S BindReceipt :=
  if !error.handled then .fail error
  else if cleared.policy.rollbackOnApplyFailure then rollbackAfterApplyFailure intent cleared error
  else described (appliedReceipt cleared [] .applyFailed (.str ("BIND_APPLY_FAILED:" ++ error.text))
    cleared.base.escalationReason)

def committedReceipt (cleared : Cleared S) (post target : Value) : BindReceipt :=
  withReceipt cleared.base fun receipt => { receipt with
    liveStateFingerprintBefore := cleared.fingerprint
    liveStateFingerprintAfter := post
    checks := cleared.checks
    regulated := cleared.regulated receipt.regulated
    admissibilityResult := admissibilityDict true cleared.recommended [] target
    finalOutcome := .committed }

def verifyApplied (intent : ExecutionIntent) (cleared : Cleared S) : Bind S BindReceipt := do
  let verified ← Ask.verifyPostconditions intent cleared.snapshot >>= lift
  if !verified.truthy then rollbackAfterVerificationFailure intent cleared
  else
    match ← observe with
    | .error error =>
      if !error.handled then .fail error
      else rollbackAfterRuntimeSignalFailure intent cleared error
    | .ok (_,post) => described (committedReceipt cleared post)

def commitStage (intent : ExecutionIntent) (cleared : Cleared S) : Bind S BindReceipt := do
  match ← Ask.apply intent cleared.snapshot with
  | .error error => applyFailed intent cleared error
  | .ok _ => verifyApplied intent cleared

def replayedReceipt (receipt : BindReceipt) (idempotencyKey : String) : BindReceipt :=
  { receipt with labels := { receipt.labels.renew with
      idempotencyKey := some idempotencyKey
      idempotencyStatus := some "replayed"
      bindReasonCode := some "BIND_IDEMPOTENT_REPLAY"
      bindFailureReason := some ("BIND_IDEMPOTENT_REPLAY:" ++ receipt.bindReceiptId)
      retrySafety := some "SAFE"
      rollbackStatus := orElseText receipt.labels.rollbackStatus (some "not_required")
      failureCategory := orElseText receipt.labels.failureCategory (some "NONE") } }

def bindTimestamp (call : Call) : Bind S String :=
  match nonempty (call.bindTs.getD "") with
  | some ts => pure ts
  | none => Ask.utcNow

def lookupDuplicate (call : Call) (adapterKey idempotencyKey : String) : Bind S (Option BindReceipt) :=
  if call.appendTrustlog && idempotencyReplayEnabled adapterKey call.intent then do
    let entries ← Ask.iterTrustLog
    pure (findDuplicateBindReceipt entries call.intent idempotencyKey)
  else pure none

-- How far a call gets before the effect: a replay, a refusal, or clearance.
inductive Stage (S : Type) where
  | replayed (receipt : BindReceipt)
  | refused (receipt : BindReceipt)
  | cleared (clearance : Cleared S)

def prelude (call : Call) : Bind S (Stage S) := do
  let ts ← bindTimestamp call
  let rawKey ← Ask.buildIdempotencyKey call.intent >>= lift
  let adapterKey := strip (rawKey.orStr "")
  let idempotencyKey := resolveIdempotencyKey adapterKey call.intent
  match ← lookupDuplicate call adapterKey idempotencyKey with
  | some receipt => pure (.replayed (replayedReceipt receipt idempotencyKey))
  | none =>
    let base ← baseReceipt sha256 call ts idempotencyKey
    match ← clearGates call ts idempotencyKey base with
    | .inl receipt => pure (.refused receipt)
    | .inr clearance => pure (.cleared clearance)

def conclude (call : Call) : Stage S → Bind S BindReceipt
  | .replayed receipt => pure receipt
  | .refused receipt => finalizeReceipt sha256 call.intent call.appendTrustlog receipt
  | .cleared clearance => do
    let receipt ← commitStage call.intent clearance
    finalizeReceipt sha256 call.intent call.appendTrustlog receipt

def executeBindAdjudication (call : Call) : Bind S BindReceipt := prelude sha256 call >>= conclude sha256 call

end Execute

structure Adapter (W S : Type) where
  buildIdempotencyKey : ExecutionIntent → W → Except Exc Value × W
  snapshot : W → Except Exc S × W
  fingerprintState : S → W → Except Exc Value × W
  validateAuthority : ExecutionIntent → S → W → Except Exc Value × W
  validateConstraints : ExecutionIntent → S → W → Except Exc Value × W
  assessRuntimeRisk : ExecutionIntent → S → W → Except Exc Value × W
  apply : ExecutionIntent → S → W → Except Exc Value × W
  verifyPostconditions : ExecutionIntent → S → W → Except Exc Value × W
  revert : ExecutionIntent → S → W → Except Exc Value × W
  describeTarget : W → Except Exc Value × W

structure Host (W : Type) where
  world : W
  log : TrustLog.Log

-- What surrounds one call besides its adapter: the clock, the identifier source
-- and the boundary evaluator.
structure Surroundings where
  storage : TrustLog.Storage
  utcNow : String
  uuid4 : String
  evaluateCommitBoundary : BoundaryRequest → Except Exc CommitBoundaryResult

def onWorld {W α : Type} (method : W → α × W) (host : Host W) : α × Host W :=
  ((method host.world).1,{ host with world := (method host.world).2 })

def onLog {W α : Type} (operation : TrustLog.Log → α × TrustLog.Log) (host : Host W) : α × Host W :=
  ((operation host.log).1,{ host with log := (operation host.log).2 })

def handler {W S : Type} (around : Surroundings) (adapter : Adapter W S) : Handler (Ans S) (Host W)
  | .utcNow => fun host => (around.utcNow,host)
  | .uuid4 => fun host => (around.uuid4,host)
  | .buildIdempotencyKey intent => onWorld (adapter.buildIdempotencyKey intent)
  | .snapshot => onWorld adapter.snapshot
  | .fingerprintState snapshot => onWorld (adapter.fingerprintState snapshot)
  | .validateAuthority intent snapshot => onWorld (adapter.validateAuthority intent snapshot)
  | .validateConstraints intent snapshot => onWorld (adapter.validateConstraints intent snapshot)
  | .assessRuntimeRisk intent snapshot => onWorld (adapter.assessRuntimeRisk intent snapshot)
  | .evaluateCommitBoundary arguments => fun host => (around.evaluateCommitBoundary arguments,host)
  | .apply intent snapshot => onWorld (adapter.apply intent snapshot)
  | .verifyPostconditions intent snapshot => onWorld (adapter.verifyPostconditions intent snapshot)
  | .revert intent snapshot => onWorld (adapter.revert intent snapshot)
  | .describeTarget => onWorld adapter.describeTarget
  | .iterTrustLog => onLog (TrustLog.iterTrustLog around.storage)
  | .appendTrustLog entry => onLog (TrustLog.appendTrustLog around.storage entry)

def execute {W S : Type} (around : Surroundings) (adapter : Adapter W S) (call : Call) (host : Host W) : Except Exc BindReceipt × Host W :=
  run (handler around adapter) (executeBindAdjudication around.storage.sha256 call) host

end VeritasOs.BindCore
