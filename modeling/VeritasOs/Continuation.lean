import VeritasOs.CallRuns
import VeritasOs.PolicyCompiler

namespace VeritasOs.Continuation
open Text JsonText BindArtifacts PolicyBundle PolicyCompiler CallRuns

inductive ClaimStatus where
  | live | narrowed | degraded | escalated | halted | revoked
deriving DecidableEq

def ClaimStatus.text : ClaimStatus → String
  | .live => "live"
  | .narrowed => "narrowed"
  | .degraded => "degraded"
  | .escalated => "escalated"
  | .halted => "halted"
  | .revoked => "revoked"

inductive RevalidationStatus where
  | renewed | narrowed | degraded | escalated | halted | revoked | failed
deriving DecidableEq

def RevalidationStatus.text : RevalidationStatus → String
  | .renewed => "renewed"
  | .narrowed => "narrowed"
  | .degraded => "degraded"
  | .escalated => "escalated"
  | .halted => "halted"
  | .revoked => "revoked"
  | .failed => "failed"

-- The outcomes have the same members as the statuses.
abbrev RevalidationOutcome := RevalidationStatus

inductive ReasonCode where
  | supportLostPolicyScope | supportLostWorldState | supportLostApproval | burdenThresholdExceeded | headroomCollapsed
  | revalidationFailed | actionClassNotAllowed | claimHalted | claimRevoked
deriving DecidableEq

def ReasonCode.text : ReasonCode → String
  | .supportLostPolicyScope => "SUPPORT_LOST_POLICY_SCOPE"
  | .supportLostWorldState => "SUPPORT_LOST_WORLD_STATE"
  | .supportLostApproval => "SUPPORT_LOST_APPROVAL"
  | .burdenThresholdExceeded => "BURDEN_THRESHOLD_EXCEEDED"
  | .headroomCollapsed => "HEADROOM_COLLAPSED"
  | .revalidationFailed => "REVALIDATION_FAILED"
  | .actionClassNotAllowed => "ACTION_CLASS_NOT_ALLOWED"
  | .claimHalted => "CLAIM_HALTED"
  | .claimRevoked => "CLAIM_REVOKED"

structure ContinuationClaimLineage where
  claimLineageId : String
  latestSnapshotId : Option String
  currentClaimStatus : ClaimStatus
  isRevoked : Bool
  revokedAt : Option String
deriving DecidableEq

def ContinuationClaimLineage.entry (claimLineageId : String) : ContinuationClaimLineage :=
  { claimLineageId,latestSnapshotId := none,currentClaimStatus := .live,isRevoked := false,revokedAt := none }

structure SupportBasis where
  authority : Value
  policy : Value
  evidence : String
  dependency : Value
  environment : Value

structure Scope where
  allowedActionClasses : Value
  restrictedActionClasses : Value
  escalationRequired : Value
  restrictionsDurable : Value

structure BurdenState where
  requiredEvidence : Value
  satisfiedEvidence : Value
  threshold : Value
  currentLevel : FloatValue

structure HeadroomState where
  remaining : FloatValue
  thresholdEscalation : FloatValue
  thresholdSuspension : FloatValue
  collapseIrreversible : Value

structure RevocationCondition where
  conditionId : String
  description : String
  isMet : Bool

structure DurableConsequence where
  hasDurableHalt : Bool := false
  hasDurableScopeReduction : Bool := false
  hasDurableClassChange : Bool := false
  hasIrreversibleRevocation : Bool := false
  promotionReason : String := ""
deriving DecidableEq

structure ClaimStateSnapshot where
  snapshotId : String
  claimLineageId : String
  priorSnapshotId : Option String
  timestamp : String
  supportBasis : SupportBasis
  scope : Scope
  burdenState : BurdenState
  headroomState : HeadroomState
  lawVersion : String
  revocationConditions : List RevocationCondition
  claimStatus : ClaimStatus
  durableConsequence : Option DurableConsequence

structure ContinuationReceipt where
  receiptId : String
  claimLineageId : String
  snapshotId : String
  receiptTimestamp : String
  lawVersionId : String
  revalidationStatus : RevalidationStatus
  revalidationOutcome : RevalidationOutcome
  revalidationReasonCodes : List ReasonCode
  priorDecisionContinuityRef : Option String
  parentReceiptRef : Option String
  divergenceFlag : Bool
  shouldRefuseBeforeEffect : Bool
  supportBasisDigest : String
  scopeDigest : String
  burdenHeadroomDigest : String
  boundaryOutcome : String
  isDurablePromotion : Bool
  provisionalVsDurable : Option String
  reopeningEligible : Bool
  haltOccurred : Bool
  narrowingOccurred : Bool
  haltClassification : Option String
  divergenceDetail : Option String
  boundaryPredicates : List String
  priorStateRef : Option String

structure PresentCondition where
  chainId : String
  context : Dict
  priorDecisionStatus : Option String
  priorReceiptId : Option String

structure Call where
  condition : PresentCondition
  priorSnapshot : Option ClaimStateSnapshot
  priorReceipt : Option ContinuationReceipt
  snapshotId : String
  receiptId : String
  timestamp : String
  receiptTimestamp : String
  revokedAt : String

-- The law in force, the quotient of two lengths, and the first digits of the hash of a document.
structure ContinuationRevalidator where
  lawVersionId : String
  quotient : Int → Int → FloatValue
  digest : Json → String

def one : FloatValue := .finite ⟨"1.0",float_one⟩
def zero : FloatValue := .finite ⟨"0.0",float_zero⟩
def threeTenths : FloatValue := .finite ⟨"0.3",float_three_tenths⟩

def floatLe (x y : FloatValue) : Bool :=
  match floatNumber x,floatNumber y with
  | some m,some n => m.le n
  | _,_ => false

def floatLt (x y : FloatValue) : Bool :=
  match floatNumber x,floatNumber y with
  | some m,some n => !n.le m
  | _,_ => false

def lessThan (x : FloatValue) (value : Value) : Except Exc Bool :=
  match value with
  | .int _ | .bool _ | .float _ =>
    match floatNumber x,value.number with
    | some m,some n => .ok (!n.le m)
    | _,_ => .ok false
  | other => .error (typeError ("< not supported between instances of float and " ++ typeName other))

def contains (item container : Value) : Except Exc Bool :=
  match container with
  | .list items | .tuple items => .ok (items.any (pyEq item))
  | .dict members =>
    match keyOf item with
    | some _ => .ok (members.any fun member => pyEq item (keyValue member.1))
    | none => .error (typeError ("unhashable type: " ++ typeName item))
  | .str s =>
    match item with
    | .str part => .ok (hasSub part s)
    | other => .error (typeError ("in <string> requires string as left operand, not " ++ typeName other))
  | other => .error (typeError ("argument of type " ++ typeName other ++ " is not iterable"))

def append (container item : Value) : Except Exc Value :=
  match container with
  | .list items => .ok (.list (items ++ [item]))
  | other => .error (attributeError (typeName other ++ " object has no attribute append"))

def collectSupportBasis (condition : PresentCondition) : Except Exc SupportBasis := do
  let ctx := condition.context
  let given := ctx.getD "authorization" (.str "")
  let authority := if !given.truthy && condition.chainId != "" then .str ("chain:" ++ condition.chainId) else given
  let policy := ctx.getD "policy_ref" (.str "default")
  let evidenceCount ← lenOf (ctx.getD "evidence" (.list []))
  let evidence := if evidenceCount = 0 then "" else "evidence_count:" ++ intStr evidenceCount
  let dependency := ctx.getD "dependency_status" (.str "")
  let environment := ctx.getD "environment_status" (.str "nominal")
  return { authority,policy,evidence,dependency,environment }

def collectScope (condition : PresentCondition) : Scope where
  allowedActionClasses := condition.context.getD "allowed_actions" (.list [.str "query",.str "decide"])
  restrictedActionClasses := condition.context.getD "restricted_actions" (.list [])
  escalationRequired := condition.context.getD "escalation_required" (.bool false)
  restrictionsDurable := condition.context.getD "restrictions_durable" (.bool false)

-- The requirements, what satisfies them and the threshold: of the prior snapshot, else of the context.
def carriedBurden (condition : PresentCondition) : Option ClaimStateSnapshot → Except Exc (Value × Value × Value)
  | some prior => do
    let required ← listFrom prior.burdenState.requiredEvidence
    let satisfied ← listFrom prior.burdenState.satisfiedEvidence
    return (.list required,.list satisfied,prior.burdenState.threshold)
  | none =>
    let ctx := condition.context
    .ok (ctx.getD "required_evidence" (.list []),ctx.getD "satisfied_evidence" (.list []),ctx.getD "burden_threshold" (.float one))

def satisfy (required satisfied ev : Value) : Except Exc Value := do
  if ← contains ev required then
    if ← contains ev satisfied then return satisfied
    else append satisfied ev
  else return satisfied

section Revalidate
variable (revalidator : ContinuationRevalidator)

def evaluateBurden (condition : PresentCondition) (priorSnapshot : Option ClaimStateSnapshot) : Except Exc BurdenState := do
  let (required,carried,threshold) ← carriedBurden condition priorSnapshot
  let newEvidence ← listFrom (condition.context.getD "new_evidence" (.list []))
  let satisfied ← newEvidence.foldlM (satisfy required) carried
  if required.truthy then
    let have_ ← lenOf satisfied
    let need ← lenOf required
    return { requiredEvidence := required,satisfiedEvidence := satisfied,threshold,currentLevel := revalidator.quotient have_ need }
  else return { requiredEvidence := required,satisfiedEvidence := satisfied,threshold,currentLevel := one }

def evaluateHeadroom (burdenState : BurdenState) (condition : PresentCondition) : HeadroomState where
  remaining := burdenState.currentLevel
  thresholdEscalation := threeTenths
  thresholdSuspension := zero
  collapseIrreversible := condition.context.getD "headroom_collapse_irreversible" (.bool false)

def checkRevocationConditions (supportBasis : SupportBasis) : List RevocationCondition :=
  [⟨"authority_present","Chain must have an authority reference",!supportBasis.authority.truthy⟩,
   ⟨"policy_present","Policy reference must exist",!supportBasis.policy.truthy⟩]

structure Findings where
  supportBasis : SupportBasis
  scope : Scope
  burdenState : BurdenState
  headroomState : HeadroomState
  revocationConditions : List RevocationCondition

def collect (call : Call) : Except Exc Findings := do
  let supportBasis ← collectSupportBasis call.condition
  let burdenState ← evaluateBurden revalidator call.condition call.priorSnapshot
  return {
    supportBasis
    scope := collectScope call.condition
    burdenState
    headroomState := evaluateHeadroom burdenState call.condition
    revocationConditions := checkRevocationConditions supportBasis }

def supportLost (findings : Findings) : Bool :=
  !findings.supportBasis.authority.truthy && !findings.supportBasis.policy.truthy

def determineStatus (findings : Findings) (priorStatus : ClaimStatus) : Except Exc (ClaimStatus × List ReasonCode) := do
  if priorStatus = .revoked then return (.revoked,[.claimRevoked])
  if priorStatus = .halted then return (.halted,[.claimHalted])
  let metRevocations := findings.revocationConditions.filter RevocationCondition.isMet
  if metRevocations.any (·.conditionId == "authority_present") && metRevocations.any (·.conditionId == "policy_present") then
    return (.revoked,[.supportLostApproval,.supportLostPolicyScope])
  if supportLost findings then return (.revoked,[.supportLostApproval])
  if floatLe findings.headroomState.remaining findings.headroomState.thresholdSuspension then
    return (.halted,[.headroomCollapsed])
  if floatLe findings.headroomState.remaining findings.headroomState.thresholdEscalation then
    return (.escalated,[.headroomCollapsed])
  if findings.scope.escalationRequired.truthy then return (.escalated,[.actionClassNotAllowed])
  if ← lessThan findings.burdenState.currentLevel findings.burdenState.threshold then
    return (.degraded,[.burdenThresholdExceeded])
  if findings.scope.restrictedActionClasses.truthy then return (.narrowed,[.actionClassNotAllowed])
  return (.live,[])

-- What of the outcome lasts, and the standing it leaves. An outcome that does not last leaves
-- the claim live.
def assessDurability (boundary : ClaimStatus) (findings : Findings) (priorStatus : ClaimStatus) : Option DurableConsequence × ClaimStatus :=
  match boundary with
  | .live => (none,.live)
  | .revoked => (some { hasIrreversibleRevocation := true,promotionReason := "irreversible support loss" },.revoked)
  | .halted =>
    if priorStatus = .halted then
      (some { hasDurableHalt := true,promotionReason := "terminal halt carried forward" },.halted)
    else if floatLe findings.headroomState.remaining findings.headroomState.thresholdSuspension &&
        findings.headroomState.collapseIrreversible.truthy then
      (some { hasDurableHalt := true,promotionReason := "headroom irreversibly collapsed" },.halted)
    else (none,.live)
  | .narrowed =>
    if findings.scope.restrictedActionClasses.truthy && findings.scope.restrictionsDurable.truthy then
      (some { hasDurableScopeReduction := true,promotionReason := "durable scope restriction present" },.narrowed)
    else (none,.live)
  | .degraded => (none,.live)
  | .escalated => (none,.live)

def assessReopeningEligible (boundary : ClaimStatus) (isDurable : Bool) : Bool :=
  if boundary ≠ .narrowed then true else !isDurable

def classifyHalt (boundary : ClaimStatus) (headroomState : HeadroomState) (isDurable : Bool) : Option String :=
  if boundary ≠ .halted then none
  else if isDurable then some "durable_state_transformation"
  else if floatLe headroomState.remaining headroomState.thresholdEscalation then some "safety_pause"
  else if floatLt headroomState.remaining one then some "bounded_interruption"
  else some "temporary_refusal"

def localFailed (localStepResult : Option String) : Bool :=
  (localStepResult.map fun result => ["deny","block","reject","fail"].contains (lower result)).getD false

def computeDivergenceDetail (boundary : ClaimStatus) (isDurable : Bool) (localStepResult : Option String) : Option String :=
  if boundary = .live then (if localFailed localStepResult then some "local_fail_continuation_live" else none)
  else if localFailed localStepResult then none
  else
    match boundary with
    | .revoked => some "local_pass_revoked"
    | .halted => some (if isDurable then "local_pass_durable_halt" else "local_pass_receipt_halt")
    | .narrowed => some (if isDurable then "local_pass_durable_narrowing" else "local_pass_receipt_narrowing")
    | .degraded => some "local_pass_receipt_degraded"
    | .escalated => some "local_pass_receipt_escalated"
    | .live => none

-- Both maps have every claim status.
def mapRevalidationStatus : ClaimStatus → RevalidationStatus
  | .live => .renewed
  | .narrowed => .narrowed
  | .degraded => .degraded
  | .escalated => .escalated
  | .halted => .halted
  | .revoked => .revoked

def mapRevalidationOutcome : ClaimStatus → RevalidationOutcome := mapRevalidationStatus

def Scope.toDict (scope : Scope) : Dict :=
  [(.str "allowed_action_classes",scope.allowedActionClasses),(.str "restricted_action_classes",scope.restrictedActionClasses),
   (.str "escalation_required",scope.escalationRequired),(.str "restrictions_durable",scope.restrictionsDurable)]

def SupportBasis.toDict (basis : SupportBasis) : Dict :=
  [(.str "authority",basis.authority),(.str "policy",basis.policy),(.str "evidence",.str basis.evidence),
   (.str "dependency",basis.dependency),(.str "environment",basis.environment)]

def BurdenState.toDict (burden : BurdenState) : Dict :=
  [(.str "required_evidence",burden.requiredEvidence),(.str "satisfied_evidence",burden.satisfiedEvidence),
   (.str "threshold",burden.threshold),(.str "current_level",.float burden.currentLevel)]

def HeadroomState.toDict (headroom : HeadroomState) : Dict :=
  [(.str "remaining",.float headroom.remaining),(.str "threshold_escalation",.float headroom.thresholdEscalation),
   (.str "threshold_suspension",.float headroom.thresholdSuspension),(.str "collapse_irreversible",headroom.collapseIrreversible)]

-- json.dumps(payload, sort_keys=True), hashed.
def digestOf (payload : Dict) : Except Exc String :=
  match toJson true (.dict payload) with
  | some document => .ok (revalidator.digest document)
  | none => .error encodingError

def emit (lineage : ContinuationClaimLineage) (call : Call) : Except Exc (ClaimStateSnapshot × ContinuationReceipt) := do
  let findings ← collect revalidator call
  let (boundary,reasonCodes) ← determineStatus findings lineage.currentClaimStatus
  let (durableConsequence,claimStatus) := assessDurability boundary findings lineage.currentClaimStatus
  let priorStateRef := match call.priorSnapshot with
    | some prior => some prior.snapshotId
    | none => lineage.latestSnapshotId
  let isDurable := durableConsequence.isSome
  let supportBasisDigest ← digestOf revalidator findings.supportBasis.toDict
  let scopeDigest ← digestOf revalidator findings.scope.toDict
  let burdenHeadroomDigest ← digestOf revalidator
    [(.str "burden",.dict findings.burdenState.toDict),(.str "headroom",.dict findings.headroomState.toDict)]
  return (
    { snapshotId := call.snapshotId
      claimLineageId := lineage.claimLineageId
      priorSnapshotId := priorStateRef
      timestamp := call.timestamp
      supportBasis := findings.supportBasis
      scope := findings.scope
      burdenState := findings.burdenState
      headroomState := findings.headroomState
      lawVersion := revalidator.lawVersionId
      revocationConditions := findings.revocationConditions
      claimStatus
      durableConsequence },
    { receiptId := call.receiptId
      claimLineageId := lineage.claimLineageId
      snapshotId := call.snapshotId
      receiptTimestamp := call.receiptTimestamp
      lawVersionId := revalidator.lawVersionId
      revalidationStatus := mapRevalidationStatus boundary
      revalidationOutcome := mapRevalidationOutcome boundary
      revalidationReasonCodes := reasonCodes
      priorDecisionContinuityRef := call.condition.priorDecisionStatus
      parentReceiptRef := match call.priorReceipt with
        | some prior => some prior.receiptId
        | none => call.condition.priorReceiptId
      divergenceFlag := decide (boundary ≠ .live)
      shouldRefuseBeforeEffect := decide (boundary = .halted ∨ boundary = .revoked)
      supportBasisDigest
      scopeDigest
      burdenHeadroomDigest
      boundaryOutcome := boundary.text
      isDurablePromotion := isDurable
      provisionalVsDurable := if boundary = .live then none else if isDurable then some "durable_promotable" else some "provisional"
      reopeningEligible := assessReopeningEligible boundary isDurable
      haltOccurred := decide (boundary = .halted)
      narrowingOccurred := decide (boundary = .narrowed)
      haltClassification := if boundary = .halted then classifyHalt boundary findings.headroomState isDurable else none
      divergenceDetail := computeDivergenceDetail boundary isDurable call.condition.priorDecisionStatus
      boundaryPredicates := reasonCodes.map ReasonCode.text
      priorStateRef })

def violation (text : String) : Exc := valueError ("Coherence violation: " ++ text)

def assertCoherence (snapshot : ClaimStateSnapshot) (receipt : ContinuationReceipt) : Except Exc Unit := do
  if snapshot.claimStatus = .revoked ∧ receipt.revalidationStatus ≠ .revoked then
    throw (violation ("snapshot is REVOKED but receipt status is " ++ receipt.revalidationStatus.text))
  if receipt.revalidationStatus = .revoked ∧ snapshot.claimStatus ≠ .revoked then
    throw (violation ("receipt is REVOKED but snapshot status is " ++ snapshot.claimStatus.text))
  if snapshot.claimStatus = .halted ∧ receipt.revalidationStatus ≠ .halted then
    throw (violation ("snapshot is HALTED but receipt status is " ++ receipt.revalidationStatus.text))
  if receipt.revalidationStatus = .halted ∧ receipt.isDurablePromotion = true ∧ snapshot.claimStatus ≠ .halted then
    throw (violation ("receipt claims durable HALTED promotion but snapshot status is " ++ snapshot.claimStatus.text))
  if receipt.snapshotId ≠ snapshot.snapshotId then throw (violation "receipt.snapshot_id != snapshot.snapshot_id")
  if receipt.boundaryOutcome = ClaimStatus.revoked.text ∧ snapshot.claimStatus = .live then
    throw (violation ("receipt boundary_outcome is REVOKED but snapshot claim_status is LIVE — lawful continuity loss " ++
      "must always be promoted to durable state"))
  if receipt.isDurablePromotion = true ∧ snapshot.claimStatus = .live ∧ receipt.boundaryOutcome ≠ ClaimStatus.live.text then
    throw (violation ("receipt claims durable promotion for boundary_outcome=" ++ receipt.boundaryOutcome ++
      " but snapshot claim_status is LIVE"))

def updateLineage (lineage : ContinuationClaimLineage) (snapshot : ClaimStateSnapshot) (revokedAt : String) : ContinuationClaimLineage :=
  let moved := { lineage with latestSnapshotId := some snapshot.snapshotId,currentClaimStatus := snapshot.claimStatus }
  if snapshot.claimStatus = .revoked then { moved with isRevoked := true,revokedAt := some revokedAt } else moved

def revalidate (lineage : ContinuationClaimLineage) (call : Call) :
    Except Exc ((ClaimStateSnapshot × ContinuationReceipt) × ContinuationClaimLineage) := do
  let (snapshot,receipt) ← emit revalidator lineage call
  assertCoherence snapshot receipt
  return ((snapshot,receipt),updateLineage lineage snapshot call.revokedAt)

-- The calls on one lineage: one that raises leaves it as it was.
def session : Serve ContinuationClaimLineage Call (Except Exc (ClaimStateSnapshot × ContinuationReceipt)) :=
  attempted (revalidate revalidator)

end Revalidate

variable {revalidator : ContinuationRevalidator} {lineage : ContinuationClaimLineage} {call : Call}
  {snapshot : ClaimStateSnapshot} {receipt : ContinuationReceipt}

-- How the pair of a call follows from its boundary outcome.
structure Emitted (revalidator : ContinuationRevalidator) (prior : ClaimStatus) (call : Call) (snapshot : ClaimStateSnapshot)
    (receipt : ContinuationReceipt) where
  findings : Findings
  boundary : ClaimStatus
  codes : List ReasonCode
  collected : collect revalidator call = .ok findings
  determined : determineStatus findings prior = .ok (boundary,codes)
  assessed : assessDurability boundary findings prior = (snapshot.durableConsequence,snapshot.claimStatus)
  status : receipt.revalidationStatus = mapRevalidationStatus boundary
  outcome : receipt.boundaryOutcome = boundary.text
  durable : receipt.isDurablePromotion = snapshot.durableConsequence.isSome
  refuses : receipt.shouldRefuseBeforeEffect = decide (boundary = .halted ∨ boundary = .revoked)
  reopens : receipt.reopeningEligible = assessReopeningEligible boundary snapshot.durableConsequence.isSome
  shared : receipt.snapshotId = snapshot.snapshotId

theorem emit_emitted (emitted : emit revalidator lineage call = .ok (snapshot,receipt)) :
    Nonempty (Emitted revalidator lineage.currentClaimStatus call snapshot receipt) := by
  obtain ⟨findings,collected,emitted⟩ := bind_ok.mp emitted
  obtain ⟨⟨boundary,codes⟩,determined,emitted⟩ := bind_ok.mp emitted
  obtain ⟨_,_,emitted⟩ := bind_ok.mp emitted
  obtain ⟨_,_,emitted⟩ := bind_ok.mp emitted
  obtain ⟨_,_,emitted⟩ := bind_ok.mp emitted
  cases emitted
  exact ⟨⟨findings,boundary,codes,collected,determined,rfl,rfl,rfl,rfl,rfl,rfl,rfl⟩⟩

variable {prior : ClaimStatus}

theorem Emitted.standing (given : Emitted revalidator prior call snapshot receipt) :
    (snapshot.durableConsequence = none ∧ snapshot.claimStatus = .live ∧ given.boundary ≠ .revoked ∧
        (prior = .halted → given.boundary ≠ .halted)) ∨
      (snapshot.durableConsequence.isSome = true ∧ snapshot.claimStatus = given.boundary ∧ given.boundary ≠ .live) := by
  have assessed := given.assessed
  cases boundary : given.boundary <;> rw [boundary,assessDurability] at assessed
  case halted =>
      by_cases carried : prior = .halted
      · rw [if_pos carried,Prod.mk.injEq] at assessed
        exact .inr ⟨by rw [← assessed.1]; rfl,assessed.2.symm,by simp⟩
      · rw [if_neg carried] at assessed
        split at assessed <;> rw [Prod.mk.injEq] at assessed
        · exact .inr ⟨by rw [← assessed.1]; rfl,assessed.2.symm,by simp⟩
        · exact .inl ⟨assessed.1.symm,assessed.2.symm,by simp,fun same => absurd same carried⟩
  case narrowed =>
      split at assessed <;> rw [Prod.mk.injEq] at assessed
      · exact .inr ⟨by rw [← assessed.1]; rfl,assessed.2.symm,by simp⟩
      · exact .inl ⟨assessed.1.symm,assessed.2.symm,by simp,by simp⟩
  case revoked =>
      rw [Prod.mk.injEq] at assessed
      exact .inr ⟨by rw [← assessed.1]; rfl,assessed.2.symm,by simp⟩
  all_goals
      rw [Prod.mk.injEq] at assessed
      exact .inl ⟨assessed.1.symm,assessed.2.symm,by simp,by simp⟩

theorem text_revoked {status : ClaimStatus} : status.text = ClaimStatus.revoked.text ↔ status = .revoked := by
  cases status <;> simp [ClaimStatus.text]

theorem Emitted.coherent (given : Emitted revalidator prior call snapshot receipt) : assertCoherence snapshot receipt = .ok () := by
  simp only [assertCoherence,given.status,given.outcome,given.durable,given.shared,text_revoked]
  rcases given.standing with ⟨provisional,live,kept,_⟩ | ⟨lasting,standing,changed⟩
  · rw [provisional,live]
    cases boundary : given.boundary <;> simp_all [mapRevalidationStatus] <;> rfl
  · rw [lasting,standing]
    cases boundary : given.boundary <;> simp_all [mapRevalidationStatus] <;> rfl

theorem Emitted.terminal (given : Emitted revalidator prior call snapshot receipt) (terminal : prior = .revoked ∨ prior = .halted) :
    given.boundary = prior ∧ snapshot.claimStatus = prior := by
  have determined := given.determined
  have boundary : given.boundary = prior := by
    rcases terminal with rfl | rfl
    · exact (congrArg Prod.fst (Except.ok.inj determined)).symm
    · exact (congrArg Prod.fst (Except.ok.inj determined)).symm
  refine ⟨boundary,?_⟩
  rcases given.standing with ⟨_,_,revoked,halted⟩ | ⟨_,standing,_⟩
  · rcases terminal with rfl | rfl
    · exact absurd boundary revoked
    · exact absurd boundary (halted rfl)
  · rw [standing,boundary]

theorem revalidate_emitted (returned : revalidate revalidator lineage call = .ok ((snapshot,receipt),next)) :
    Nonempty (Emitted revalidator lineage.currentClaimStatus call snapshot receipt) ∧
      next = updateLineage lineage snapshot call.revokedAt := by
  obtain ⟨⟨_,_⟩,emitted,returned⟩ := bind_ok.mp returned
  obtain ⟨_,_,returned⟩ := bind_ok.mp returned
  cases returned
  exact ⟨emit_emitted emitted,rfl⟩

@[simp] theorem updateLineage_status (time : String) : (updateLineage lineage snapshot time).currentClaimStatus = snapshot.claimStatus := by
  unfold updateLineage
  split <;> rfl

theorem session_cases (revalidator : ContinuationRevalidator) (lineage : ContinuationClaimLineage) (call : Call) :
    (∃ error, session revalidator lineage call = (.error error,lineage)) ∨
      ∃ snapshot receipt, session revalidator lineage call = (.ok (snapshot,receipt),updateLineage lineage snapshot call.revokedAt) ∧
        Nonempty (Emitted revalidator lineage.currentClaimStatus call snapshot receipt) := by
  cases stepped : revalidate revalidator lineage call with
  | error error => exact .inl ⟨error,attempted_error stepped⟩
  | ok outcome =>
    obtain ⟨⟨snapshot,receipt⟩,next⟩ := outcome
    obtain ⟨given,rfl⟩ := revalidate_emitted stepped
    exact .inr ⟨snapshot,receipt,by rw [session,attempted,stepped],given⟩

def Flagged (lineage : ContinuationClaimLineage) : Prop := lineage.isRevoked = true ↔ lineage.currentClaimStatus = .revoked

theorem session_flagged (lineage : ContinuationClaimLineage) (call : Call) (flagged : Flagged lineage) :
    Flagged (session revalidator lineage call).2 := by
  rcases session_cases revalidator lineage call with ⟨error,raised⟩ | ⟨snapshot,receipt,returned,⟨given⟩⟩
  · rw [raised]
    exact flagged
  · rw [returned,Flagged,updateLineage_status]
    by_cases revoked : snapshot.claimStatus = .revoked
    · simp [updateLineage,revoked]
    · have open_ : lineage.isRevoked = false := by
        by_contra set_
        have was := flagged.mp (by simpa using set_)
        exact revoked ((given.terminal (.inl was)).2.trans was)
      simp [updateLineage,revoked,open_]

theorem session_terminal (terminal : status = .revoked ∨ status = .halted) (lineage : ContinuationClaimLineage)
    (call : Call) (standing : lineage.currentClaimStatus = status) : (session revalidator lineage call).2.currentClaimStatus = status := by
  rcases session_cases revalidator lineage call with ⟨error,raised⟩ | ⟨snapshot,receipt,returned,⟨given⟩⟩
  · rw [raised]
    exact standing
  · rw [returned,updateLineage_status]
    exact (given.terminal (by rwa [standing])).2.trans standing

def Refusing (status : ClaimStatus) (answer : Except Exc (ClaimStateSnapshot × ContinuationReceipt)) : Prop :=
  ∀ snapshot receipt, answer = .ok (snapshot,receipt) →
    snapshot.claimStatus = status ∧ receipt.revalidationStatus = mapRevalidationStatus status ∧ receipt.boundaryOutcome = status.text ∧
      receipt.shouldRefuseBeforeEffect = true

theorem session_refusing (terminal : status = .revoked ∨ status = .halted) (lineage : ContinuationClaimLineage)
    (call : Call) (standing : lineage.currentClaimStatus = status) : Refusing status (session revalidator lineage call).1 := by
  intro snapshot receipt answered
  rcases session_cases revalidator lineage call with ⟨error,raised⟩ | ⟨snapshot',receipt',returned,⟨given⟩⟩
  · rw [raised] at answered
    cases answered
  · rw [returned] at answered
    cases answered
    obtain ⟨kept,claim⟩ := given.terminal (by rwa [standing])
    have boundary := kept.trans standing
    refine ⟨claim.trans standing,by rw [given.status,boundary],by rw [given.outcome,boundary],?_⟩
    rw [given.refuses,boundary]
    exact decide_eq_true terminal.symm

theorem standing_terminal_coherent (revalidator : ContinuationRevalidator) (claimLineageId : String) (before : List Call) :
    let lineage := after (session revalidator) (.entry claimLineageId) before
    (∀ status, status = .revoked ∨ status = .halted → lineage.currentClaimStatus = status →
        ∀ calls, ∀ answer ∈ answers (session revalidator) lineage calls, Refusing status answer) ∧
      (lineage.isRevoked = true ↔ lineage.currentClaimStatus = .revoked) ∧
      ∀ call snapshot receipt, emit revalidator lineage call = .ok (snapshot,receipt) → assertCoherence snapshot receipt = .ok () := by
  intro lineage
  refine ⟨?_,?_,?_⟩
  · intro status terminal standing calls
    exact answers_keep (session_terminal terminal) (session_refusing terminal) standing
  · exact after_keeps session_flagged (by simp [Flagged,ContinuationClaimLineage.entry])
  · intro call snapshot receipt emitted
    obtain ⟨given⟩ := emit_emitted emitted
    exact given.coherent

-- What leaves a narrowed claim narrowed, or ends it: the support is lost, the headroom has
-- collapsed for good, or the call finds a lasting restriction and nothing that comes before it.
def KeepsNarrow (findings : Findings) : Prop :=
  supportLost findings = true ∨ (floatLe findings.headroomState.remaining findings.headroomState.thresholdSuspension = true ∧
      findings.headroomState.collapseIrreversible.truthy = true) ∨
    (floatLe findings.headroomState.remaining findings.headroomState.thresholdSuspension = false ∧
      floatLe findings.headroomState.remaining findings.headroomState.thresholdEscalation = false ∧
      findings.scope.escalationRequired.truthy = false ∧
      lessThan findings.burdenState.currentLevel findings.burdenState.threshold = .ok false ∧
      findings.scope.restrictedActionClasses.truthy = true ∧ findings.scope.restrictionsDurable.truthy = true)

theorem collect_conditions (collected : collect revalidator call = .ok findings) :
    findings.revocationConditions = checkRevocationConditions findings.supportBasis := by
  obtain ⟨_,_,collected⟩ := bind_ok.mp collected
  obtain ⟨_,_,collected⟩ := bind_ok.mp collected
  cases collected
  rfl

theorem determine_open {findings : Findings} (conditions : findings.revocationConditions = checkRevocationConditions findings.supportBasis)
    (notRevoked : prior ≠ .revoked) (notHalted : prior ≠ .halted) : determineStatus findings prior =
      if supportLost findings = true then .ok (.revoked,[.supportLostApproval,.supportLostPolicyScope])
      else if floatLe findings.headroomState.remaining findings.headroomState.thresholdSuspension = true then .ok (.halted,[.headroomCollapsed])
      else if floatLe findings.headroomState.remaining findings.headroomState.thresholdEscalation = true then .ok (.escalated,[.headroomCollapsed])
      else if findings.scope.escalationRequired.truthy = true then .ok (.escalated,[.actionClassNotAllowed])
      else do
        if ← lessThan findings.burdenState.currentLevel findings.burdenState.threshold then return (.degraded,[.burdenThresholdExceeded])
        if findings.scope.restrictedActionClasses.truthy then return (.narrowed,[.actionClassNotAllowed])
        return (.live,[]) := by
  unfold determineStatus
  rw [if_neg notRevoked,if_neg notHalted,conditions,checkRevocationConditions,supportLost]
  cases authority : findings.supportBasis.authority.truthy <;> cases policy : findings.supportBasis.policy.truthy <;> simp <;> rfl

theorem Emitted.narrowed_exact (given : Emitted revalidator prior call snapshot receipt) (was : prior = .narrowed) :
    snapshot.claimStatus ≠ .live ↔ KeepsNarrow given.findings := by
  subst was
  obtain ⟨findings,boundary,codes,collected,determined,assessed,_,_,_,_,_,_⟩ := given
  have claim := congrArg Prod.snd assessed
  rw [determine_open (collect_conditions collected) (by simp) (by simp)] at determined
  dsimp only at claim ⊢
  unfold KeepsNarrow
  by_cases lost : supportLost findings = true
  · rw [if_pos lost] at determined
    cases determined
    rw [← claim]
    simp [assessDurability,lost]
  rw [if_neg lost] at determined
  by_cases collapsed : floatLe findings.headroomState.remaining findings.headroomState.thresholdSuspension = true
  · rw [if_pos collapsed] at determined
    cases determined
    rw [← claim]
    by_cases final : findings.headroomState.collapseIrreversible.truthy = true <;> simp [assessDurability,lost,collapsed,final]
  rw [if_neg collapsed] at determined
  by_cases scarce : floatLe findings.headroomState.remaining findings.headroomState.thresholdEscalation = true
  · rw [if_pos scarce] at determined
    cases determined
    rw [← claim]
    simp [assessDurability,lost,collapsed,scarce]
  rw [if_neg scarce] at determined
  by_cases escalates : findings.scope.escalationRequired.truthy = true
  · rw [if_pos escalates] at determined
    cases determined
    rw [← claim]
    simp [assessDurability,lost,collapsed,escalates]
  rw [if_neg escalates] at determined
  obtain ⟨below,compared,determined⟩ := bind_ok.mp determined
  cases below with
  | true =>
    cases determined
    rw [← claim]
    simp [assessDurability,lost,collapsed,compared]
  | false =>
    by_cases restricted : findings.scope.restrictedActionClasses.truthy = true
    · simp only [restricted] at determined
      cases determined
      rw [← claim]
      by_cases lasting : findings.scope.restrictionsDurable.truthy = true <;>
        simp [assessDurability,lost,collapsed,scarce,escalates,compared,restricted,lasting]
    · simp only [restricted] at determined
      cases determined
      rw [← claim]
      simp [assessDurability,lost,collapsed,restricted]

def NarrowsDurably (answer : Except Exc (ClaimStateSnapshot × ContinuationReceipt)) : Prop :=
  ∃ snapshot receipt consequence, answer = .ok (snapshot,receipt) ∧ snapshot.claimStatus = .narrowed ∧
    snapshot.durableConsequence = some consequence ∧ consequence.hasDurableScopeReduction = true ∧ receipt.reopeningEligible = false

def Reopens (answer : Except Exc (ClaimStateSnapshot × ContinuationReceipt)) : Prop :=
  ∃ snapshot receipt, answer = .ok (snapshot,receipt) ∧ snapshot.claimStatus = .live

def NeverReopens (revalidator : ContinuationRevalidator) (lineage : ContinuationClaimLineage) (calls : List Call) : Prop :=
  ∀ before call later, calls = before ++ call :: later →
    NarrowsDurably (session revalidator (after (session revalidator) lineage before) call).1 →
      ∀ answer ∈ answers (session revalidator) (after (session revalidator) lineage (before ++ [call])) later, ¬ Reopens answer

-- Every call that meets a narrowed claim and returns keeps it narrowed, or ends it.
def KeptNarrow (revalidator : ContinuationRevalidator) (lineage : ContinuationClaimLineage) (calls : List Call) : Prop :=
  ∀ before call later, calls = before ++ call :: later → (after (session revalidator) lineage before).currentClaimStatus = .narrowed →
      (session revalidator (after (session revalidator) lineage before) call).1.isOk = true →
        ∃ findings, collect revalidator call = .ok findings ∧ KeepsNarrow findings

theorem Emitted.narrowed_durable (given : Emitted revalidator prior call snapshot receipt) (narrowed : snapshot.claimStatus = .narrowed) :
    NarrowsDurably (.ok (snapshot,receipt)) := by
  rcases given.standing with ⟨_,live,_⟩ | ⟨_,standing,_⟩
  · rw [narrowed] at live
    cases live
  · have boundary : given.boundary = .narrowed := standing.symm.trans narrowed
    have assessed := given.assessed
    have reopens := given.reopens
    rw [boundary,assessDurability] at assessed
    split at assessed <;> rw [Prod.mk.injEq] at assessed
    · refine ⟨snapshot,receipt,_,rfl,narrowed,assessed.1.symm,rfl,?_⟩
      rw [reopens,boundary,← assessed.1]
      rfl
    · rw [← assessed.2] at narrowed
      cases narrowed

def Closed (status : ClaimStatus) : Prop := status = .narrowed ∨ status = .revoked ∨ status = .halted

theorem Emitted.closes (given : Emitted revalidator prior call snapshot receipt) (changed : snapshot.claimStatus ≠ .live) :
    Closed snapshot.claimStatus := by
  rcases given.standing with ⟨_,live,_⟩ | ⟨_,standing,_⟩
  · exact absurd live changed
  · have assessed := given.assessed
    rw [standing]
    cases boundary : given.boundary <;> rw [boundary] at assessed
    case narrowed => exact .inl rfl
    case revoked => exact .inr (.inl rfl)
    case halted => exact .inr (.inr rfl)
    all_goals exact absurd (congrArg Prod.snd assessed).symm changed

theorem session_closed (closed : Closed lineage.currentClaimStatus)
    (keeps : lineage.currentClaimStatus = .narrowed → (session revalidator lineage call).1.isOk = true →
      ∃ findings, collect revalidator call = .ok findings ∧ KeepsNarrow findings) :
    Closed (session revalidator lineage call).2.currentClaimStatus ∧ ¬ Reopens (session revalidator lineage call).1 := by
  rcases session_cases revalidator lineage call with ⟨error,raised⟩ | ⟨snapshot,receipt,returned,⟨given⟩⟩
  · rw [raised]
    exact ⟨closed,fun ⟨_,_,same,_⟩ => by cases same⟩
  · have kept : snapshot.claimStatus ≠ .live := by
      rcases closed with narrowed | terminal
      · obtain ⟨findings,collected,kept⟩ := keeps narrowed (by rw [returned]; rfl)
        cases given.collected.symm.trans collected
        exact (given.narrowed_exact narrowed).mpr kept
      · rw [(given.terminal terminal).2]
        rcases terminal with was | was <;> simp [was]
    rw [returned,updateLineage_status]
    refine ⟨given.closes kept,?_⟩
    intro reopens
    obtain ⟨_,_,same,live⟩ := reopens
    cases same
    exact kept live

theorem closed_run {start : ContinuationClaimLineage} {before later : List Call} (kept : KeptNarrow revalidator start (before ++ later))
    (closed : Closed (after (session revalidator) start before).currentClaimStatus) :
    ∀ answer ∈ answers (session revalidator) (after (session revalidator) start before) later, ¬ Reopens answer := by
  induction later generalizing before with
  | nil => exact fun _ given => absurd given (List.not_mem_nil)
  | cons call later ih =>
    obtain ⟨next,shut⟩ := session_closed closed (kept before call later rfl)
    rw [← after_concat] at next
    rw [answers,List.forall_mem_cons]
    refine ⟨shut,?_⟩
    rw [← after_concat]
    exact ih (by simpa using kept) next

-- A claim is narrowed by a durable narrowing earlier in the run.
theorem narrowed_before (calls : List Call)
    (narrowed : (after (session revalidator) (.entry claimLineageId) calls).currentClaimStatus = .narrowed) :
    ∃ before call later, calls = before ++ call :: later ∧
      NarrowsDurably (session revalidator (after (session revalidator) (.entry claimLineageId) before) call).1 := by
  induction calls using List.reverseRecOn with
  | nil => cases narrowed
  | append_singleton earlier call ih =>
    rw [after_concat] at narrowed
    rcases session_cases revalidator (after (session revalidator) (.entry claimLineageId) earlier) call with
      ⟨error,raised⟩ | ⟨snapshot,receipt,returned,⟨given⟩⟩
    · rw [raised] at narrowed
      obtain ⟨before,first,later,rfl,durable⟩ := ih narrowed
      exact ⟨before,first,later ++ [call],by simp,durable⟩
    · rw [returned,updateLineage_status] at narrowed
      exact ⟨earlier,call,[],rfl,by rw [returned]; exact given.narrowed_durable narrowed⟩

theorem narrowing_closed_exact (revalidator : ContinuationRevalidator) (claimLineageId : String) (calls : List Call) :
    NeverReopens revalidator (.entry claimLineageId) calls ↔ KeptNarrow revalidator (.entry claimLineageId) calls := by
  constructor
  · intro never before call later split narrowed returns
    obtain ⟨earlier,first,between,rfl,durable⟩ := narrowed_before before narrowed
    rcases session_cases revalidator (after (session revalidator) (.entry claimLineageId) (earlier ++ first :: between)) call with
      ⟨error,raised⟩ | ⟨snapshot,receipt,returned,⟨given⟩⟩
    · rw [raised] at returns
      cases returns
    · refine ⟨given.findings,given.collected,(given.narrowed_exact narrowed).mp fun live => ?_⟩
      have shut := never earlier first (between ++ call :: later) (by simpa using split) durable
      refine shut _ (mem_answers.mpr ⟨between,call,later,rfl,rfl⟩) ?_
      rw [← after_append]
      simp only [List.append_assoc,List.singleton_append,returned]
      exact ⟨snapshot,receipt,rfl,live⟩
  · intro kept before call later split durable
    obtain ⟨snapshot,receipt,_,answered,narrowed,_⟩ := durable
    refine closed_run (by simpa [← split] using kept) (.inl ?_)
    rw [after_concat]
    rcases session_cases revalidator (after (session revalidator) (.entry claimLineageId) before) call with
      ⟨error,raised⟩ | ⟨_,_,returned,_⟩
    · rw [raised] at answered
      cases answered
    · rw [returned] at answered ⊢
      cases answered
      rw [updateLineage_status,narrowed]

def sampleRevalidator : ContinuationRevalidator where
  lawVersionId := "v0.1.0-shadow"
  quotient := fun _ _ => one
  digest := fun _ => ""

def callWith (context : Dict) : Call where
  condition := ⟨"chain",context,none,none⟩
  priorSnapshot := none
  priorReceipt := none
  snapshotId := "s"
  receiptId := "r"
  timestamp := "t"
  receiptTimestamp := "t"
  revokedAt := "t"

def restrictingCall : Call := callWith [(.str "restricted_actions",.list [.str "write"]),(.str "restrictions_durable",.bool true)]

theorem narrowed_claim_reopens : ¬ NeverReopens sampleRevalidator (.entry "claim") [restrictingCall,callWith []] := by
  intro never
  refine never [] restrictingCall [callWith []] rfl ⟨_,_,_,rfl,rfl,rfl,rfl,rfl⟩ _ (List.mem_singleton_self _) ?_
  exact ⟨_,_,rfl,rfl⟩

end VeritasOs.Continuation
