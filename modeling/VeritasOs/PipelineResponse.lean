import VeritasOs.DecisionSemantics
import VeritasOs.PipelinePolicy

namespace VeritasOs.PipelineResponse
open Text JsonText BindArtifacts DecisionSemantics
open PipelinePolicy (PipelineContext World uniquePreserveOrder normalizeRequiredEvidenceKeys firstTruthy floatAtLeast)
open WatVerifier (zero)

def interpretationSpaceNarrowingValues : List String := ["open","narrowing","constrained","closed"]
def counterfactualAvailabilityValues : List String := ["high","medium","low","none"]
def interventionHeadroomValues : List String := ["high","medium","low","none"]
def structuralOpennessValues : List String := ["open","partially_open","fragile","closed"]

def canonicalizeLevel (value : Value) (allowed : List String) (fallback : String) : String :=
  let normalized := lower (strip (value.orStr ""))
  if allowed.contains normalized then normalized else fallback

structure ParticipationSignal where
  interpretationSpaceNarrowing : String
  counterfactualAvailability : String
  interventionHeadroom : String
  structuralOpenness : String

def normalizeParticipationSignalPayload (payload : Dict) : ParticipationSignal where
  interpretationSpaceNarrowing :=
    canonicalizeLevel (payload.get "interpretation_space_narrowing") interpretationSpaceNarrowingValues "open"
  counterfactualAvailability :=
    canonicalizeLevel (payload.get "counterfactual_availability") counterfactualAvailabilityValues "medium"
  interventionHeadroom := canonicalizeLevel (payload.get "intervention_headroom") interventionHeadroomValues "medium"
  structuralOpenness := canonicalizeLevel (payload.get "structural_openness") structuralOpennessValues "open"

-- The words of each signal are listed from the mildest: a word's place is its severity.
def signalSeverity (payload : Dict) (name level : String) (levels : List String) : Nat :=
  if payload.has name then levels.idxOf level else 0

def signalSeverities (payload : Dict) : List (String × Nat) :=
  let normalized := normalizeParticipationSignalPayload payload
  [("interpretation_space_narrowing",
      signalSeverity payload "interpretation_space_narrowing" normalized.interpretationSpaceNarrowing interpretationSpaceNarrowingValues),
   ("counterfactual_availability",
      signalSeverity payload "counterfactual_availability" normalized.counterfactualAvailability counterfactualAvailabilityValues),
   ("intervention_headroom",signalSeverity payload "intervention_headroom" normalized.interventionHeadroom interventionHeadroomValues),
   ("structural_openness",signalSeverity payload "structural_openness" normalized.structuralOpenness structuralOpennessValues)]

-- The average of four is 2.25 from a sum of 9, and 1.0 from a sum of 4.
def classifyState (values : List Nat) : String :=
  let highCount := (values.filter (2 ≤ ·)).length
  let moderateCount := (values.filter (1 ≤ ·)).length
  if 9 ≤ values.sum ∧ 2 ≤ highCount ∧ 3 ≤ values.foldl max 0 then "decision_shaping"
  else if 4 ≤ values.sum ∨ 1 ≤ highCount ∨ 2 ≤ moderateCount then "participatory"
  else "informative"

def participationState (payload : Dict) : String := classifyState ((signalSeverities payload).map Prod.snd)

def deriveOpennessFloorStatus (structuralOpenness : String) : String :=
  if structuralOpenness = "closed" then "breached" else if structuralOpenness = "fragile" then "at_risk" else "met"

def meaningfulInterventionPossible (signal : ParticipationSignal) : Bool :=
  if deriveOpennessFloorStatus signal.structuralOpenness = "breached" ∧ signal.counterfactualAvailability = "none" then false
  else signal.interventionHeadroom != "none"

def deriveCounterfactualRecoveryPossible (signal : ParticipationSignal) : Bool :=
  if signal.counterfactualAvailability = "none" then false
  else !(signal.counterfactualAvailability == "low" && ["constrained","closed"].contains signal.interpretationSpaceNarrowing)

def classifyPreservationState (signal : ParticipationSignal) (detectionState : String) : String :=
  let floor := deriveOpennessFloorStatus signal.structuralOpenness
  if meaningfulInterventionPossible signal = false ∨ floor = "breached" ∨
      (signal.interventionHeadroom = "none" ∧ ["low","none"].contains signal.counterfactualAvailability) ∨
      (detectionState = "decision_shaping" ∧ ["low","none"].contains signal.interventionHeadroom ∧
        deriveCounterfactualRecoveryPossible signal = false) then "collapsed"
  else if floor = "at_risk" ∨ signal.interventionHeadroom = "low" ∨ signal.counterfactualAvailability = "low" ∨
      ["narrowing","constrained"].contains signal.interpretationSpaceNarrowing ∨ detectionState = "decision_shaping" then "degrading"
  else "open"

def preservationState (payload : Dict) : String :=
  classifyPreservationState (normalizeParticipationSignalPayload payload) (participationState payload)

structure LineagePromotability where
  promotabilityStatus : String
  reasonCode : Option String
  sourceParticipationState : Option String
  sourcePreservationState : Option String

def evaluateLineagePromotability (participation preservation : Option String) : LineagePromotability :=
  if participation = some "decision_shaping" ∧ preservation = some "collapsed" then
    ⟨"non_promotable",some "NON_PROMOTABLE_LINEAGE",some "decision_shaping",some "collapsed"⟩
  else ⟨"promotable",none,none,none⟩

def evaluateGovernanceLayers : Value → LineagePromotability
  | .dict signal => evaluateLineagePromotability (some (participationState signal)) (some (preservationState signal))
  | _ => evaluateLineagePromotability none none

structure TransitionEvaluation where
  transitionStatus : String
  reasonCode : Option String
  sourcePromotabilityStatus : String

def evaluateExecutionIntentTransition (lineage : LineagePromotability) : TransitionEvaluation :=
  if strip lineage.promotabilityStatus = "non_promotable" then ⟨"structurally_refused",some "NON_PROMOTABLE_LINEAGE","non_promotable"⟩
  else ⟨"allowed",none,strip lineage.promotabilityStatus⟩

def canonicalGateDecisions : List String := ["proceed","hold","block","human_review_required"]

def gateDecisionAliasToCanonical : List (String × String) :=
  [("allow","proceed"),("deny","block"),("rejected","block"),("modify","hold"),("abstain","hold"),("allow_with_warning","hold"),
   ("needs_human_review","human_review_required"),("unknown","unknown"),("proceed","proceed"),("hold","hold"),("block","block"),
   ("human_review_required","human_review_required")]

def canonicalizeGateDecision (value : Value) : String :=
  let stripped := lower (strip (value.orStr "unknown"))
  let normalized := if stripped = "" then "unknown" else stripped
  ((gateDecisionAliasToCanonical.find? fun entry => entry.1 == normalized).map Prod.snd).getD normalized

def canonicalizePublicGateDecision (value : Value) : String :=
  if canonicalGateDecisions.contains (canonicalizeGateDecision value) then canonicalizeGateDecision value else "unknown"

def forbiddenGateBusinessCombinations : List (String × String) := [("block","APPROVE"),("hold","APPROVE"),("proceed","DENY")]

def validateGateBusinessCombination (gateDecision businessDecision : String) (humanReviewRequired : Bool) : Except Exc Unit :=
  let gateDecision := canonicalizePublicGateDecision (.str gateDecision)
  if forbiddenGateBusinessCombinations.contains (gateDecision,businessDecision) then
    .error (valueError ("forbidden gate/business combination: gate_decision=" ++ gateDecision ++ ", business_decision=" ++ businessDecision))
  else if gateDecision = "human_review_required" ∧ humanReviewRequired = false then
    .error (valueError "forbidden combination: gate_decision=human_review_required requires human_review_required=true")
  else if gateDecision = "proceed" ∧ humanReviewRequired = true then
    .error (valueError "forbidden combination: gate_decision=proceed requires human_review_required=false")
  else if businessDecision = "REVIEW_REQUIRED" ∧ humanReviewRequired = false then
    .error (valueError "forbidden combination: business_decision=REVIEW_REQUIRED requires human_review_required=true")
  else if businessDecision = "REVIEW_REQUIRED" ∧ gateDecision ≠ "human_review_required" then
    .error (valueError "forbidden combination: business_decision=REVIEW_REQUIRED requires gate_decision=human_review_required")
  else if gateDecision = "human_review_required" ∧ businessDecision ≠ "REVIEW_REQUIRED" then
    .error (valueError "forbidden combination: gate_decision=human_review_required requires business_decision=REVIEW_REQUIRED")
  else if businessDecision = "APPROVE" ∧ humanReviewRequired = true then
    .error (valueError "forbidden combination: business_decision=APPROVE requires human_review_required=false")
  else .ok ()

structure GateInputs where
  stopReasons : List String
  rawGateDecision : String
  decisionStatus : String
  riskScore : FloatValue
  humanReviewRequired : Bool

theorem float_eight_tenths : isFloatText "0.8".toList = true := by decide

def pointEight : FloatValue := .finite ⟨"0.8",float_eight_tenths⟩

def deriveGateDecisionFromStopReasons (inputs : GateInputs) : String × Bool :=
  let reasons := inputs.stopReasons
  let normalizedRawGate := resolveDecisionPrecedence [.str inputs.rawGateDecision] .gate
  let normalizedDecisionStatus := resolveDecisionPrecedence [.str inputs.decisionStatus] .gate
  if "rollback_not_supported" ∈ reasons then ("block",inputs.humanReviewRequired)
  else if "irreversible_action" ∈ reasons ∧ "audit_trail_incomplete" ∈ reasons then ("block",inputs.humanReviewRequired)
  else if "secure_prod_controls_missing" ∈ reasons then ("block",inputs.humanReviewRequired)
  else if normalizedRawGate = "block" ∨ normalizedDecisionStatus = "block" then ("block",inputs.humanReviewRequired)
  else if "required_evidence_missing" ∈ reasons then ("hold",inputs.humanReviewRequired)
  else if "sanctions_partial_match" ∈ reasons then ("hold",inputs.humanReviewRequired)
  else if "high_risk_ambiguity" ∈ reasons ∧ floatAtLeast inputs.riskScore pointEight then ("human_review_required",true)
  else if "approval_boundary_unknown" ∈ reasons ∨ inputs.humanReviewRequired then ("human_review_required",true)
  else if "rule_undefined" ∈ reasons ∨ "audit_trail_incomplete" ∈ reasons ∨ "secure_controls_missing" ∈ reasons ∨
      normalizedRawGate = "hold" ∨ normalizedDecisionStatus = "hold" then ("hold",inputs.humanReviewRequired)
  else ("proceed",inputs.humanReviewRequired)

structure ResponseContext extends PipelineContext where
  valuesPayload : Dict
  raw : Value

structure EvidenceProfile where
  required : List String
  escalationSensitive : List String

structure ResponseWorld extends World where
  -- The keys and the profiles of the evidence taxonomy.
  categorized : String → Bool
  profiles : String → Option EvidenceProfile
  nextAction : (gateDecision businessDecision : String) → (stopReasons missingEvidence : List String) → (humanReviewRequired : Bool) →
    (context : Dict) → (valueTotal : FloatValue) → String

-- Upper case is exact where it is ASCII as a whole; any other text is compared with none.
def upperChar (c : Char) : List Char :=
  match c.toNat with
  | 0xdf => ['S','S']
  | 0x131 => ['I']
  | 0x17f => ['S']
  | 0xfb00 => ['F','F']
  | 0xfb01 => ['F','I']
  | 0xfb02 => ['F','L']
  | 0xfb03 => ['F','F','I']
  | 0xfb04 => ['F','F','L']
  | 0xfb05 => ['S','T']
  | 0xfb06 => ['S','T']
  | _ => [c.toUpper]

def upper (s : String) : String := String.ofList (s.toList.flatMap upperChar)

def asStringList : Value → List String
  | .list items => (items.filter fun item => strip item.text != "").map fun item => lower (strip item.text)
  | _ => []

def isFalseyFlag : Value → Bool
  | .bool flag => !flag
  | .str s => ["0","false","no","off","missing","unknown","undefined"].contains (lower (strip s))
  | _ => false

def allowedContextStopReasons : List String :=
  ["rollback_not_supported","irreversible_action","audit_trail_incomplete","secure_prod_controls_missing","required_evidence_missing",
   "high_risk_ambiguity","approval_boundary_unknown","rule_undefined","secure_controls_missing","sanctions_partial_match",
   "unknown_required_evidence_key","required_evidence_profile_miss","escalation_sensitive_evidence_missing"]

def maxContextStopReasonLength : Nat := 80

def isAllowedContextStopReason (value : String) : Bool :=
  let token := lower (strip value)
  if token = "" ∨ maxContextStopReasonLength < token.length then false else allowedContextStopReasons.contains token

-- float(value or 0.0), and 0.0 for what is no number.
def riskOf (world : World) (value : Value) : Except Exc FloatValue :=
  match world.python.float (if value.truthy then value else .float zero) with
  | .ok risk => .ok risk
  | .error error => if error.kind = .typeError ∨ error.kind = .valueError then .ok zero else .error error

def noted (present : Bool) (reason : String) : List String := if present then [reason] else []

def extractStopReasons (world : World) (gateReason : String) (missingEvidence : List String) (context : Dict) : Except Exc (List String) := do
  let envName := lower (firstTruthy [context.get "environment",.str ((world.setting.env "VERITAS_ENV").getD "")]).text
  let secureOrProd := ["secure","prod","production"].contains envName
  let contextRiskScore ← riskOf world (context.getD "risk_score" (.float zero))
  .ok (noted (!missingEvidence.isEmpty) "required_evidence_missing" ++
    noted (hasSub "policy_definition_required" (lower gateReason) || isFalseyFlag (context.get "rule_defined")) "rule_undefined" ++
    noted (isFalseyFlag (context.get "approval_boundary_defined")) "approval_boundary_unknown" ++
    noted (isFalseyFlag (context.get "audit_trail_complete")) "audit_trail_incomplete" ++
    noted (isFalseyFlag (context.get "rollback_supported")) "rollback_not_supported" ++
    noted (context.get "irreversible_action").truthy "irreversible_action" ++
    noted (isFalseyFlag (context.get "secure_controls_ready")) "secure_controls_missing" ++
    noted (secureOrProd && isFalseyFlag (context.get "production_controls_ready")) "secure_prod_controls_missing" ++
    noted ((context.get "high_risk_ambiguity").truthy ||
      ((context.get "ambiguity_detected").truthy && floatAtLeast contextRiskScore pointEight)) "high_risk_ambiguity" ++
    noted (context.get "sanctions_partial_match").truthy "sanctions_partial_match" ++
    (asStringList (context.get "stop_reasons")).filter isAllowedContextStopReason)

def isSuppliedDecisionValue : Value → Bool
  | .none => false
  | .str s => !(["","none","null"].contains (lower (strip s)))
  | _ => true

def businessDecisionRequiresReview (value : Value) : Bool :=
  isSuppliedDecisionValue value && ["REVIEW","REVIEW_REQUIRED","ESCALATE"].contains (upper (strip value.text))

def decisionValueRequiresReview (value : Value) : Bool :=
  isSuppliedDecisionValue value &&
    ["human_review_required","needs_human_review","review_required","review","escalate"].contains (lower (strip value.text))

structure EvidenceAssessment where
  mode : String
  requiredEvidence : List String
  satisfiedEvidence : List String
  missingEvidence : List String
  unknownKeys : List String
  profileMissingKeys : List String
  escalationSensitiveMissing : List String

def resolveRequiredEvidenceMode (world : World) (context : Dict) (decisionDomain : String) : String :=
  let requested := context.get "required_evidence_mode"
  let rawMode := if requested.truthy then requested.text else (world.setting.env "VERITAS_REQUIRED_EVIDENCE_MODE").getD "warn"
  if lower (strip rawMode) = "strict" ∧ decisionDomain = "aml_kyc" then "strict" else "warn"

def amlKycProfileEnforcementKeys : List String :=
  ["kyc_profile","sanctions_screening_trace","pep_screening_result","source_of_funds_record"]

def shouldEnforceAmlKycProfile (decisionDomain : String) (profileRequiredKeys requiredEvidence : List String) (templateId mode : String) : Bool :=
  if decisionDomain ≠ "aml_kyc" then false
  else if profileRequiredKeys = [] then false
  else if mode = "strict" then true
  else if templateId = "aml_kyc_high_risk_country_wire_manual_review" then true
  else amlKycProfileEnforcementKeys.any requiredEvidence.contains

def unknownEvidenceKeys (world : ResponseWorld) (values : List String) : List String :=
  uniquePreserveOrder ((normalizeRequiredEvidenceKeys world.toWorld values).filter fun key => !world.categorized key)

def assessEvidence (world : ResponseWorld) (context : Dict) : EvidenceAssessment :=
  let decisionDomain := lower (strip (firstTruthy [context.get "decision_domain",context.get "category"]).text)
  let templateId := strip ((context.get "template_id").orStr "")
  let requiredInput := uniquePreserveOrder (asStringList (context.get "required_evidence"))
  let satisfiedInput := uniquePreserveOrder (asStringList (context.get "satisfied_evidence"))
  let normalized := fun keys => uniquePreserveOrder (normalizeRequiredEvidenceKeys world.toWorld keys)
  let profile := (world.profiles decisionDomain).getD ⟨[],[]⟩
  let profileRequired := normalized profile.required
  let mode := resolveRequiredEvidenceMode world.toWorld context decisionDomain
  let enforce := shouldEnforceAmlKycProfile decisionDomain profileRequired (normalized requiredInput) templateId mode
  let required := if enforce then uniquePreserveOrder (normalized requiredInput ++ profileRequired) else normalized requiredInput
  let satisfied := normalized satisfiedInput
  let profileMissing := if enforce then profileRequired.filter fun key => !(normalized requiredInput).contains key else []
  let missing := required.filter fun key => !satisfied.contains key
  let unknown := uniquePreserveOrder (unknownEvidenceKeys world requiredInput ++ unknownEvidenceKeys world satisfiedInput)
  let escalation := (normalized profile.escalationSensitive).filter fun key => !satisfied.contains key
  ⟨mode,required,satisfied,missing,unknown,profileMissing,escalation⟩

def rawGateDecision (ctx : ResponseContext) : Value :=
  firstTruthy [ctx.fujiDict.get "decision_status",ctx.fujiDict.get "status",.str ctx.decisionStatus,.str "unknown"]

def gateReason (ctx : ResponseContext) : String :=
  strip (firstTruthy [.str (ctx.rejectionReason.getD ""),ctx.fujiDict.get "rejection_reason"]).text

def explicitBusinessDecision (ctx : ResponseContext) : Value := ctx.context.get "business_decision"

def reviewRequested (ctx : ResponseContext) : Bool :=
  (ctx.context.get "human_review_required").truthy ||
    [.str (lower (rawGateDecision ctx).text),ctx.fujiDict.get "status",ctx.fujiDict.get "decision_status",
      .str ctx.decisionStatus].any decisionValueRequiresReview

def gateInputs (world : ResponseWorld) (ctx : ResponseContext) : Except Exc GateInputs := do
  let evidence := assessEvidence world ctx.context
  let strict := evidence.mode == "strict"
  let riskScore ← riskOf world.toWorld (ctx.context.getD "risk_score" (ctx.fujiDict.getD "risk" (.float zero)))
  let extracted ← extractStopReasons world.toWorld (gateReason ctx) evidence.missingEvidence ctx.context
  let unknown := !evidence.unknownKeys.isEmpty && strict
  let profileMiss := !evidence.profileMissingKeys.isEmpty && strict
  let escalation := !evidence.escalationSensitiveMissing.isEmpty
  .ok ⟨extracted ++ noted unknown "unknown_required_evidence_key" ++ noted profileMiss "required_evidence_profile_miss" ++
      noted escalation "escalation_sensitive_evidence_missing",
    lower (rawGateDecision ctx).text,lower ctx.decisionStatus,riskScore,reviewRequested ctx || unknown || profileMiss || escalation⟩

structure PublicDecision where
  gateDecision : String
  businessDecision : String
  humanReviewRequired : Bool
deriving DecidableEq

def finalGate (explicit : Value) (derived : String × Bool) : String × Bool :=
  let decisionValues := .str derived.1 :: (if isSuppliedDecisionValue explicit then [explicit] else [])
  let resolved := canonicalizePublicGateDecision (.str (resolveDecisionPrecedence decisionValues .gate))
  if resolved = "block" then ("block",derived.2)
  else if resolved = "hold" then
    if businessDecisionRequiresReview explicit then ("human_review_required",true)
    else (if derived.1 = "human_review_required" then "human_review_required" else "hold",derived.2)
  else if derived.2 ∨ derived.1 = "human_review_required" then ("human_review_required",derived.2)
  else (resolved,derived.2)

def businessDecision (explicit : Value) (gate reason : String) (missingEvidence : List String) : String :=
  let requiresReview := businessDecisionRequiresReview explicit
  if gate = "block" ∧ requiresReview then "DENY"
  else if gate = "block" ∧ missingEvidence ≠ [] then "EVIDENCE_REQUIRED"
  else if gate = "block" then "DENY"
  else if requiresReview then "REVIEW_REQUIRED"
  else if missingEvidence ≠ [] then "EVIDENCE_REQUIRED"
  else if gate = "human_review_required" then "REVIEW_REQUIRED"
  else if gate = "hold" then "HOLD"
  else if hasSub "policy_definition_required" (lower reason) then "POLICY_DEFINITION_REQUIRED"
  else "APPROVE"

def decide_ (ctx : ResponseContext) (inputs : GateInputs) (missingEvidence : List String) : PublicDecision :=
  let explicit := explicitBusinessDecision ctx
  let gate := finalGate explicit (deriveGateDecisionFromStopReasons inputs)
  ⟨gate.1,businessDecision explicit gate.1 (gateReason ctx) missingEvidence,gate.2⟩

structure Actionability where
  actionabilityStatus : String
  requiresBindBeforeExecution : Bool
  boundExecutionIntentId : Option String
  bindReceiptId : Option String
  executionIntentId : Option String

def filledText (value : Value) : Option String :=
  let text := strip (value.orStr "")
  if text = "" then none else some text

def deriveActionabilityFields (decision : PublicDecision) (nextAction : String) (payload : Dict) : Actionability :=
  let bindReceiptId := filledText (payload.get "bind_receipt_id")
  let executionIntentId := filledText (payload.get "execution_intent_id")
  let committed := upper (strip ((payload.get "bind_outcome").orStr "")) = "COMMITTED"
  let hasBoundLineage := decide committed && bindReceiptId.isSome && executionIntentId.isSome
  let impliesExecution := ["EXECUTE_WITH_STANDARD_MONITORING","RUN_TARGETED_VALIDATION_CHECKS"].contains nextAction
  let state :=
    if decision.gateDecision = "block" ∨ decision.businessDecision = "DENY" then ("blocked",false)
    else if decision.humanReviewRequired ∨ decision.gateDecision = "human_review_required" then ("human_review_required",true)
    else if hasBoundLineage then ("actionable_after_bind",false)
    else if impliesExecution ∨ decision.businessDecision = "APPROVE" then ("bind_required_before_execution",true)
    else ("reviewable_only",true)
  ⟨state.1,state.2,if hasBoundLineage then executionIntentId else none,bindReceiptId,executionIntentId⟩

structure BusinessFields where
  decision : PublicDecision
  nextAction : String
  evidence : EvidenceAssessment
  actionability : Actionability

def deriveBusinessFields (world : ResponseWorld) (ctx : ResponseContext) : Except Exc BusinessFields := do
  let evidence := assessEvidence world ctx.context
  let inputs ← gateInputs world ctx
  let decision := decide_ ctx inputs evidence.missingEvidence
  validateGateBusinessCombination decision.gateDecision decision.businessDecision decision.humanReviewRequired
  let total := ctx.valuesPayload.getD "total" (.float zero)
  let valueTotal ← world.python.float (if total.truthy then total else .float zero)
  let nextAction := world.nextAction decision.gateDecision decision.businessDecision inputs.stopReasons evidence.missingEvidence
    decision.humanReviewRequired ctx.context valueTotal
  .ok ⟨decision,nextAction,evidence,deriveActionabilityFields decision nextAction (ctx.raw.asDict?.getD [])⟩

structure CoreLayer extends BusinessFields where
  lineagePromotability : LineagePromotability
  transitionRefusal : Option TransitionEvaluation

def applyStructuralTransitionRefusalActionability (core : CoreLayer) : CoreLayer :=
  { core with
    actionability := ⟨"formation_transition_refused",false,none,none,none⟩
    decision := ⟨core.decision.gateDecision,"HOLD",true⟩
    nextAction := "RECONSTRUCT_FROM_ELIGIBLE_FORMATION_LINEAGE" }

def buildResponseLayers (world : ResponseWorld) (ctx : ResponseContext) : Except Exc CoreLayer := do
  let lineage := evaluateGovernanceLayers (ctx.responseExtras.get "participation_signal")
  let fields ← deriveBusinessFields world ctx
  let transition := evaluateExecutionIntentTransition lineage
  if transition.transitionStatus = "structurally_refused" then
    .ok (applyStructuralTransitionRefusalActionability ⟨fields,lineage,some transition⟩)
  else .ok ⟨fields,lineage,none⟩

variable {c d : Char} {rest : List Char} {ctx : ResponseContext} {world : ResponseWorld} {inputs : GateInputs} {business : String}

theorem lowerChar_space (space : isSpace c = true) : lowerChar c = [c] := by
  have outside : ¬(c.val ≥ 'A'.val ∧ c.val ≤ 'Z'.val) := by
    intro upper
    have bounds : 65 ≤ c.toNat ∧ c.toNat ≤ 90 := by
      simp only [ge_iff_le,UInt32.le_iff_toNat_le] at upper
      exact upper
    simp only [isSpace,Bool.or_eq_true,Bool.and_eq_true,decide_eq_true_eq,beq_iff_eq] at space
    omega
  have dotless : c.toNat ≠ 0x130 := by
    intro same
    simp [isSpace,same] at space
  have kelvin : c.toNat ≠ 0x212a := by
    intro same
    simp [isSpace,same] at space
  rw [lowerChar,if_neg dotless,if_neg kelvin,toLower_eq outside]

theorem toLower_space (solid : isSpace c = false) : isSpace c.toLower = false := by
  by_cases upper : c.isUpper = true
  · have bounds : 65 ≤ c.toNat ∧ c.toNat ≤ 90 := by
      simp only [isUpper_eq,decide_eq_true_eq,ge_iff_le,UInt32.le_iff_toNat_le] at upper
      exact upper
    have check : ∀ n, n ≤ 90 → 65 ≤ n → isSpace (Char.ofNat n).toLower = false := by decide
    have found := check c.toNat bounds.2 bounds.1
    rwa [Char.ofNat_toNat] at found
  · have outside : ¬(c.val ≥ 'A'.val ∧ c.val ≤ 'Z'.val) := by simpa [isUpper_eq] using upper
    rw [toLower_eq outside]
    exact solid

theorem lowerChar_solid (solid : isSpace c = false) : ∀ d ∈ lowerChar c, isSpace d = false := by
  intro d present
  unfold lowerChar at present
  split at present
  · simp only [List.mem_cons,List.not_mem_nil,or_false] at present
    rcases present with rfl | rfl <;> decide
  · split at present
    · obtain rfl := List.mem_singleton.mp present
      decide
    · obtain rfl := List.mem_singleton.mp present
      exact toLower_space solid

theorem lowerChar_lowered (present : d ∈ lowerChar c) : lowerChar d = [d] := by
  have small := lowerChar_not_upper present
  have outside : ¬(d.val ≥ 'A'.val ∧ d.val ≤ 'Z'.val) := by simpa [isUpper_eq] using small
  have plain : d.toNat ≠ 0x130 ∧ d.toNat ≠ 0x212a := by
    unfold lowerChar at present
    split at present
    · simp only [List.mem_cons,List.not_mem_nil,or_false] at present
      rcases present with rfl | rfl <;> decide
    · split at present
      · obtain rfl := List.mem_singleton.mp present
        decide
      · rename_i dotted kelvin
        obtain rfl := List.mem_singleton.mp present
        by_cases upper : c.isUpper = true
        · have bounds : 65 ≤ c.toNat ∧ c.toNat ≤ 90 := by
            simp only [isUpper_eq,decide_eq_true_eq,ge_iff_le,UInt32.le_iff_toNat_le] at upper
            exact upper
          have check : ∀ n, n ≤ 90 → 65 ≤ n → (Char.ofNat n).toLower.toNat ≠ 0x130 ∧ (Char.ofNat n).toLower.toNat ≠ 0x212a := by decide
          have found := check c.toNat bounds.2 bounds.1
          rwa [Char.ofNat_toNat] at found
        · have same : c.toLower = c := toLower_eq (by simpa [isUpper_eq] using upper)
          rw [same]
          exact ⟨dotted,kelvin⟩
  rw [lowerChar,if_neg plain.1,if_neg plain.2,toLower_eq outside]

-- Characters are dropped from a text before or after each is spelled out, where the dropped ones stand for themselves.
theorem dropWhile_flatMap (kept : ∀ c, drop c = true → spell c = [c])
    (solid : ∀ c, drop c = false → spell c ≠ [] ∧ ∀ d ∈ spell c, drop d = false) (chars : List Char) :
    (chars.flatMap spell).dropWhile drop = (chars.dropWhile drop).flatMap spell := by
  induction chars with
  | nil => rfl
  | cons c rest ih =>
    rw [List.flatMap_cons]
    cases dropped : drop c with
    | true =>
      rw [kept c dropped,List.singleton_append,List.dropWhile_cons_of_pos dropped,List.dropWhile_cons_of_pos dropped]
      exact ih
    | false =>
      obtain ⟨some_,each⟩ := solid c dropped
      have stays : (c :: rest).dropWhile drop = c :: rest := List.dropWhile_cons_of_neg (by simp [dropped])
      rw [stays,List.flatMap_cons]
      cases spelled : spell c with
      | nil => exact absurd spelled some_
      | cons d more =>
        have first : drop d = false := each d (by rw [spelled]; exact List.mem_cons_self)
        rw [List.cons_append,List.dropWhile_cons_of_neg (by simp [first])]

theorem lowerChar_some (c : Char) : lowerChar c ≠ [] := by
  unfold lowerChar
  split
  · exact List.cons_ne_nil _ _
  · split <;> exact List.cons_ne_nil _ _

theorem strip_lower (s : String) : strip (lower s) = lower (strip s) := by
  have front : ∀ chars : List Char, (chars.flatMap lowerChar).dropWhile isSpace = (chars.dropWhile isSpace).flatMap lowerChar :=
    dropWhile_flatMap (fun c => lowerChar_space) fun c solid => ⟨lowerChar_some c,lowerChar_solid solid⟩
  have back : ∀ chars : List Char, (chars.flatMap (List.reverse ∘ lowerChar)).dropWhile isSpace =
      (chars.dropWhile isSpace).flatMap (List.reverse ∘ lowerChar) := by
    apply dropWhile_flatMap
    · intro c space
      simp [lowerChar_space space]
    · intro c solid
      refine ⟨by simpa using lowerChar_some c,?_⟩
      intro d present
      exact lowerChar_solid solid d (by simpa using present)
  have ends : ∀ chars : List Char, (chars.flatMap lowerChar).rdropWhile isSpace = (chars.rdropWhile isSpace).flatMap lowerChar := by
    intro chars
    rw [List.rdropWhile,List.reverse_flatMap,back,List.rdropWhile,List.reverse_flatMap]
    simp [Function.comp_def]
  unfold strip lower stripBy
  rw [String.toList_ofList,String.toList_ofList,front,ends]

theorem lower_lower (s : String) : lower (lower s) = lower s := by
  unfold lower
  rw [String.toList_ofList,List.flatMap_assoc]
  congr 1
  apply List.flatMap_congr
  intro c present
  have single : (lowerChar c).flatMap lowerChar = (lowerChar c).flatMap fun d => [d] :=
    List.flatMap_congr fun d listed => lowerChar_lowered listed
  simpa using single

theorem severity_lower (given : value ≠ .none) : decisionSeverity (.str (lower value.text)) = decisionSeverity value := by
  have same : normalizeText (lower value.text) = normalizeText value.text := by
    unfold normalizeText
    rw [strip_lower,lower_lower]
  have spelled : (Value.str (lower value.text)).text = lower value.text := rfl
  unfold decisionSeverity normalizeDecision
  rw [if_neg given,if_neg (by simp),spelled,same]

-- The stop reasons that block, and the grounds for holding or reviewing.
def Blocking (inputs : GateInputs) : Prop :=
  "rollback_not_supported" ∈ inputs.stopReasons ∨
    ("irreversible_action" ∈ inputs.stopReasons ∧ "audit_trail_incomplete" ∈ inputs.stopReasons) ∨
    "secure_prod_controls_missing" ∈ inputs.stopReasons

def HeldForEvidence (inputs : GateInputs) : Prop :=
  "required_evidence_missing" ∈ inputs.stopReasons ∨ "sanctions_partial_match" ∈ inputs.stopReasons

def ReviewAsked (inputs : GateInputs) : Prop :=
  ("high_risk_ambiguity" ∈ inputs.stopReasons ∧ floatAtLeast inputs.riskScore pointEight = true) ∨
    "approval_boundary_unknown" ∈ inputs.stopReasons ∨ inputs.humanReviewRequired = true

def Incomplete (inputs : GateInputs) : Prop :=
  "rule_undefined" ∈ inputs.stopReasons ∨ "audit_trail_incomplete" ∈ inputs.stopReasons ∨ "secure_controls_missing" ∈ inputs.stopReasons

instance (inputs : GateInputs) : Decidable (Blocking inputs) := by unfold Blocking; infer_instance
instance (inputs : GateInputs) : Decidable (HeldForEvidence inputs) := by unfold HeldForEvidence; infer_instance
instance (inputs : GateInputs) : Decidable (ReviewAsked inputs) := by unfold ReviewAsked; infer_instance
instance (inputs : GateInputs) : Decidable (Incomplete inputs) := by unfold Incomplete; infer_instance

def stopSeverity (inputs : GateInputs) : Nat :=
  if Blocking inputs then 3 else if HeldForEvidence inputs ∨ ReviewAsked inputs ∨ Incomplete inputs then 2 else 1

def derivedSeverity (inputs : GateInputs) : Nat :=
  max (stopSeverity inputs) (max (decisionSeverity (.str inputs.rawGateDecision)) (decisionSeverity (.str inputs.decisionStatus)))

theorem gate_one (value : Value) : resolveDecisionPrecedence [value] .gate = decisionOutputTerms .gate (decisionSeverity value) := by
  simp [resolveDecisionPrecedence,decisionSeverity]

theorem gate_block (value : Value) : resolveDecisionPrecedence [value] .gate = "block" ↔ decisionSeverity value = 3 := by
  rw [gate_one]
  rcases severity_range value with one | two | three
  · rw [one]; decide
  · rw [two]; decide
  · rw [three]; decide

theorem gate_hold (value : Value) : resolveDecisionPrecedence [value] .gate = "hold" ↔ decisionSeverity value = 2 := by
  rw [gate_one]
  rcases severity_range value with one | two | three
  · rw [one]; decide
  · rw [two]; decide
  · rw [three]; decide

theorem derived_cases (inputs : GateInputs) :
    (deriveGateDecisionFromStopReasons inputs = ("block",inputs.humanReviewRequired) ∧ derivedSeverity inputs = 3) ∨
    (deriveGateDecisionFromStopReasons inputs = ("hold",inputs.humanReviewRequired) ∧ derivedSeverity inputs = 2 ∧
      (HeldForEvidence inputs ∨ ¬ReviewAsked inputs)) ∨
    (deriveGateDecisionFromStopReasons inputs = ("human_review_required",true) ∧ derivedSeverity inputs = 2 ∧
      ¬HeldForEvidence inputs ∧ ReviewAsked inputs) ∨
    (deriveGateDecisionFromStopReasons inputs = ("proceed",false) ∧ derivedSeverity inputs = 1 ∧
      ¬HeldForEvidence inputs ∧ ¬ReviewAsked inputs) := by
  have raw := severity_range (.str inputs.rawGateDecision)
  have status := severity_range (.str inputs.decisionStatus)
  unfold deriveGateDecisionFromStopReasons derivedSeverity
  simp only [gate_block,gate_hold]
  by_cases blocking : Blocking inputs
  · left
    have stop : stopSeverity inputs = 3 := if_pos blocking
    refine ⟨?_,by omega⟩
    rcases blocking with rollback | irreversible | controls
    · rw [if_pos rollback]
    · rw [if_pos irreversible,ite_self]
    · rw [if_pos controls,ite_self,ite_self]
  · have stop : stopSeverity inputs = if HeldForEvidence inputs ∨ ReviewAsked inputs ∨ Incomplete inputs then 2 else 1 := if_neg blocking
    simp only [Blocking,not_or] at blocking
    rw [if_neg blocking.1,if_neg blocking.2.1,if_neg blocking.2.2]
    by_cases denied : decisionSeverity (.str inputs.rawGateDecision) = 3 ∨ decisionSeverity (.str inputs.decisionStatus) = 3
    · left
      rw [if_pos denied]
      refine ⟨rfl,?_⟩
      split at stop <;> omega
    · rw [if_neg denied]
      by_cases held : HeldForEvidence inputs
      · right; left
        rw [if_pos (.inl held)] at stop
        refine ⟨?_,by omega,.inl held⟩
        rcases held with missing | sanctions
        · rw [if_pos missing]
        · rw [if_pos sanctions,ite_self]
      · have apart := held
        simp only [HeldForEvidence,not_or] at apart
        rw [if_neg apart.1,if_neg apart.2]
        by_cases asked : ReviewAsked inputs
        · right; right; left
          rw [if_pos (.inr (.inl asked))] at stop
          refine ⟨?_,by omega,held,asked⟩
          rcases asked with risky | boundary | flagged
          · rw [if_pos risky]
          · simp [boundary]
          · simp [flagged]
        · have calm := asked
          simp only [ReviewAsked,not_or,Bool.not_eq_true] at calm
          rw [if_neg (by simpa using calm.1),if_neg (by simpa using calm.2)]
          by_cases parked : Incomplete inputs ∨ decisionSeverity (.str inputs.rawGateDecision) = 2 ∨
              decisionSeverity (.str inputs.decisionStatus) = 2
          · right; left
            rw [if_pos (by simpa only [Incomplete,or_assoc] using parked)]
            refine ⟨rfl,?_,.inr asked⟩
            by_cases incomplete : Incomplete inputs
            · rw [if_pos (.inr (.inr incomplete))] at stop
              omega
            · have two := parked.resolve_left incomplete
              split at stop <;> omega
          · right; right; right
            rw [if_neg (by simpa only [Incomplete,or_assoc] using parked)]
            simp only [not_or] at parked
            rw [if_neg (by simp [held,asked,parked.1])] at stop
            exact ⟨by rw [calm.2.2],by omega,held,asked⟩

theorem toUpper_cases (raised : c.toUpper = d) : c = d ∨ c = d.toLower := by
  by_cases small : c.toNat < 128
  · have check : ∀ n, n < 128 → Char.ofNat n = (Char.ofNat n).toUpper ∨ Char.ofNat n = (Char.ofNat n).toUpper.toLower := by decide
    have found := check c.toNat small
    rw [Char.ofNat_toNat,raised] at found
    exact found
  · have same : c.toUpper = c := by
      unfold Char.toUpper
      rw [dif_neg]
      intro lower
      simp only [UInt32.le_iff_toNat_le] at lower
      exact small (lt_of_le_of_lt lower.2 (by decide))
    exact .inl (same ▸ raised)

theorem toLower_cases (lowered : c.toLower = d) : c = d ∨ c = d.toUpper := by
  by_cases upper : c.isUpper = true
  · have bounds : 65 ≤ c.toNat ∧ c.toNat ≤ 90 := by
      simp only [isUpper_eq,decide_eq_true_eq,ge_iff_le,UInt32.le_iff_toNat_le] at upper
      exact upper
    have check : ∀ n, n ≤ 90 → 65 ≤ n → Char.ofNat n = (Char.ofNat n).toLower.toUpper := by decide
    have found := check c.toNat bounds.2 bounds.1
    rw [Char.ofNat_toNat,lowered] at found
    exact .inr found
  · have same : c.toLower = c := toLower_eq (by simpa [isUpper_eq] using upper)
    exact .inl (same ▸ lowered)

theorem upperChar_r (raised : upperChar c = 'R' :: rest) : lowerChar c = ['r'] := by
  unfold upperChar at raised
  split at raised <;> simp only [List.cons.injEq,Char.reduceEq,false_and] at raised
  rcases toUpper_cases raised.1 with rfl | rfl <;> decide

theorem upperChar_e (raised : upperChar c = 'E' :: rest) : lowerChar c = ['e'] ∧ rest = [] := by
  unfold upperChar at raised
  split at raised <;> simp only [List.cons.injEq,Char.reduceEq,false_and] at raised
  refine ⟨?_,raised.2.symm⟩
  rcases toUpper_cases raised.1 with rfl | rfl <;> decide

theorem upperChar_some (c : Char) : ∃ d more, upperChar c = d :: more := by
  unfold upperChar
  split <;> exact ⟨_,_,rfl⟩

theorem lowerChar_l (lowered : lowerChar c = 'l' :: rest) : upperChar c = ['L'] := by
  unfold lowerChar at lowered
  split at lowered
  · simp only [List.cons.injEq,Char.reduceEq,false_and] at lowered
  · split at lowered
    · simp only [List.cons.injEq,Char.reduceEq,false_and] at lowered
    · simp only [List.cons.injEq] at lowered
      rcases toLower_cases lowered.1 with rfl | rfl <;> decide

-- The words of severity 1 begin with other letters than the review words: each but one, and that one in its second.
theorem permits_letters (permits : decisionTermSeverity term = some 1) :
    ∃ first second rest, term.toList = first :: second :: rest ∧ first ≠ 'r' ∧ (first = 'e' → second = 'l') := by
  obtain ⟨row,found,one⟩ := Option.map_eq_some_iff.mp permits
  have listed := List.mem_of_find?_eq_some found
  have present : term ∈ row.2 := by simpa using List.find?_some found
  simp only [decisionSeverityAliases,List.mem_cons,List.not_mem_nil,or_false] at listed
  rcases listed with rfl | rfl | rfl
  · simp at one
  · simp at one
  · simp only [List.mem_cons,List.not_mem_nil,or_false] at present
    rcases present with rfl | rfl | rfl | rfl | rfl | rfl | rfl <;> exact ⟨_,_,_,rfl,by decide,by decide⟩

theorem review_severe (review : businessDecisionRequiresReview value = true) : decisionSeverity value ≠ 1 := by
  intro one
  simp only [businessDecisionRequiresReview,Bool.and_eq_true,List.contains_eq_mem,decide_eq_true_eq] at review
  obtain ⟨supplied,word⟩ := review
  have given : value ≠ .none := by
    rintro rfl
    simp [isSuppliedDecisionValue] at supplied
  have permits : decisionTermSeverity (normalizeDecision value) = some 1 := by
    unfold decisionSeverity at one
    cases known : decisionTermSeverity (normalizeDecision value) with
    | none => simp [known] at one
    | some severity =>
      rw [known] at one
      exact congrArg some one
  obtain ⟨first,second,others,letters,notR,thenL⟩ := permits_letters permits
  have normalized : (normalizeDecision value).toList =
      (((strip value.text).toList.flatMap lowerChar).map fun c => if c = '-' then '_' else c).map fun c => if c = ' ' then '_' else c := by
    unfold normalizeDecision at permits ⊢
    rw [if_neg given] at permits ⊢
    by_cases blank : normalizeText value.text = ""
    · rw [if_pos blank] at permits
      exact absurd permits (by decide)
    · rw [if_neg blank]
      simp only [normalizeText,replaceChar,lower,String.toList_ofList]
  rw [normalized] at letters
  have spelled : (upper (strip value.text)).toList = (strip value.text).toList.flatMap upperChar := by rw [upper,String.toList_ofList]
  generalize (strip value.text).toList = chars at letters spelled
  have reads : chars.flatMap upperChar = "REVIEW".toList ∨ chars.flatMap upperChar = "REVIEW_REQUIRED".toList ∨
      chars.flatMap upperChar = "ESCALATE".toList := by
    rw [← spelled]
    simp only [List.mem_cons,List.not_mem_nil,or_false] at word
    rcases word with same | same | same <;> rw [same] <;> simp
  cases chars with
  | nil => simp at letters
  | cons c rest =>
    obtain ⟨d,more,raised⟩ := upperChar_some c
    rw [List.flatMap_cons,raised,List.cons_append] at reads
    have head : d = 'R' ∨ (d = 'E' ∧ more ++ rest.flatMap upperChar = "SCALATE".toList) := by
      rcases reads with same | same | same
      · exact .inl (List.cons.inj same).1
      · exact .inl (List.cons.inj same).1
      · exact .inr (List.cons.inj same)
    rcases head with rfl | ⟨rfl,tail⟩
    · rw [List.flatMap_cons,upperChar_r raised] at letters
      exact notR (List.cons.inj letters).1.symm
    · obtain ⟨lowered,rfl⟩ := upperChar_e raised
      cases rest with
      | nil => simp at tail
      | cons next rest =>
        obtain ⟨e,most,following⟩ := upperChar_some next
        rw [List.nil_append,List.flatMap_cons,following,List.cons_append] at tail
        obtain rfl : e = 'S' := (List.cons.inj tail).1
        rw [List.flatMap_cons,List.flatMap_cons,lowered] at letters
        cases small : lowerChar next with
        | nil => exact lowerChar_some next small
        | cons l tail_ =>
          rw [small] at letters
          have first_ : first = 'e' := (List.cons.inj letters).1.symm
          have second_ := (List.cons.inj (List.cons.inj letters).2).1
          rw [thenL first_] at second_
          have letter : l = 'l' := by
            by_cases dash : l = '-'
            · subst l; simp at second_
            · by_cases blank : l = ' '
              · subst l; simp at second_
              · simpa [dash,blank] using second_
          subst letter
          have raised_ := lowerChar_l small
          rw [raised_] at following
          simp at following

def explicitSeverity (ctx : ResponseContext) : Nat :=
  if isSuppliedDecisionValue (explicitBusinessDecision ctx) then decisionSeverity (explicitBusinessDecision ctx) else 1

def explicitReview (ctx : ResponseContext) : Bool := businessDecisionRequiresReview (explicitBusinessDecision ctx)

def heardSeverity (ctx : ResponseContext) (inputs : GateInputs) : Nat := max (derivedSeverity inputs) (explicitSeverity ctx)

theorem resolve_gate (values : List Value) (some_ : values ≠ []) :
    resolveDecisionPrecedence values .gate = decisionOutputTerms .gate ((values.map decisionSeverity).foldl max 0) := by
  have rated : ((values.map fun value => (normalizeDecision value,decisionSeverity value)).map Prod.snd) =
      values.map decisionSeverity := by simp
  simp only [resolveDecisionPrecedence,some_,if_false,reduceCtorEq]
  change decisionOutputTerms .gate
    (((values.map fun value => (normalizeDecision value,decisionSeverity value)).map Prod.snd).foldl max 0) = _
  rw [rated]

theorem public_terms : canonicalizePublicGateDecision (.str "block") = "block" ∧ canonicalizePublicGateDecision (.str "hold") = "hold" ∧
    canonicalizePublicGateDecision (.str "proceed") = "proceed" ∧
    canonicalizePublicGateDecision (.str "human_review_required") = "human_review_required" := by decide

theorem resolved_gate (ctx : ResponseContext) (rated : decisionSeverity (.str gate) = mild) :
    resolveDecisionPrecedence (.str gate :: (if isSuppliedDecisionValue (explicitBusinessDecision ctx) then
      [explicitBusinessDecision ctx] else [])) .gate = decisionOutputTerms .gate (max mild (explicitSeverity ctx)) := by
  rw [resolve_gate _ (List.cons_ne_nil _ _)]
  have one := severity_range (.str gate)
  unfold explicitSeverity
  split
  · simp [rated]
  · have low : max mild 1 = mild := by omega
    simp [rated,low]

theorem gate_severities : decisionSeverity (.str "block") = 3 ∧ decisionSeverity (.str "hold") = 2 ∧
    decisionSeverity (.str "human_review_required") = 2 ∧ decisionSeverity (.str "proceed") = 1 := by decide

theorem explicit_range (ctx : ResponseContext) : explicitSeverity ctx = 1 ∨ explicitSeverity ctx = 2 ∨ explicitSeverity ctx = 3 := by
  unfold explicitSeverity
  split
  · exact severity_range _
  · exact .inl rfl

theorem explicit_review (review : explicitReview ctx = true) : explicitSeverity ctx ≠ 1 := by
  have supplied : isSuppliedDecisionValue (explicitBusinessDecision ctx) = true := by
    simp only [explicitReview,businessDecisionRequiresReview,Bool.and_eq_true] at review
    exact review.1
  rw [explicitSeverity,if_pos supplied]
  exact review_severe review

theorem finalGate_severity (ctx : ResponseContext) (derived : String × Bool) (rated : decisionSeverity (.str derived.1) = mild) :
    finalGate (explicitBusinessDecision ctx) derived = if max mild (explicitSeverity ctx) = 3 then ("block",derived.2)
      else if max mild (explicitSeverity ctx) = 2 then if explicitReview ctx then ("human_review_required",true)
        else (if derived.1 = "human_review_required" then "human_review_required" else "hold",derived.2)
      else if derived.2 ∨ derived.1 = "human_review_required" then ("human_review_required",derived.2) else ("proceed",derived.2) := by
  obtain ⟨block,hold,proceed,_⟩ := public_terms
  have low := severity_range (.str derived.1)
  rw [rated] at low
  have range := explicit_range ctx
  have cases_ : max mild (explicitSeverity ctx) = 1 ∨ max mild (explicitSeverity ctx) = 2 ∨ max mild (explicitSeverity ctx) = 3 := by omega
  unfold finalGate
  dsimp only
  rw [resolved_gate ctx rated]
  rcases cases_ with one | two | three
  · rw [one]
    simp [decisionOutputTerms,proceed]
  · rw [two]
    simp only [decisionOutputTerms,hold,if_true,String.reduceEq,if_false,Nat.reduceEqDiff]
    rfl
  · rw [three]
    simp [decisionOutputTerms,block]

theorem final_cases (ctx : ResponseContext) (inputs : GateInputs) :
    ((finalGate (explicitBusinessDecision ctx) (deriveGateDecisionFromStopReasons inputs)).1 = "block" ∧ heardSeverity ctx inputs = 3) ∨
    ((finalGate (explicitBusinessDecision ctx) (deriveGateDecisionFromStopReasons inputs)).1 = "hold" ∧ heardSeverity ctx inputs = 2 ∧
      explicitReview ctx = false ∧ (HeldForEvidence inputs ∨ ¬ReviewAsked inputs)) ∨
    (finalGate (explicitBusinessDecision ctx) (deriveGateDecisionFromStopReasons inputs) = ("human_review_required",true) ∧
      heardSeverity ctx inputs = 2 ∧ (explicitReview ctx = true ∨ (¬HeldForEvidence inputs ∧ ReviewAsked inputs))) ∨
    (finalGate (explicitBusinessDecision ctx) (deriveGateDecisionFromStopReasons inputs) = ("proceed",false) ∧
      heardSeverity ctx inputs = 1 ∧ explicitReview ctx = false ∧ ¬HeldForEvidence inputs ∧ ¬ReviewAsked inputs) := by
  have range := explicit_range ctx
  obtain ⟨blocks,holds,reviews,proceeds⟩ := gate_severities
  rcases derived_cases inputs with ⟨gate,severe⟩ | ⟨gate,severe,kept⟩ | ⟨gate,severe,unheld,asked⟩ | ⟨gate,severe,unheld,calm⟩
  · left
    rw [gate,finalGate_severity ctx ("block",inputs.humanReviewRequired) blocks,heardSeverity,severe]
    have top : max 3 (explicitSeverity ctx) = 3 := by omega
    rw [if_pos top]
    exact ⟨rfl,top⟩
  · rw [gate,finalGate_severity ctx ("hold",inputs.humanReviewRequired) holds,heardSeverity,severe]
    by_cases top : max 2 (explicitSeverity ctx) = 3
    · rw [if_pos top]
      exact .inl ⟨rfl,top⟩
    · have two : max 2 (explicitSeverity ctx) = 2 := by omega
      rw [if_neg top,if_pos two]
      cases review : explicitReview ctx with
      | true => exact .inr (.inr (.inl ⟨rfl,two,.inl rfl⟩))
      | false => exact .inr (.inl ⟨rfl,two,rfl,kept⟩)
  · rw [gate,finalGate_severity ctx ("human_review_required",true) reviews,heardSeverity,severe]
    by_cases top : max 2 (explicitSeverity ctx) = 3
    · rw [if_pos top]
      exact .inl ⟨rfl,top⟩
    · have two : max 2 (explicitSeverity ctx) = 2 := by omega
      rw [if_neg top,if_pos two,if_pos rfl,ite_self]
      exact .inr (.inr (.inl ⟨rfl,two,.inr ⟨unheld,asked⟩⟩))
  · rw [gate,finalGate_severity ctx ("proceed",false) proceeds,heardSeverity,severe]
    by_cases top : max 1 (explicitSeverity ctx) = 3
    · rw [if_pos top]
      exact .inl ⟨rfl,top⟩
    · rw [if_neg top]
      by_cases two : max 1 (explicitSeverity ctx) = 2
      · rw [if_pos two]
        cases review : explicitReview ctx with
        | true => exact .inr (.inr (.inl ⟨rfl,two,.inl rfl⟩))
        | false => exact .inr (.inl ⟨rfl,two,rfl,.inr calm⟩)
      · have one : explicitSeverity ctx = 1 := by omega
        have mild : explicitReview ctx = false := by
          cases review : explicitReview ctx with
          | true => exact absurd one (explicit_review review)
          | false => rfl
        rw [if_neg two]
        exact .inr (.inr (.inr ⟨by simp,by omega,mild,unheld,calm⟩))

theorem missing_held (read : gateInputs world ctx = .ok inputs) (missing : (assessEvidence world ctx.context).missingEvidence ≠ []) :
    HeldForEvidence inputs := by
  obtain ⟨risk,_,rest⟩ := bind_ok.mp read
  obtain ⟨extracted,found,rest⟩ := bind_ok.mp rest
  obtain ⟨contextRisk,_,reasons⟩ := bind_ok.mp found
  obtain rfl := Except.ok.inj reasons
  obtain rfl := Except.ok.inj rest
  have some_ : (assessEvidence world ctx.context).missingEvidence.isEmpty = false := by simpa using missing
  left
  simp [some_,noted]

def fujiVerdicts (ctx : ResponseContext) : List Value :=
  [ctx.fujiDict.get "status",ctx.fujiDict.get "decision_status"].filter isSuppliedDecisionValue

def verdicts (ctx : ResponseContext) : List Value :=
  fujiVerdicts ctx ++ [.str ctx.decisionStatus,explicitBusinessDecision ctx].filter isSuppliedDecisionValue

structure NeverMilder (ctx : ResponseContext) (fields : BusinessFields) : Prop where
  severe : ∀ verdict ∈ verdicts ctx, decisionSeverity verdict ≤ decisionSeverity (.str fields.decision.gateDecision)
  approved : fields.decision.businessDecision = "APPROVE" →
    (∀ verdict ∈ verdicts ctx, decisionSeverity verdict = 1) ∧ fields.evidence.missingEvidence = []

-- Both verdicts of the FUJI gate are reached by what the derivation hears.
def Heard (world : ResponseWorld) (ctx : ResponseContext) : Prop :=
  ∀ inputs, gateInputs world ctx = .ok inputs → ∀ verdict ∈ fujiVerdicts ctx, decisionSeverity verdict ≤ heardSeverity ctx inputs

theorem derived_parts (returned : deriveBusinessFields world ctx = .ok fields) :
    ∃ inputs, gateInputs world ctx = .ok inputs ∧ fields.evidence = assessEvidence world ctx.context ∧
      fields.decision = decide_ ctx inputs (assessEvidence world ctx.context).missingEvidence := by
  obtain ⟨inputs,read,rest⟩ := bind_ok.mp returned
  obtain ⟨_,_,rest⟩ := bind_ok.mp rest
  obtain ⟨total,_,done⟩ := bind_ok.mp rest
  obtain rfl := Except.ok.inj done
  exact ⟨inputs,read,rfl,rfl⟩

theorem decided_severity (ctx : ResponseContext) (inputs : GateInputs) (missing : List String) :
    decisionSeverity (.str (decide_ ctx inputs missing).gateDecision) = heardSeverity ctx inputs := by
  obtain ⟨blocks,holds,reviews,proceeds⟩ := gate_severities
  unfold decide_
  dsimp only
  rcases final_cases ctx inputs with ⟨gate,severe⟩ | ⟨gate,severe,_⟩ | ⟨gate,severe,_⟩ | ⟨gate,severe,_⟩
  · rw [gate,severe,blocks]
  · rw [gate,severe,holds]
  · rw [gate,severe,reviews]
  · rw [gate,severe,proceeds]

theorem approves_when (approved : businessDecision explicit gate reason missing = "APPROVE") :
    businessDecisionRequiresReview explicit = false ∧ missing = [] ∧ gate ≠ "block" ∧ gate ≠ "human_review_required" ∧ gate ≠ "hold" := by
  unfold businessDecision at approved
  dsimp only at approved
  by_cases review : businessDecisionRequiresReview explicit = true
  · simp [review] at approved
    split_ifs at approved <;> simp at approved
  · by_cases present : missing = []
    · simp only [review,present] at approved
      refine ⟨by simpa using review,present,?_,?_,?_⟩ <;> rintro rfl <;> simp at approved
    · simp [review,present] at approved
      split_ifs at approved <;> simp at approved

theorem decided_business (ctx : ResponseContext) (inputs : GateInputs) (missing : List String) :
    (decide_ ctx inputs missing).businessDecision = businessDecision (explicitBusinessDecision ctx)
      (finalGate (explicitBusinessDecision ctx) (deriveGateDecisionFromStopReasons inputs)).1 (gateReason ctx) missing := by
  unfold decide_
  dsimp only

theorem approved_proceeds (approved : (decide_ ctx inputs missing).businessDecision = "APPROVE") :
    heardSeverity ctx inputs = 1 ∧ missing = [] := by
  rw [decided_business] at approved
  obtain ⟨_,present,unblocked,unreviewed,unheld⟩ := approves_when approved
  rcases final_cases ctx inputs with ⟨gate,_⟩ | ⟨gate,_⟩ | ⟨gate,_⟩ | ⟨_,severe,_⟩
  · exact absurd gate unblocked
  · exact absurd gate unheld
  · exact absurd (congrArg Prod.fst gate) unreviewed
  · exact ⟨severe,present⟩

theorem status_heard (read : gateInputs world ctx = .ok inputs) :
    decisionSeverity (.str ctx.decisionStatus) ≤ heardSeverity ctx inputs := by
  obtain ⟨risk,_,rest⟩ := bind_ok.mp read
  obtain ⟨extracted,_,rest⟩ := bind_ok.mp rest
  obtain rfl := Except.ok.inj rest
  have same : decisionSeverity (.str (lower ctx.decisionStatus)) = decisionSeverity (.str ctx.decisionStatus) :=
    @severity_lower (.str ctx.decisionStatus) (by simp)
  unfold heardSeverity derivedSeverity
  dsimp only
  omega

def responseWorld : ResponseWorld :=
  { PipelinePolicy.escalatingWorld with
    categorized := fun _ => true
    profiles := fun _ => none
    nextAction := fun _ _ _ _ _ _ _ => "EXECUTE_WITH_STANDARD_MONITORING" }

def decidedContext (fuji extras : Dict) : ResponseContext :=
  { PipelinePolicy.requestContext .none with fujiDict := fuji,responseExtras := extras,context := [],valuesPayload := [],raw := .none }

def modifiedFuji : Dict := [(.str "decision_status",.str "allow"),(.str "status",.str "modify")]

def Accepted (decision : PublicDecision) : Prop :=
  validateGateBusinessCombination decision.gateDecision decision.businessDecision decision.humanReviewRequired = .ok ()

def Refused (ctx : ResponseContext) : Prop :=
  (evaluateGovernanceLayers (ctx.responseExtras.get "participation_signal")).promotabilityStatus = "non_promotable"

def Parked (world : ResponseWorld) (ctx : ResponseContext) : Prop :=
  ∀ inputs, gateInputs world ctx = .ok inputs → heardSeverity ctx inputs = 3 ∨
    (heardSeverity ctx inputs = 2 ∧ explicitReview ctx = false ∧ (HeldForEvidence inputs ∨ ¬ReviewAsked inputs))

theorem accepted_block (denied : business = "DENY" ∨ business = "EVIDENCE_REQUIRED" ∨ business = "HOLD") :
    Accepted ⟨"block",business,review⟩ := by
  obtain ⟨block,_,_,_⟩ := public_terms
  unfold Accepted validateGateBusinessCombination
  dsimp only
  rw [block]
  rcases denied with rfl | rfl | rfl <;> simp [forbiddenGateBusinessCombinations]

theorem accepted_hold (held : business = "HOLD" ∨ business = "EVIDENCE_REQUIRED") : Accepted ⟨"hold",business,review⟩ := by
  obtain ⟨_,hold,_,_⟩ := public_terms
  unfold Accepted validateGateBusinessCombination
  dsimp only
  rw [hold]
  rcases held with rfl | rfl <;> simp [forbiddenGateBusinessCombinations]

theorem accepted_review : Accepted ⟨"human_review_required","REVIEW_REQUIRED",true⟩ := by
  simp [Accepted,validateGateBusinessCombination,public_terms,forbiddenGateBusinessCombinations]

theorem accepted_proceed (passed : business = "APPROVE" ∨ business = "POLICY_DEFINITION_REQUIRED") :
    Accepted ⟨"proceed",business,false⟩ := by
  obtain ⟨_,_,proceed,_⟩ := public_terms
  unfold Accepted validateGateBusinessCombination
  dsimp only
  rw [proceed]
  rcases passed with rfl | rfl <;> simp [forbiddenGateBusinessCombinations]

theorem unaccepted_review : ¬Accepted ⟨"human_review_required","HOLD",true⟩ := by
  simp [Accepted,validateGateBusinessCombination,public_terms,forbiddenGateBusinessCombinations]

theorem unaccepted_proceed : ¬Accepted ⟨"proceed","HOLD",true⟩ := by
  simp [Accepted,validateGateBusinessCombination,public_terms,forbiddenGateBusinessCombinations]

section Business
variable (explicit : Value) (reason : String) (missing : List String)

theorem business_block : businessDecision explicit "block" reason missing = "DENY" ∨
    businessDecision explicit "block" reason missing = "EVIDENCE_REQUIRED" ∨ businessDecision explicit "block" reason missing = "HOLD" := by
  simp only [businessDecision,true_and]
  split_ifs <;> simp

theorem business_hold (plain : businessDecisionRequiresReview explicit = false) :
    businessDecision explicit "hold" reason missing = "HOLD" ∨ businessDecision explicit "hold" reason missing = "EVIDENCE_REQUIRED" := by
  by_cases present : missing = []
  · simp [businessDecision,plain,present]
  · simp [businessDecision,plain,present]

theorem business_review (asked : businessDecisionRequiresReview explicit = true ∨ missing = []) :
    businessDecision explicit "human_review_required" reason missing = "REVIEW_REQUIRED" := by
  unfold businessDecision
  rcases asked with word | nothing
  · simp [word]
  · simp [nothing]

theorem business_proceed (plain : businessDecisionRequiresReview explicit = false) :
    businessDecision explicit "proceed" reason [] = "APPROVE" ∨
      businessDecision explicit "proceed" reason [] = "POLICY_DEFINITION_REQUIRED" := by
  simp [businessDecision,plain]

end Business

theorem check_passes (read : gateInputs world ctx = .ok inputs) :
    Accepted (decide_ ctx inputs (assessEvidence world ctx.context).missingEvidence) := by
  have nothing (unheld : ¬HeldForEvidence inputs) : (assessEvidence world ctx.context).missingEvidence = [] := by
    by_contra missing
    exact unheld (missing_held read missing)
  unfold decide_
  dsimp only
  rcases final_cases ctx inputs with ⟨gate,_⟩ | ⟨gate,_,review,_⟩ | ⟨gate,_,asked⟩ | ⟨gate,_,review,unheld,_⟩
  · rw [gate]
    exact accepted_block (business_block _ _ _)
  · rw [gate]
    exact accepted_hold (business_hold _ _ _ review)
  · rw [gate,business_review _ _ _ (asked.imp_right fun calm => nothing calm.1)]
    exact accepted_review
  · rw [gate,nothing unheld]
    exact accepted_proceed (business_proceed _ _ review)

theorem transition_refused (ctx : ResponseContext) :
    (evaluateExecutionIntentTransition (evaluateGovernanceLayers (ctx.responseExtras.get "participation_signal"))).transitionStatus =
      "structurally_refused" ↔ Refused ctx := by
  have known : (evaluateGovernanceLayers (ctx.responseExtras.get "participation_signal")).promotabilityStatus = "non_promotable" ∨
      (evaluateGovernanceLayers (ctx.responseExtras.get "participation_signal")).promotabilityStatus = "promotable" := by
    have each : ∀ participation preservation, (evaluateLineagePromotability participation preservation).promotabilityStatus = "non_promotable" ∨
        (evaluateLineagePromotability participation preservation).promotabilityStatus = "promotable" := by
      intro participation preservation
      unfold evaluateLineagePromotability
      split
      · exact .inl rfl
      · exact .inr rfl
    unfold evaluateGovernanceLayers
    split <;> exact each _ _
  have words : strip "non_promotable" = "non_promotable" ∧ strip "promotable" = "promotable" := by decide
  unfold evaluateExecutionIntentTransition Refused
  rcases known with status | status
  · rw [status,words.1]
    simp
  · rw [status,words.2]
    simp

theorem built_parts (built : buildResponseLayers world ctx = .ok core) : ∃ fields, deriveBusinessFields world ctx = .ok fields ∧
      ((Refused ctx ∧ core.decision = ⟨fields.decision.gateDecision,"HOLD",true⟩) ∨ (¬Refused ctx ∧ core.decision = fields.decision)) := by
  obtain ⟨fields,derived,rest⟩ := bind_ok.mp built
  refine ⟨fields,derived,?_⟩
  dsimp only at rest
  by_cases refused : Refused ctx
  · rw [if_pos ((transition_refused ctx).mpr refused)] at rest
    obtain rfl := Except.ok.inj rest
    exact .inl ⟨refused,rfl⟩
  · rw [if_neg fun same => refused ((transition_refused ctx).mp same)] at rest
    obtain rfl := Except.ok.inj rest
    exact .inr ⟨refused,rfl⟩

-- A refused transition leaves the gate as it was and replaces the other two: the contract admits that beside a
-- gate that blocks or holds, and beside no other.
theorem refused_accepted (read : gateInputs world ctx = .ok inputs) (missing : List String) :
    Accepted ⟨(decide_ ctx inputs missing).gateDecision,"HOLD",true⟩ ↔ Parked world ctx := by
  have exact_ : Parked world ctx ↔ (heardSeverity ctx inputs = 3 ∨
      (heardSeverity ctx inputs = 2 ∧ explicitReview ctx = false ∧ (HeldForEvidence inputs ∨ ¬ReviewAsked inputs))) := by
    constructor
    · intro parked
      exact parked inputs read
    · intro here others readOthers
      obtain rfl := Except.ok.inj (read.symm.trans readOthers)
      exact here
  rw [exact_]
  unfold decide_
  dsimp only
  rcases final_cases ctx inputs with ⟨gate,severe⟩ | ⟨gate,severe,review,kept⟩ | ⟨gate,severe,asked⟩ | ⟨gate,severe,_⟩
  · rw [gate]
    exact iff_of_true (accepted_block (.inr (.inr rfl))) (.inl severe)
  · rw [gate]
    exact iff_of_true (accepted_hold (.inl rfl)) (.inr ⟨severe,review,kept⟩)
  · rw [gate]
    refine iff_of_false unaccepted_review ?_
    rintro (blocked | ⟨_,review,kept⟩)
    · omega
    · rcases asked with word | ⟨unheld,flagged⟩
      · rw [review] at word
        cases word
      · exact kept.elim unheld fun calm => calm flagged
  · rw [gate]
    refine iff_of_false unaccepted_proceed ?_
    rintro (blocked | ⟨two,_⟩) <;> omega

theorem response_contract_exact (world : ResponseWorld) (ctx : ResponseContext) :
    (∀ inputs, gateInputs world ctx = .ok inputs → Accepted (decide_ ctx inputs (assessEvidence world ctx.context).missingEvidence)) ∧
    ∀ core, buildResponseLayers world ctx = .ok core → (Accepted core.decision ↔ ¬Refused ctx ∨ Parked world ctx) := by
  refine ⟨fun inputs read => check_passes read,?_⟩
  intro core built
  obtain ⟨fields,derived,response⟩ := built_parts built
  obtain ⟨inputs,read,_,decided⟩ := derived_parts derived
  rcases response with ⟨refused,same⟩ | ⟨kept,same⟩
  · rw [same,decided,refused_accepted read]
    exact ⟨.inr,fun either => either.resolve_left fun kept => kept refused⟩
  · rw [same,decided]
    exact iff_of_true (check_passes read) (.inl kept)

theorem response_contract_sample : ∃ core, buildResponseLayers responseWorld (decidedContext [] []) = .ok core ∧ Accepted core.decision := by
  obtain ⟨core,built,_⟩ := toOption_shown (show (buildResponseLayers responseWorld (decidedContext [] [])).toOption.map
    (fun core => core.decision) = some ⟨"proceed","APPROVE",false⟩ by decide +kernel)
  refine ⟨core,built,((response_contract_exact responseWorld (decidedContext [] [])).2 core built).mpr (.inl ?_)⟩
  unfold Refused
  decide

def collapsedSignal : Dict :=
  [(.str "interpretation_space_narrowing",.str "closed"),(.str "counterfactual_availability",.str "none"),
   (.str "intervention_headroom",.str "none"),(.str "structural_openness",.str "closed")]

theorem refusal_breaks_contract : ¬∀ world ctx core, buildResponseLayers world ctx = .ok core → Accepted core.decision := by
  intro every
  obtain ⟨core,built,shown⟩ := toOption_shown (show (buildResponseLayers responseWorld
    (decidedContext [] [(.str "participation_signal",.dict collapsedSignal)])).toOption.map (fun core => core.decision) =
      some ⟨"proceed","HOLD",true⟩ by decide +kernel)
  have accepted := every _ _ core built
  rw [shown] at accepted
  exact unaccepted_proceed accepted

end VeritasOs.PipelineResponse
