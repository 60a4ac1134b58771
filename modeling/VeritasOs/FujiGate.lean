import VeritasOs.FujiCore

namespace VeritasOs.FujiGate
open Text JsonText BindArtifacts PolicyBundle FujiPolicy
open WatVerifier (toInt)

-- The core with its surroundings: the tool bridge, repr of an exception, the environment, the time the head took,
-- what recording the event in the trust log came to, and round(x,3).
structure GateWorld (K : Type) where
  core : CoreWorld K
  callTool : String → Dict → List Value → Except Exc Value
  repr : Exc → String
  env : String → Option String
  latencyMs : Int
  trustEvent : Except Exc Unit
  round3 : K → K

def ctxBool (context : Dict) (key : String) (default : Bool) : Bool :=
  match context.getD key (.bool default) with
  | .bool b => b
  | .int n => n ≠ 0
  | .float x => (Value.float x).truthy
  | .str s => ["1","true","yes","y","on"].contains (lower (strip s))
  | _ => default

structure Request (K : Type) where
  stakes : K
  telosScore : K
  safeApplied : Bool
  minEvidence : Int
  pocMode : Bool
  enforceLowEvidence : Bool
  evidenceCount : Int

inductive Check (K : Type) where
  | safetyHead (model : String) (riskScore : K) (categories : List String) (latencyMs : Int)
  | policyEngine (policyVersion : Value)
  | pocLowEvidenceGate (enforceLowEvidence : Bool) (minEvidence evidenceCount evidenceCountEffective : Int) (lowEvidence : Bool)

structure Rejection where
  code : String
  trustLogId : String

structure GateMeta (K : Type) where
  core : FujiMeta K
  enforceLowEvidence : Bool
  latencyMs : Int
  judgmentSource : String
  llmAvailable : Bool

structure GateResult (K : Type) where
  status : InternalStatus
  decisionStatus : DecisionStatus
  rejectionReason : Option String
  rejection : Option Rejection
  reasons : List String
  violations : List String
  risk : K
  checks : List (Check K)
  guidance : Option String
  followups : List Value
  info : GateMeta K

section Gate
variable {K : Type} [Field K] [LinearOrder K] (world : GateWorld K)

def safeNonnegInt (value : Value) (default : Int) : Except Exc Int :=
  match toInt world.core.reading.python value with
  | .ok resolved => .ok (if 0 ≤ resolved then resolved else default)
  | .error error => if wrongNumber error then .ok default else .error error

def half : Value := tenth "0.5" float_half

def firstTruthy (values : List Value) (last : Value) : Value := (values.find? Value.truthy).getD last

def requestOf (ctx : Dict) (evidence : Option (List Value)) : Except Exc (Request K) := do
  let default := world.core.config.defaultMinEvidence
  let fromEnv := ((world.env "VERITAS_MIN_EVIDENCE").map Value.str).getD (.int default)
  let minEvidence ← safeNonnegInt world (firstTruthy [ctx.get "min_evidence",ctx.get "fuji_min_evidence"] fromEnv) default
  let enforce := ctxBool ctx "enforce_low_evidence" evidence.isSome
  return {
    stakes := safeFloat world.core.reading (ctx.getD "stakes" half) (1 / 2)
    telosScore := safeFloat world.core.reading (ctx.getD "telos_score" (ctx.getD "value_ema" half)) (1 / 2)
    safeApplied := (ctx.get "fuji_safe_applied").truthy || (ctx.get "pii_already_masked").truthy
    minEvidence
    pocMode := ctxBool ctx "poc_mode" world.core.config.pocMode
    enforceLowEvidence := enforce
    evidenceCount := if enforce then ((evidence.getD []).length : Int) else minEvidence }

def headWorld : HeadWorld K := ⟨world.core.reading,world.core.detection,world.core.policy,world.callTool,world.repr⟩

def coreCall (text : String) (request : Request K) (head : SafetyHeadResult K) : CoreCall K where
  safetyHead := some head.number
  stakes := .finite request.stakes
  telosScore := .finite request.telosScore
  evidenceCount := request.evidenceCount
  policy := some world.core.policy
  safeApplied := request.safeApplied
  minEvidence := request.minEvidence
  text := text
  pocMode := request.pocMode

def judgmentSource (head : SafetyHeadResult K) : String :=
  if head.model ≠ "" ∧ head.model ≠ "heuristic_fallback" ∧ head.model ≠ "llm_safety_unknown" then "llm"
  else if (head.raw.get "safety_head_error").truthy then "deterministic_fallback"
  else "deterministic_rule"

def llmAvailable (head : SafetyHeadResult K) : Bool := !(isLlmFallback head.raw || (head.raw.get "safety_head_error").truthy)

def selectFujiCode (violations : List String) (info : FujiMeta K) : String :=
  let normalized := violations.map fun v => lower (strip v)
  if (Score.finite (2 / 5)).atMost info.injection.1 || !info.injection.2.isEmpty then "F-4001"
  else if normalized.contains "pii" || normalized.contains "secret_leak" then "F-4003"
  else if normalized.contains "policy_load_error" then "F-3005"
  else if info.policyEvalException || normalized.contains "compliance_evaluator_exception" then "F-3006"
  else if normalized.contains "unauthorized_financial_advice" then "F-3002"
  else if normalized.contains "definitive_legal_judgment" then "F-3003"
  else if normalized.contains "medical_high_risk" then "F-3004"
  else if normalized.contains "toxicity" then "F-2001"
  else if normalized.contains "bias_discrimination" then "F-2002"
  else if info.lowEvidence then "F-1002"
  else "F-3008"

def resolveTrustLogId (ctx : Dict) : String := (firstTruthy [ctx.get "trust_log_id",ctx.get "request_id"] (.str "TL-UNKNOWN")).text

def trustNotes : Except Exc (List String) :=
  match world.trustEvent with
  | .ok _ => .ok []
  | .error error => if error.handled then .ok ["trustlog_error:" ++ truncate 80 (world.repr error)] else .error error

def gateFollowups (text : String) (ctx : Dict) (request : Request K) (core : FujiDecision K) : List Value :=
  if request.pocMode && core.info.lowEvidence && core.followups.isEmpty then
    buildFollowups text (if (ctx.getD "scope" (.str "")).truthy then (ctx.getD "scope" (.str "")).text else "")
  else core.followups

def gateChecks (evidence : Option (List Value)) (request : Request K) (head : SafetyHeadResult K) (core : FujiDecision K) : List (Check K) :=
  [.safetyHead head.model head.riskScore head.categories world.latencyMs,.policyEngine core.policyVersion] ++ if request.pocMode then
      [.pocLowEvidenceGate request.enforceLowEvidence request.minEvidence (evidence.getD []).length request.evidenceCount core.info.lowEvidence]
    else []

def gateResult (text : String) (ctx : Dict) (evidence : Option (List Value)) (request : Request K) (head : SafetyHeadResult K)
    (core : FujiDecision K) (notes : List String) : GateResult K :=
  let standing := enforceInvariants "invariant_fix@fuji_gate" ⟨core.status,core.decisionStatus,core.rejectionReason,core.reasons ++ notes⟩
  { status := standing.status
    decisionStatus := standing.decisionStatus
    rejectionReason := standing.rejectionReason
    rejection := if standing.decisionStatus = .deny then some ⟨selectFujiCode core.violations core.info,resolveTrustLogId ctx⟩ else none
    reasons := standing.reasons
    violations := core.violations
    risk := world.round3 core.risk
    checks := gateChecks world evidence request head core
    guidance := core.guidance
    followups := gateFollowups text ctx request core
    info := ⟨core.info,request.enforceLowEvidence,world.latencyMs,judgmentSource head,llmAvailable head⟩ }

def fujiGate (text : String) (context : Option Dict) (evidence : Option (List Value)) (alternatives : List Value) : Except Exc (GateResult K) := do
  let ctx := context.getD []
  let request ← requestOf world ctx evidence
  let head ← runSafetyHead (headWorld world) text ctx alternatives
  let core ← fujiCoreDecide world.core (coreCall world text request head)
  let notes ← trustNotes world
  return gateResult world text ctx evidence request head core notes

inductive V1Status where
  | ok | modify | rejected
deriving DecidableEq

structure V1Result (K : Type) where
  status : V1Status
  reasons : List String
  violations : List String
  risk : K
  modifications : List Value
  safeInstructions : String

def toText : Value → String
  | .none => ""
  | .str s => s
  | .dict members =>
    let found := ["query","title","text","description","prompt"].findSome? fun name =>
      match Dict.get members name with
      | .str s => if s = "" then none else some s
      | _ => none
    found.getD (Value.dict members).text
  | other => other.text

def v1Status (status : InternalStatus) (decisionStatus : DecisionStatus) : V1Status :=
  if decisionStatus = .allow then .ok
  else if decisionStatus = .deny ∨ status = .deny then .rejected
  else .modify

def validateAction (actionText : Value) (context : Option Dict) : Except Exc (V1Result K) := do
  let res ← fujiGate world (toText actionText) context none []
  return ⟨v1Status res.status res.decisionStatus,res.reasons,res.violations,res.risk,res.followups,res.guidance.getD ""⟩

end Gate

section Answers
variable {K : Type} [Field K] [LinearOrder K] {world : GateWorld K}

theorem gateResult_status (agrees : core.status = .deny ↔ core.decisionStatus = .deny) :
    (gateResult world text ctx evidence request head core notes).status = core.status ∧
      (gateResult world text ctx evidence request head core notes).decisionStatus = core.decisionStatus :=
  enforceInvariants_status "invariant_fix@fuji_gate" ⟨core.status,core.decisionStatus,core.rejectionReason,core.reasons ++ notes⟩ agrees

theorem fujiGate_parts (gated : fujiGate world text context evidence alternatives = .ok res) :
    ∃ request head core, requestOf world (context.getD []) evidence = .ok request ∧
      runSafetyHead (headWorld world) text (context.getD []) alternatives = .ok head ∧
      fujiCoreDecide world.core (coreCall world text request head) = .ok core ∧
      res.status = core.status ∧ res.decisionStatus = core.decisionStatus := by
  unfold fujiGate at gated
  obtain ⟨request,asked,gated⟩ := bind_ok.mp gated
  obtain ⟨head,judged,gated⟩ := bind_ok.mp gated
  obtain ⟨core,decided,gated⟩ := bind_ok.mp gated
  obtain ⟨notes,_,gated⟩ := bind_ok.mp gated
  cases gated
  exact ⟨request,head,core,asked,judged,decided,gateResult_status (core_agrees decided)⟩

theorem v1Status_exact (status : InternalStatus) (decisionStatus : DecisionStatus) (agrees : status = .deny ↔ decisionStatus = .deny) :
    (v1Status status decisionStatus = .ok ↔ decisionStatus = .allow) ∧ (v1Status status decisionStatus = .rejected ↔ decisionStatus = .deny) := by
  cases decisionStatus with
  | allow => simp [v1Status]
  | deny => simp [v1Status]
  | hold =>
    have other : status ≠ .deny := fun denied => nomatch agrees.mp denied
    simp [v1Status,other]

structure Validated (world : GateWorld K) (actionText : Value) (context : Option Dict) (request : Request K) (head : SafetyHeadResult K)
    (ready : Prepared K) (verdict : PolicyResult K) (core : FujiDecision K) (answer : V1Result K) : Prop where
  asked : requestOf world (context.getD []) none = .ok request
  judged : runSafetyHead (headWorld world) (toText actionText) (context.getD []) [] = .ok head
  passed : Passed world.core (coreCall world (toText actionText) request head) ready verdict core
  answered : validateAction world actionText context = .ok answer

theorem validated_status (validated : Validated world actionText context request head ready verdict core answer) :
    (answer.status = .ok ↔ core.decisionStatus = .allow) ∧ (answer.status = .rejected ↔ core.decisionStatus = .deny) := by
  have answered := validated.answered
  unfold validateAction at answered
  obtain ⟨res,gated,answered⟩ := bind_ok.mp answered
  cases answered
  obtain ⟨request',head',core',asked,judged,decided,status,decision⟩ := fujiGate_parts gated
  cases validated.asked.symm.trans asked
  cases validated.judged.symm.trans judged
  cases validated.passed.decided.symm.trans decided
  rw [status,decision]
  exact v1Status_exact _ _ (core_agrees decided)

theorem verdict_kept :
    (∀ (world : CoreWorld K) (call : CoreCall K) (ready : Prepared K) (verdict : PolicyResult K) (result : FujiDecision K),
      Passed world call ready verdict result →
      (verdict.decisionStatus.severity ≤ result.decisionStatus.severity ↔ ¬Relaxed call ready verdict)) ∧
    (∀ (world : GateWorld K) (actionText : Value) (context : Option Dict) (request : Request K) (head : SafetyHeadResult K)
      (ready : Prepared K) (verdict : PolicyResult K) (core : FujiDecision K) (answer : V1Result K),
      Validated world actionText context request head ready verdict core answer →
      ((answer.status = .ok → core.decisionStatus = .allow) ∧ (verdict.decisionStatus = .deny → answer.status = .rejected) ↔
        ¬Relaxed (coreCall world (toText actionText) request head) ready verdict)) := by
  constructor
  · intro world call ready verdict result passed
    rw [passed_status passed]
    exact gated_severity call ready verdict
  · intro world actionText context request head ready verdict core answer validated
    obtain ⟨accepted,rejected⟩ := validated_status validated
    rw [rejected,passed_status validated.passed,← gated_denies]
    exact ⟨And.right,fun denies => ⟨fun ok => by rw [← passed_status validated.passed]; exact accepted.mp ok,denies⟩⟩

end Answers

def toldVerdicts (world : CoreWorld ℚ) (call : CoreCall ℚ) : Option (DecisionStatus × DecisionStatus) := do
  let ready ← (prepare world call).toOption
  let verdict ← (applyPolicy world.reading ready.policy ready.risk ready.assessment.categories call.stakes).toOption
  let result ← (fujiCoreDecide world call).toOption
  return (verdict.decisionStatus,result.decisionStatus)

theorem passed_told (told : toldVerdicts world call = some (said,decided)) :
    ∃ ready verdict result, Passed world call ready verdict result ∧ verdict.decisionStatus = said ∧ result.decisionStatus = decided := by
  unfold toldVerdicts at told
  obtain ⟨ready,prepared,told⟩ := Option.bind_eq_some_iff.mp told
  obtain ⟨verdict,answered,told⟩ := Option.bind_eq_some_iff.mp told
  obtain ⟨result,concluded,told⟩ := Option.bind_eq_some_iff.mp told
  cases told
  exact ⟨ready,verdict,result,⟨toOption_some prepared,toOption_some answered,toOption_some concluded⟩,rfl,rfl⟩

def harmlessCall (pocMode : Bool) : CoreCall ℚ where
  safetyHead := some ⟨.number (.finite (1 / 10)),[],"","llm_safety",[]⟩
  stakes := .finite (1 / 2)
  telosScore := .finite (1 / 2)
  evidenceCount := 0
  policy := none
  safeApplied := false
  minEvidence := 1
  text := "order lunch"
  pocMode := pocMode

-- The policy that denies everything is softened to a hold.
theorem gate_softens_denial :
    ¬∀ (world : CoreWorld ℚ) (call : CoreCall ℚ) (ready : Prepared ℚ) (verdict : PolicyResult ℚ) (result : FujiDecision ℚ),
      Passed world call ready verdict result → verdict.decisionStatus.severity ≤ result.decisionStatus.severity := by
  intro kept
  obtain ⟨ready,verdict,result,passed,said,decided⟩ :=
    passed_told (show toldVerdicts (sampleCore strictDenyPolicy) (harmlessCall true) = some (.deny,.hold) by decide +kernel)
  have le := kept _ _ _ _ _ passed
  rw [said,decided] at le
  exact absurd le (by decide)

theorem verdict_kept_sample : ∃ ready verdict result, Passed (sampleCore strictDenyPolicy) (harmlessCall false) ready verdict result ∧
      (verdict.decisionStatus.severity ≤ result.decisionStatus.severity ↔ ¬Relaxed (harmlessCall false) ready verdict) := by
  obtain ⟨ready,verdict,result,passed,_⟩ :=
    passed_told (show toldVerdicts (sampleCore strictDenyPolicy) (harmlessCall false) = some (.deny,.deny) by decide +kernel)
  exact ⟨ready,verdict,result,passed,verdict_kept.1 _ _ _ _ _ passed⟩

end VeritasOs.FujiGate
