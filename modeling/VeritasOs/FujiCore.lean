import VeritasOs.FujiSafetyHead
import Mathlib.Tactic.Linarith

namespace VeritasOs.FujiGate
open Text JsonText BindArtifacts PolicyBundle FujiPolicy

inductive RiskScore (K : Type) where
  | number (x : Score K)
  | value (x : Value)

structure FujiConfig (K : Type) where
  defaultMinEvidence : Int
  pocMode : Bool
  piiSafeRiskCap : Score K
  lowEvidenceRiskPenalty : Score K
  telosRiskScaleFactor : Score K

structure CoreWorld (K : Type) where
  reading : Reading K
  detection : Detection K
  config : FujiConfig K
  strictMode : Bool
  policy : Dict

structure CoreCall (K : Type) where
  safetyHead : Option (SafetyHeadResult (RiskScore K))
  stakes : Score K
  telosScore : Score K
  evidenceCount : Int
  policy : Option Dict
  safeApplied : Bool
  minEvidence : Int
  text : String
  pocMode : Bool

def CoreCall.lowEvidence (call : CoreCall K) : Bool := decide (call.evidenceCount < call.minEvidence)

structure Assessment (K : Type) where
  risk : Score K
  categories : List String
  reasons : List String
  guidance : String

def rstrip (s : String) : String := String.ofList (s.toList.rdropWhile isSpace)

-- Exact on ASCII and on the letter outside ASCII whose upper case is an I.
def upper (s : String) : String := String.ofList (s.toList.map fun c => if c.toNat = 0x131 then 'I' else c.toUpper)

section Stages
variable {K : Type} [Field K] [LinearOrder K]

def SafetyHeadResult.number (head : SafetyHeadResult K) : SafetyHeadResult (RiskScore K) :=
  { head with riskScore := .number (.finite head.riskScore) }

def headRisk (reading : Reading K) : RiskScore K → Except Exc K
  | .number (.finite x) => .ok x
  | .number _ => .ok 1
  | .value .none => .ok riskBaseline
  | .value x =>
    match toFloat reading x with
    | .ok (.finite risk) => .ok risk
    | .ok _ => .ok 1
    | .error error => if wrongNumber error then .ok riskBaseline else .error error

def riskAdjustment (reading : Reading K) (policy : Dict) (name : String) (default : K) : Except Exc K := do
  let adjustments ← section_ policy "risk_adjustments"
  return safeFloat reading (adjustments.get name) default

def injectionStage (reading : Reading K) (policy : Dict) (score : Score K) (signals : List String) (a : Assessment K) :
    Except Exc (Assessment K) :=
  if Score.less (.finite 0) score then do
    let weight ← riskAdjustment reading policy "injection_weight" (3 / 20)
    return { a with
      risk := .least (.finite 1) (a.risk.plus (.times (.finite weight) score))
      categories := a.categories ++ ["prompt_injection"]
      reasons := a.reasons ++ ["prompt_injection_score=" ++ reading.fixed 2 score] ++
        if signals.isEmpty then [] else ["prompt_injection_signals=" ++ ",".intercalate (sortedTexts signals)] }
  else .ok a

-- The least risk of what the deterministic layer found, with the reasons it gave.
def raiseTo (floor : K) (reason : String) (found : Bool) (state : Score K × List String) : Score K × List String :=
  if found && state.1.less (.finite floor) then (.finite floor,state.2 ++ [reason]) else state

def riskFloorIllicit : K := 7 / 10
def riskFloorSelfHarm : K := 4 / 5
def riskFloorPiiUnmasked : K := 1 / 2
def riskDenyThreshold : K := 7 / 10

def isLlmFallback (raw : Dict) : Bool := (raw.get "llm_fallback").truthy || (raw.get "fallback").truthy

def unavailablePenalty (raw : Dict) (categories : List String) (state : Score K × List String) : Score K × List String :=
  if isLlmFallback raw && (categories.any fun c => c ≠ "safety_head_error" && c ≠ "low_evidence") then
    (.least (.finite 1) (state.1.plus (.finite (1 / 5))),state.2 ++ ["deterministic_llm_unavailable_penalty"])
  else state

def deterministicStage (safeApplied : Bool) (raw : Dict) (a : Assessment K) : Assessment K :=
  let illicit := raiseTo riskFloorIllicit "deterministic_illicit_floor=0.7" (a.categories.contains "illicit") (a.risk,[])
  let selfHarm := raiseTo riskFloorSelfHarm "deterministic_self_harm_floor=0.8" (a.categories.contains "self_harm") illicit
  let pii := raiseTo riskFloorPiiUnmasked "deterministic_pii_floor=0.5" (a.categories.contains "PII" && !safeApplied) selfHarm
  let state := unavailablePenalty raw a.categories pii
  { a with
    risk := state.1
    reasons := a.reasons ++ state.2
    guidance := if state.2.isEmpty then a.guidance
      else rstrip a.guidance ++ "\n\n[Deterministic Safety Layer] " ++ "; ".intercalate state.2 }

def hitName : Value → Option String
  | .str h => some (lower (strip h))
  | .dict h =>
    ["kind","type","name"].findSome? fun k =>
      match Dict.get h k with
      | .str v => if strip v = "" then none else some (lower (strip v))
      | _ => none
  | _ => none

def hitNames (raw : Dict) : List String :=
  match raw.get "pii_hits" with
  | .list hits => hits.filterMap hitName
  | .str hit => if strip hit = "" then [] else [lower (strip hit)]
  | _ => []

def strongPii (head : SafetyHeadResult R) : Bool :=
  (hitNames head.raw).any (["phone","email","address"].contains ·) ||
    ["phone","email","address","電話","メール","住所","@"].any (hasSub · (lower head.rationale))

def nameLikeOnly (head : SafetyHeadResult R) : Bool :=
  head.model == "heuristic_fallback" && !strongPii head &&
    ((!(hitNames head.raw).isEmpty && (hitNames head.raw).all (· == "name_like")) || hasSub "name_like" (lower head.rationale))

def nameLikeStage (reading : Reading K) (policy : Dict) (head : SafetyHeadResult R) (a : Assessment K) : Except Exc (Assessment K) :=
  if nameLikeOnly head then do
    let cap ← riskAdjustment reading policy "name_like_only_cap" (1 / 5)
    return {
      risk := a.risk.least (.finite cap)
      categories := a.categories.filter fun c => upper c ≠ "PII"
      reasons := a.reasons ++ ["fallback_pii_ignored(name_like_only)"]
      guidance := "heuristic_fallback の name_like 検出は日本語テキストで誤検出が多いため、" ++ "name_like-only の場合は PII として扱わずリスクを抑制しました。" }
  else .ok a

def isPii (category : String) : Bool := ["pii","pii_exposure"].contains (lower category)

def piiSafeStage (config : FujiConfig K) (safeApplied : Bool) (a : Assessment K) : Assessment K :=
  if safeApplied && a.categories.any isPii then
    { a with
      risk := a.risk.least config.piiSafeRiskCap
      categories := a.categories.filter fun c => !isPii c
      reasons := a.reasons ++ ["pii_safe_applied"] }
  else a

def lowEvidenceNote : String := "エビデンスが不足している可能性があります"

def lowEvidenceStage (config : FujiConfig K) (call : CoreCall K) (a : Assessment K) : Assessment K :=
  if call.lowEvidence then
    { risk := .least (.finite 1) (a.risk.plus config.lowEvidenceRiskPenalty)
      categories := a.categories ++ ["low_evidence"]
      reasons := a.reasons ++ ["low_evidence(" ++ intStr call.evidenceCount ++ "/" ++ intStr call.minEvidence ++ ")"]
      guidance := if hasSub lowEvidenceNote a.guidance then a.guidance
        else rstrip a.guidance ++ (if rstrip a.guidance = "" then "" else "\n\n") ++ lowEvidenceNote }
  else a

def telosScaled (config : FujiConfig K) (telosScore risk : Score K) : K :=
  Score.clamp (risk.times (Score.plus (.finite 1) (config.telosRiskScaleFactor.times (.finite telosScore.clip))))

structure Prepared (K : Type) where
  head : SafetyHeadResult (RiskScore K)
  policy : Dict
  injection : Score K × List String
  assessment : Assessment K
  risk : K

def headOf (world : CoreWorld K) (call : CoreCall K) : Except Exc (SafetyHeadResult (RiskScore K)) :=
  match call.safetyHead with
  | some head => .ok head
  | none => (fallbackSafetyHead world.detection world.policy call.text).map SafetyHeadResult.number

def policyOf (world : CoreWorld K) (call : CoreCall K) : Dict :=
  match call.policy with
  | some (entry :: rest) => entry :: rest
  | _ => world.policy

def assess (world : CoreWorld K) (call : CoreCall K) (head : SafetyHeadResult (RiskScore K)) (risk : K) : Except Exc (Assessment K) := do
  let injection := detectPromptInjection world.detection call.text
  let injected ← injectionStage world.reading (policyOf world call) injection.1 injection.2 ⟨.finite risk,head.categories,[],head.rationale⟩
  let capped ← nameLikeStage world.reading (policyOf world call) head (deterministicStage call.safeApplied head.raw injected)
  return lowEvidenceStage world.config call (piiSafeStage world.config call.safeApplied capped)

def prepare (world : CoreWorld K) (call : CoreCall K) : Except Exc (Prepared K) := do
  let head ← headOf world call
  let risk ← headRisk world.reading head.riskScore
  let assessment ← assess world call head risk
  return ⟨head,policyOf world call,detectPromptInjection world.detection call.text,assessment,
    telosScaled world.config call.telosScore assessment.risk⟩

end Stages

structure FujiMeta (K : Type) where
  policyVersion : Value
  safetyHeadModel : String
  safeApplied : Bool
  pocMode : Bool
  lowEvidence : Bool
  evidenceCount : Int
  minEvidence : Int
  policyActionPrePoc : Option String
  finalGate : Option String
  policyEvalException : Bool
  injection : Score K × List String

structure FujiDecision (K : Type) where
  status : InternalStatus
  decisionStatus : DecisionStatus
  rejectionReason : Option String
  reasons : List String
  violations : List String
  violationDetails : List (ViolationDetail K)
  risk : K
  guidance : Option String
  policyVersion : Value
  followups : List Value
  info : FujiMeta K

def riskyKeywordsPoc : List String :=
  ["法務","契約","労働","規制","コンプライアンス","金融","融資","投資","医療","診断","個人情報","マイナンバー","セキュリティ","脆弱性","攻撃","ハッキング","監査","不正","犯罪","詐欺"]

def followup (kind title detail : String) (content : Value) : Value :=
  .dict [field "type" (.str kind),field "title" (.str title),field detail content]

def buildFollowups (text scope : String) : List Value :=
  let hint := if strip scope = "" then "" else " / hint: " ++ strip scope
  [.dict [field "type" (.str "web_search"),field "title" (.str "一次ソースで裏取り（独立ソース2件以上）"),
     field "query" (.str (strip text)),field "acceptance" (.str "公式/一次情報 + 信頼できる独立ソースの2件以上")],
   followup "clarify" "前提条件の確認（PoC要件）" "questions" (texts
     ["PoCのゴール（監査ログ/意思決定支援/安全ゲート）の最優先は？","評価指標（正確性/再現性/説明可能性/速度）の優先順位は？","この判断のスコープ（対象業務・対象期間・制約）は？" ++ hint]),
   followup "evidence_request" "追加エビデンス投入（社内ルール/要件）" "items" (texts
     ["PoC要件定義（対象業務、判断ポイント、想定入力/出力）","セキュリティ/法務制約（禁止事項・承認フロー・保管要件）","成功条件（KPI、合格ライン、評価手順）"])]

def pocNote : String :=
  "\n\n[PoC Gate] エビデンス不足のため、判断を確定せず「追加調査/前提確認」を要求します。（監査上、“止める/補う”を優先）"

def policyActionMark : String := "policy_action="

-- The policy's action: its own field, or what its reasons say of it.
def extractPolicyAction (action : Key) (reasons : List String) : Option String :=
  match action with
  | .str text => if text = "" then fromReasons else some text
  | _ => fromReasons
where
  fromReasons := (reasons.find? (startsWith policyActionMark ·)).map fun reason =>
    strip (before ',' (String.ofList (reason.toList.drop policyActionMark.length)))

def markFinalGate (action : Option String) (finalGate : String) (reasons : List String) : List String :=
  let named := action.filter fun text => text ≠ ""
  let mark := "policy_action_pre_poc=" ++ named.getD "unknown"
  let marked := match reasons.findIdx? (startsWith policyActionMark ·) with
    | some i => reasons.set i mark
    | none => reasons ++ [mark]
  marked ++ ["final_gate=" ++ finalGate]

section Decide
variable {K : Type} [Field K] [LinearOrder K]

def isHighRiskContext (risk : K) (stakes : Score K) (categories : List String) (text : String) : Bool :=
  (Score.finite (7 / 10)).atMost stakes || decide (riskDenyThreshold ≤ risk) ||
    (categories.any fun c => ["self_harm","illicit","violence","minors","pii"].contains (lower (strip c))) ||
    riskyKeywordsPoc.any (hasSub · text)

structure Standing where
  status : InternalStatus
  decisionStatus : DecisionStatus
  rejectionReason : Option String
  reasons : List String

def enforceInvariants (note : String) (standing : Standing) : Standing :=
  let coerced := if standing.status = .deny ∧ standing.decisionStatus ≠ .deny then
      { standing with decisionStatus := .deny, rejectionReason := standing.rejectionReason.or (some "policy_deny_coerce"),
                      reasons := standing.reasons ++ [note ++ ": deny=>deny"] }
    else standing
  let reasoned := if coerced.decisionStatus = .deny ∧ coerced.rejectionReason = none then
      { coerced with rejectionReason := some "policy_or_poc_gate_deny", reasons := coerced.reasons ++ [note ++ ": deny needs rejection_reason"] }
    else coerced
  if reasoned.decisionStatus = .deny then reasoned else { reasoned with rejectionReason := none }

-- Low evidence in PoC mode: a denial where the context is of high risk, a hold everywhere else.
def pocGate (high : Bool) (action : Option String) (reasons : List String) : Standing × String :=
  if high then
    (⟨.deny,.deny,some "poc_low_evidence_high_risk",
      markFinalGate action "poc_low_evidence_high_risk_deny" (reasons ++ ["poc_low_evidence_high_risk -> deny"])⟩,
     "poc_low_evidence_high_risk_deny")
  else
    (⟨.needsHumanReview,.hold,none,markFinalGate action "poc_low_evidence_hold" (reasons ++ ["poc_low_evidence -> hold"])⟩,
     "poc_low_evidence_hold")

def highRisk (call : CoreCall K) (ready : Prepared K) (risk : K) : Bool :=
  isHighRiskContext risk call.stakes (ready.assessment.categories ++ ready.head.categories) call.text

def conclude (call : CoreCall K) (ready : Prepared K) (verdict : PolicyResult K) : FujiDecision K :=
  let reasons := ready.assessment.reasons ++ verdict.reasons
  let action := extractPolicyAction verdict.policyAction reasons
  let gated := call.pocMode && call.lowEvidence
  let gate := pocGate (highRisk call ready verdict.risk) action reasons
  let standing := enforceInvariants "invariant_fix" (if gated then gate.1 else ⟨verdict.status,verdict.decisionStatus,none,reasons⟩)
  let guidance := if gated then rstrip ready.assessment.guidance ++ pocNote else ready.assessment.guidance
  { status := standing.status
    decisionStatus := standing.decisionStatus
    rejectionReason := standing.rejectionReason
    reasons := standing.reasons
    violations := verdict.violations
    violationDetails := verdict.violationDetails
    risk := verdict.risk
    guidance := if guidance = "" then none else some guidance
    policyVersion := verdict.policyVersion
    followups := if gated then buildFollowups call.text "" else []
    info := {
      policyVersion := verdict.policyVersion
      safetyHeadModel := ready.head.model
      safeApplied := call.safeApplied
      pocMode := call.pocMode
      lowEvidence := call.lowEvidence
      evidenceCount := call.evidenceCount
      minEvidence := call.minEvidence
      policyActionPrePoc := action
      finalGate := if gated then some gate.2 else none
      policyEvalException := false
      injection := (ready.injection.1,sortedTexts ready.injection.2) } }

def kindName : ExcKind → String
  | .osError => "OSError"
  | .typeError => "TypeError"
  | .valueError => "ValueError"
  | .runtimeError => "RuntimeError"
  | .keyError => "KeyError"
  | .attributeError => "AttributeError"
  | .overflowError => "OverflowError"
  | .other => "Exception"

def versionOf (policy : Dict) : Value := policy.getD "version" (.str "fuji_v2_unknown")

def evaluatorDenial (call : CoreCall K) (ready : Prepared K) (error : Exc) : FujiDecision K where
  status := .deny
  decisionStatus := .deny
  rejectionReason := some "policy_evaluator_exception"
  reasons := ["policy_evaluator_exception","policy_eval_exception_type=" ++ kindName error.kind]
  violations := ["compliance_evaluator_exception"]
  violationDetails := []
  risk := 1
  guidance := some "policy evaluator exception in strict mode"
  policyVersion := versionOf ready.policy
  followups := []
  info := {
    policyVersion := versionOf ready.policy
    safetyHeadModel := ready.head.model
    safeApplied := call.safeApplied
    pocMode := call.pocMode
    lowEvidence := call.lowEvidence
    evidenceCount := call.evidenceCount
    minEvidence := call.minEvidence
    policyActionPrePoc := none
    finalGate := none
    policyEvalException := true
    injection := (ready.injection.1,sortedTexts ready.injection.2) }

def evaluatorReview (ready : Prepared K) (error : Exc) : PolicyResult K where
  policyAction := .str "human_review"
  status := .needsHumanReview
  decisionStatus := .hold
  reasons := ["policy_eval_exception_non_strict=" ++ kindName error.kind]
  violations := ["safety_head_error"]
  violationDetails := []
  risk := min 1 (max ready.risk riskDenyThreshold)
  policyVersion := versionOf ready.policy

def evaluatorError (error : Exc) : Bool := wrongNumber error || error.kind = .runtimeError

def fujiCoreDecide (world : CoreWorld K) (call : CoreCall K) : Except Exc (FujiDecision K) := do
  let ready ← prepare world call
  match applyPolicy world.reading ready.policy ready.risk ready.assessment.categories call.stakes with
  | .ok verdict => return conclude call ready verdict
  | .error error =>
    if evaluatorError error then
      if world.strictMode then return evaluatorDenial call ready error
      else return conclude call ready (evaluatorReview ready error)
    else .error error

end Decide

section Kept
variable {K : Type} [Field K] [LinearOrder K]

theorem statusOf_deny (action : Key) : (statusOf action).1 = .deny ↔ (statusOf action).2 = .deny := by
  unfold statusOf
  split
  · decide
  · split
    · decide
    · split <;> decide

theorem verdict_agrees {reading : Reading K} {policy : Dict} {risk : K} {categories : List String} {stakes : Score K} {verdict : PolicyResult K}
    (said : applyPolicy reading policy risk categories stakes = .ok verdict) : verdict.status = .deny ↔ verdict.decisionStatus = .deny := by
  unfold applyPolicy at said
  obtain ⟨threshold,_,said⟩ := bind_ok.mp said
  obtain ⟨details,_,said⟩ := bind_ok.mp said
  obtain ⟨precedence,_,said⟩ := bind_ok.mp said
  obtain ⟨action,_,said⟩ := bind_ok.mp said
  cases said
  exact statusOf_deny action

theorem enforceInvariants_status (note : String) (standing : Standing) (agrees : standing.status = .deny ↔ standing.decisionStatus = .deny) :
    (enforceInvariants note standing).status = standing.status ∧
      (enforceInvariants note standing).decisionStatus = standing.decisionStatus := by
  have coerced : ¬(standing.status = .deny ∧ standing.decisionStatus ≠ .deny) := fun apart => apart.2 (agrees.mp apart.1)
  unfold enforceInvariants
  simp only [if_neg coerced]
  by_cases bare : standing.decisionStatus = .deny ∧ standing.rejectionReason = none
  · simp only [if_pos bare]
    split <;> exact ⟨rfl,rfl⟩
  · simp only [if_neg bare]
    split <;> exact ⟨rfl,rfl⟩

def gatedStatus (call : CoreCall K) (ready : Prepared K) (verdict : PolicyResult K) : DecisionStatus :=
  if call.pocMode && call.lowEvidence then (if highRisk call ready verdict.risk then .deny else .hold) else verdict.decisionStatus

theorem conclude_status (call : CoreCall K) (ready : Prepared K) (verdict : PolicyResult K)
    (agrees : verdict.status = .deny ↔ verdict.decisionStatus = .deny) :
    (conclude call ready verdict).decisionStatus = gatedStatus call ready verdict ∧
      ((conclude call ready verdict).status = .deny ↔ (conclude call ready verdict).decisionStatus = .deny) := by
  unfold conclude gatedStatus pocGate
  dsimp only
  split
  · split
    · obtain ⟨status,decision⟩ := enforceInvariants_status "invariant_fix" ⟨.deny,.deny,_,_⟩ (iff_of_true rfl rfl)
      rw [status,decision]
      exact ⟨rfl,iff_of_true rfl rfl⟩
    · obtain ⟨status,decision⟩ := enforceInvariants_status "invariant_fix" ⟨.needsHumanReview,.hold,none,_⟩
        (iff_of_false (fun denied => nomatch denied) fun denied => nomatch denied)
      rw [status,decision]
      exact ⟨rfl,iff_of_false (fun denied => nomatch denied) fun denied => nomatch denied⟩
  · obtain ⟨status,decision⟩ := enforceInvariants_status "invariant_fix" ⟨verdict.status,verdict.decisionStatus,none,_⟩ agrees
    rw [status,decision]
    exact ⟨rfl,agrees⟩

structure Passed (world : CoreWorld K) (call : CoreCall K) (ready : Prepared K) (verdict : PolicyResult K) (result : FujiDecision K) : Prop where
  prepared : prepare world call = .ok ready
  said : applyPolicy world.reading ready.policy ready.risk ready.assessment.categories call.stakes = .ok verdict
  decided : fujiCoreDecide world call = .ok result

-- The gate for low evidence finds no high risk where the policy denies.
def Relaxed (call : CoreCall K) (ready : Prepared K) (verdict : PolicyResult K) : Prop :=
  verdict.decisionStatus = .deny ∧ call.pocMode = true ∧ call.lowEvidence = true ∧ highRisk call ready verdict.risk = false

variable {world : CoreWorld K} {call : CoreCall K} {ready : Prepared K} {verdict : PolicyResult K} {result : FujiDecision K}

theorem passed_result (passed : Passed world call ready verdict result) : result = conclude call ready verdict := by
  have decided := passed.decided
  unfold fujiCoreDecide at decided
  rw [passed.prepared] at decided
  change (match applyPolicy world.reading ready.policy ready.risk ready.assessment.categories call.stakes with
    | .ok verdict => _
    | .error error => _) = _ at decided
  rw [passed.said] at decided
  cases decided
  rfl

theorem passed_status (passed : Passed world call ready verdict result) : result.decisionStatus = gatedStatus call ready verdict := by
  rw [passed_result passed]
  exact (conclude_status call ready verdict (verdict_agrees passed.said)).1

theorem core_agrees (decided : fujiCoreDecide world call = .ok result) : result.status = .deny ↔ result.decisionStatus = .deny := by
  unfold fujiCoreDecide at decided
  obtain ⟨ready,_,decided⟩ := bind_ok.mp decided
  split at decided
  · rename_i verdict said
    cases decided
    exact (conclude_status call ready verdict (verdict_agrees said)).2
  · rename_i error _
    split at decided
    · split at decided
      · cases decided
        exact iff_of_true rfl rfl
      · cases decided
        exact (conclude_status call ready (evaluatorReview ready error)
          (iff_of_false (fun denied => nomatch denied) fun denied => nomatch denied)).2
    · cases decided

theorem severity_deny (status : DecisionStatus) : status.severity ≤ DecisionStatus.deny.severity := by cases status <;> decide

theorem gated_severity (call : CoreCall K) (ready : Prepared K) (verdict : PolicyResult K) :
    verdict.decisionStatus.severity ≤ (gatedStatus call ready verdict).severity ↔ ¬Relaxed call ready verdict := by
  unfold gatedStatus Relaxed
  by_cases gated : call.pocMode = true ∧ call.lowEvidence = true
  · rw [if_pos (Bool.and_eq_true_iff.mpr gated)]
    cases high : highRisk call ready verdict.risk with
    | true => simp [severity_deny]
    | false => cases status : verdict.decisionStatus <;> simp [gated,DecisionStatus.severity]
  · rw [if_neg (fun both => gated (Bool.and_eq_true_iff.mp both))]
    exact iff_of_true (le_refl _) fun ⟨_,poc,low,_⟩ => gated ⟨poc,low⟩

theorem gated_denies (call : CoreCall K) (ready : Prepared K) (verdict : PolicyResult K) :
    (verdict.decisionStatus = .deny → gatedStatus call ready verdict = .deny) ↔ ¬Relaxed call ready verdict := by
  unfold gatedStatus Relaxed
  by_cases gated : call.pocMode = true ∧ call.lowEvidence = true
  · rw [if_pos (Bool.and_eq_true_iff.mpr gated)]
    cases highRisk call ready verdict.risk <;> simp [gated]
  · rw [if_neg (fun both => gated (Bool.and_eq_true_iff.mp both))]
    exact iff_of_true id fun ⟨_,poc,low,_⟩ => gated ⟨poc,low⟩

end Kept

-- The floor that the deterministic layer promises for a category.
inductive FloorFor {K : Type} [Field K] (categories : List String) : K → Prop
  | illicit (found : "illicit" ∈ categories) : FloorFor categories riskFloorIllicit
  | selfHarm (found : "self_harm" ∈ categories) : FloorFor categories riskFloorSelfHarm

-- Settings that are numbers, with a penalty and a scale that are not negative.
structure ExactSettings {K : Type} [Field K] [LinearOrder K] (config : FujiConfig K) (penalty scale cap : K) : Prop where
  penalized : config.lowEvidenceRiskPenalty = .finite penalty
  scaled : config.telosRiskScaleFactor = .finite scale
  capped : config.piiSafeRiskCap = .finite cap
  penalty_nonneg : 0 ≤ penalty
  scale_nonneg : 0 ≤ scale

-- The cap for masked personal data applies: a category of personal data is left when it is reached.
def PiiReleased {K : Type} (call : CoreCall K) (head : SafetyHeadResult (RiskScore K)) : Prop :=
  call.safeApplied = true ∧ ∃ c ∈ head.categories, isPii c = true ∧ ¬(nameLikeOnly head = true ∧ upper c = "PII")

theorem released_exact {K : Type} {call : CoreCall K} {head : SafetyHeadResult (RiskScore K)} {found left : List String}
    (injected : found = head.categories ∨ found = head.categories ++ ["prompt_injection"])
    (filtered : (nameLikeOnly head = false ∧ left = found) ∨ (nameLikeOnly head = true ∧ left = found.filter fun c => upper c ≠ "PII")) :
    (call.safeApplied && left.any isPii) = true ↔ PiiReleased call head := by
  have extra : isPii "prompt_injection" = false := by decide
  have kept : left.any isPii = true ↔ ∃ c ∈ found, isPii c = true ∧ ¬(nameLikeOnly head = true ∧ upper c = "PII") := by
    rcases filtered with ⟨other,rfl⟩ | ⟨named,rfl⟩
    · simp [other]
    · simp [named,and_comm]
  unfold PiiReleased
  rw [Bool.and_eq_true,kept]
  rcases injected with rfl | rfl
  · exact Iff.rfl
  · simp [extra,or_and_right,exists_or]

section Floors
variable {K : Type} [Field K] [LinearOrder K]

-- What a risk comes to behind the caps, before it is brought back into [0,1].
def carried (penalty scale : K) (call : CoreCall K) (risk : K) : K :=
  (if call.lowEvidence then min 1 (risk + penalty) else risk) * (1 + scale * call.telosScore.clip)

theorem detected_capped (detection : Detection K) (text : String) :
    (detectPromptInjection detection text).1 = .finite 0 ∨ ∃ total, (detectPromptInjection detection text).1 = .least (.finite 1) total := by
  unfold detectPromptInjection
  split
  · exact .inl rfl
  · dsimp only
    exact .inr ⟨_,rfl⟩

theorem detected_finite {detection : Detection K} {text : String} (found : Score.less (.finite 0) (detectPromptInjection detection text).1 = true) :
    ∃ x, (detectPromptInjection detection text).1 = .finite x := by
  rcases detected_capped detection text with none | ⟨total,capped⟩
  · exact ⟨0,none⟩
  · rw [capped] at found ⊢
    exact Score.least_between found

variable {risk : K} {a : Assessment K}

theorem injectionStage_finite {reading : Reading K} {policy : Dict} {detection : Detection K} {text : String} {signals : List String}
    {next : Assessment K} (start : a.risk = .finite risk)
    (staged : injectionStage reading policy (detectPromptInjection detection text).1 signals a = .ok next) :
    (∃ r, next.risk = .finite r) ∧ (next.categories = a.categories ∨ next.categories = a.categories ++ ["prompt_injection"]) := by
  unfold injectionStage at staged
  split at staged
  · rename_i found
    obtain ⟨x,score⟩ := detected_finite found
    obtain ⟨weight,_,staged⟩ := bind_ok.mp staged
    cases staged
    refine ⟨⟨min 1 (risk + weight * x),?_⟩,.inr rfl⟩
    dsimp only
    rw [start,score]
    simp
  · cases staged
    exact ⟨⟨risk,start⟩,.inl rfl⟩

omit [Field K] in
theorem raiseTo_raises (floor : K) (reason : String) (found : Bool) (state : Score K × List String) (here : state.1 = .finite risk) :
    ∃ r, (raiseTo floor reason found state).1 = .finite r ∧ risk ≤ r ∧ (found = true → floor ≤ r) := by
  unfold raiseTo
  rw [here,Score.less_finite]
  cases found with
  | false => exact ⟨risk,here,le_refl _,fun none => nomatch none⟩
  | true =>
    by_cases below : risk < floor
    · simp only [below,decide_true,Bool.and_self,if_true]
      exact ⟨floor,rfl,below.le,fun _ => le_refl _⟩
    · simp only [below,decide_false,Bool.and_false,Bool.false_eq_true,if_false]
      exact ⟨risk,here,le_refl _,fun _ => not_lt.mp below⟩

theorem nameLikeStage_caps {reading : Reading K} {policy : Dict} {head : SafetyHeadResult R} {next : Assessment K}
    (start : a.risk = .finite risk) (staged : nameLikeStage reading policy head a = .ok next) : (nameLikeOnly head = false ∧ next = a) ∨
      (nameLikeOnly head = true ∧ ∃ cap, riskAdjustment reading policy "name_like_only_cap" (1 / 5) = .ok cap ∧
        next.risk = .finite (min risk cap) ∧ next.categories = a.categories.filter fun c => upper c ≠ "PII") := by
  unfold nameLikeStage at staged
  split at staged
  · rename_i named
    obtain ⟨cap,read,staged⟩ := bind_ok.mp staged
    cases staged
    exact .inr ⟨named,cap,read,by dsimp only; rw [start,Score.least_finite],rfl⟩
  · rename_i other
    cases staged
    exact .inl ⟨Bool.eq_false_iff.mpr other,rfl⟩

theorem piiSafeStage_caps (exact_ : ExactSettings config penalty scale cap) (safeApplied : Bool) (start : a.risk = .finite risk) :
    (piiSafeStage config safeApplied a).risk = .finite (if safeApplied && a.categories.any isPii then min risk cap else risk) := by
  unfold piiSafeStage
  split
  · dsimp only
    rw [start,exact_.capped,Score.least_finite]
  · exact start

theorem carried_exact (exact_ : ExactSettings config penalty scale cap) (call : CoreCall K) (start : a.risk = .finite risk) :
    telosScaled config call.telosScore (lowEvidenceStage config call a).risk = min 1 (max 0 (carried penalty scale call risk)) := by
  have lifted : (lowEvidenceStage config call a).risk = .finite (if call.lowEvidence then min 1 (risk + penalty) else risk) := by
    unfold lowEvidenceStage
    split
    · dsimp only
      rw [start,exact_.penalized,Score.plus_finite,Score.least_finite]
    · exact start
  unfold telosScaled carried
  rw [lifted,exact_.scaled]
  simp only [Score.times_finite,Score.plus_finite,Score.clamp]

section Raised
variable [IsStrictOrderedRing K]

variable {floor risk penalty scale : K}

theorem floor_bounds {categories : List String} (floored : FloorFor categories floor) : 0 < floor ∧ floor ≤ 1 := by
  cases floored with
  | illicit _ => unfold riskFloorIllicit; constructor <;> norm_num
  | selfHarm _ => unfold riskFloorSelfHarm; constructor <;> norm_num

theorem unavailablePenalty_raises (raw : Dict) (categories : List String)
    (here : state.1 = .finite risk) (reached : bound ≤ risk) (small : bound ≤ 1) :
    ∃ r, (unavailablePenalty raw categories state).1 = .finite r ∧ bound ≤ r := by
  unfold unavailablePenalty
  split
  · refine ⟨min 1 (risk + 1 / 5),?_,le_min small (reached.trans (le_add_of_nonneg_right (by norm_num)))⟩
    dsimp only
    rw [here,Score.plus_finite,Score.least_finite]
  · exact ⟨risk,here,reached⟩

theorem deterministicStage_floor (safeApplied : Bool) (raw : Dict) {a : Assessment K} (start : a.risk = .finite risk)
    (floored : FloorFor a.categories floor) : ∃ r, (deterministicStage safeApplied raw a).risk = .finite r ∧ floor ≤ r := by
  obtain ⟨first,one,_,illicit⟩ := raiseTo_raises riskFloorIllicit "deterministic_illicit_floor=0.7" (a.categories.contains "illicit")
    (a.risk,[]) start
  obtain ⟨second,two,rising,selfHarm⟩ := raiseTo_raises riskFloorSelfHarm "deterministic_self_harm_floor=0.8"
    (a.categories.contains "self_harm") _ one
  obtain ⟨third,three,risen,_⟩ := raiseTo_raises riskFloorPiiUnmasked "deterministic_pii_floor=0.5"
    (a.categories.contains "PII" && !safeApplied) _ two
  have reached : floor ≤ second := by
    cases floored with
    | illicit found => exact (illicit (List.contains_iff_mem.mpr found)).trans rising
    | selfHarm found => exact selfHarm (List.contains_iff_mem.mpr found)
  exact unavailablePenalty_raises raw a.categories three (reached.trans risen) (floor_bounds floored).2

omit [IsStrictOrderedRing K] in
theorem within_unit (positive : 0 < floor) (small : floor ≤ 1) : floor ≤ min 1 (max 0 x) ↔ floor ≤ x := by
  rw [le_min_iff,le_max_iff]
  exact ⟨fun ⟨_,either⟩ => either.resolve_left (not_le.mpr positive),fun reached => ⟨small,.inr reached⟩⟩

theorem carried_mono (scale_nonneg : 0 ≤ scale) (call : CoreCall K) (below : low ≤ high) :
    carried penalty scale call low ≤ carried penalty scale call high := by
  have factor : 0 ≤ 1 + scale * call.telosScore.clip :=
    add_nonneg zero_le_one (mul_nonneg scale_nonneg call.telosScore.clip_bounds.1)
  unfold carried
  refine mul_le_mul_of_nonneg_right ?_ factor
  split
  · exact min_le_min (le_refl 1) (by linarith)
  · exact below

theorem carried_min (scale_nonneg : 0 ≤ scale) (call : CoreCall K) (risk cap : K) :
    floor ≤ carried penalty scale call (min risk cap) ↔ floor ≤ carried penalty scale call risk ∧ floor ≤ carried penalty scale call cap := by
  constructor
  · intro reached
    exact ⟨reached.trans (carried_mono scale_nonneg call (min_le_left _ _)),reached.trans (carried_mono scale_nonneg call (min_le_right _ _))⟩
  · intro ⟨risky,capped⟩
    rcases min_choice risk cap with same | same <;> rw [same] <;> assumption

theorem carried_keeps (penalty_nonneg : 0 ≤ penalty) (scale_nonneg : 0 ≤ scale) (call : CoreCall K) (positive : 0 < floor)
    (small : floor ≤ 1) (reached : floor ≤ risk) : floor ≤ carried penalty scale call risk := by
  have factor : 1 ≤ 1 + scale * call.telosScore.clip :=
    le_add_of_nonneg_right (mul_nonneg scale_nonneg call.telosScore.clip_bounds.1)
  have lifted : floor ≤ if call.lowEvidence then min 1 (risk + penalty) else risk := by
    split
    · exact le_min small (by linarith)
    · exact reached
  exact lifted.trans (le_mul_of_one_le_right (positive.le.trans lifted) factor)

theorem released_floor {config : FujiConfig K} {cap : K} {call : CoreCall K} {head : SafetyHeadResult (RiskScore K)} {a : Assessment K}
    (exact_ : ExactSettings config penalty scale cap) (start : a.risk = .finite risk)
    (released : (call.safeApplied && a.categories.any isPii) = true ↔ PiiReleased call head) (positive : 0 < floor) (small : floor ≤ 1) :
    floor ≤ telosScaled config call.telosScore (lowEvidenceStage config call (piiSafeStage config call.safeApplied a)).risk ↔
      floor ≤ carried penalty scale call risk ∧ (PiiReleased call head → floor ≤ carried penalty scale call cap) := by
  rw [carried_exact exact_ call (piiSafeStage_caps exact_ call.safeApplied start),within_unit positive small]
  by_cases masked : PiiReleased call head
  · rw [if_pos (released.mpr masked),carried_min exact_.scale_nonneg]
    exact ⟨fun ⟨risky,capped⟩ => ⟨risky,fun _ => capped⟩,fun ⟨risky,capped⟩ => ⟨risky,capped masked⟩⟩
  · rw [if_neg (fun found => masked (released.mp found))]
    exact ⟨fun risky => ⟨risky,fun found => absurd found masked⟩,And.left⟩

-- A floor of the deterministic layer reaches the policy unless a cap behind it lies under the floor.
theorem floor_survives {world : CoreWorld K} {call : CoreCall K} {head : SafetyHeadResult (RiskScore K)} {ready : Prepared K}
    {penalty scale cap floor : K} (exact_ : ExactSettings world.config penalty scale cap) (stated : call.safetyHead = some head)
    (floored : FloorFor head.categories floor) (prepared : prepare world call = .ok ready) : floor ≤ ready.risk ↔
      (nameLikeOnly head = true → ∀ nameCap, riskAdjustment world.reading (policyOf world call) "name_like_only_cap" (1 / 5) = .ok nameCap →
        floor ≤ carried penalty scale call nameCap) ∧ (PiiReleased call head → floor ≤ carried penalty scale call cap) := by
  obtain ⟨positive,small⟩ := floor_bounds floored
  unfold prepare headOf at prepared
  rw [stated] at prepared
  obtain ⟨_,same,prepared⟩ := bind_ok.mp prepared
  cases same
  obtain ⟨risk,_,prepared⟩ := bind_ok.mp prepared
  obtain ⟨a,assessed,prepared⟩ := bind_ok.mp prepared
  cases prepared
  unfold assess at assessed
  obtain ⟨injected,first,assessed⟩ := bind_ok.mp assessed
  obtain ⟨capped,second,assessed⟩ := bind_ok.mp assessed
  cases assessed
  obtain ⟨⟨r,start⟩,categories⟩ := injectionStage_finite rfl first
  have floored' : FloorFor injected.categories floor := by
    have kept {c : String} (listed : c ∈ head.categories) : c ∈ injected.categories := by
      rcases categories with same | same <;> rw [same]
      · exact listed
      · exact List.mem_append_left _ listed
    cases floored with
    | illicit found => exact .illicit (kept found)
    | selfHarm found => exact .selfHarm (kept found)
  obtain ⟨reached,here,above⟩ := deterministicStage_floor call.safeApplied head.raw start floored'
  have always := carried_keeps exact_.penalty_nonneg exact_.scale_nonneg call positive small above
  rcases nameLikeStage_caps here second with ⟨other,rfl⟩ | ⟨named,nameCap,read,lowered,filtered⟩
  · rw [released_floor exact_ here (released_exact categories (.inl ⟨other,rfl⟩)) positive small]
    exact ⟨fun ⟨_,safe⟩ => ⟨fun named => absurd named (by rw [other]; decide),safe⟩,fun ⟨_,safe⟩ => ⟨always,safe⟩⟩
  · rw [released_floor exact_ lowered (released_exact categories (.inr ⟨named,filtered⟩)) positive small,carried_min exact_.scale_nonneg]
    constructor
    · intro ⟨⟨_,capped⟩,safe⟩
      refine ⟨fun _ other found => ?_,safe⟩
      cases read.symm.trans found
      exact capped
    · exact fun ⟨capped,safe⟩ => ⟨⟨always,capped named nameCap read⟩,safe⟩

end Raised

end Floors

def sampleDetection : Detection ℚ where
  nfkc := id
  confusable c := [c]
  wordChar := isWordChar
  lowercase := lower
  patterns := []
  phone _ := false
  email _ := false
  addressJp _ := false

def sampleCore (policy : Dict) : CoreWorld ℚ where
  reading := sampleReading
  detection := sampleDetection
  config := ⟨1,false,.finite (2 / 5),.finite (1 / 10),.finite (1 / 10)⟩
  strictMode := false
  policy := policy

def illicitHead : SafetyHeadResult (RiskScore ℚ) := ⟨.number (.finite (9 / 10)),["illicit","PII"],"","llm_safety",[]⟩

def illicitCall (safeApplied : Bool) : CoreCall ℚ where
  safetyHead := some illicitHead
  stakes := .finite (1 / 2)
  telosScore := .finite 0
  evidenceCount := 1
  policy := none
  safeApplied := safeApplied
  minEvidence := 1
  text := "order"
  pocMode := false

theorem sample_settings (policy : Dict) : ExactSettings (sampleCore policy).config (1 / 10) (1 / 10) (2 / 5) :=
  ⟨rfl,rfl,rfl,by norm_num,by norm_num⟩

theorem illicitCall_prepared (safeApplied : Bool) (risk : ℚ)
    (told : (prepare (sampleCore defaultPolicy) (illicitCall safeApplied)).toOption.map Prepared.risk = some risk) :
    ∃ ready, prepare (sampleCore defaultPolicy) (illicitCall safeApplied) = .ok ready ∧ ready.risk = risk :=
  toOption_shown told

theorem mask_undoes_floor :
    ¬∀ (world : CoreWorld ℚ) (call : CoreCall ℚ) (head : SafetyHeadResult (RiskScore ℚ)) (ready : Prepared ℚ) (penalty scale cap floor : ℚ),
      ExactSettings world.config penalty scale cap → call.safetyHead = some head → FloorFor head.categories floor →
      prepare world call = .ok ready → floor ≤ ready.risk := by
  intro kept
  obtain ⟨ready,prepared,risk⟩ := illicitCall_prepared true (2 / 5) (by decide +kernel)
  have floored := kept _ _ _ _ _ _ _ _ (sample_settings defaultPolicy) rfl (.illicit (by decide)) prepared
  rw [risk] at floored
  exact absurd floored (by norm_num [riskFloorIllicit])

theorem floor_survives_unmasked : ∃ ready, prepare (sampleCore defaultPolicy) (illicitCall false) = .ok ready ∧
      ((riskFloorIllicit : ℚ) ≤ ready.risk ↔
        (nameLikeOnly illicitHead = true → ∀ nameCap, riskAdjustment sampleReading defaultPolicy "name_like_only_cap" (1 / 5) = .ok nameCap →
          riskFloorIllicit ≤ carried (1 / 10) (1 / 10) (illicitCall false) nameCap) ∧
        (PiiReleased (illicitCall false) illicitHead → riskFloorIllicit ≤ carried (1 / 10) (1 / 10) (illicitCall false) (2 / 5))) := by
  obtain ⟨ready,prepared,_⟩ := illicitCall_prepared false (9 / 10) (by decide +kernel)
  exact ⟨ready,prepared,floor_survives (sample_settings defaultPolicy) rfl (.illicit (by decide)) prepared⟩

end VeritasOs.FujiGate
