import VeritasOs.FujiGate
import VeritasOs.PipelineValue

namespace VeritasOs.FujiGate
open Text JsonText BindArtifacts PolicyBundle FujiPolicy PipelineValue

section Default
variable {K : Type} [Field K] [LinearOrder K] [IsStrictOrderedRing K]

def defaultRungs : List (Rung K) :=
  [⟨.str "allow",2 / 5⟩,⟨.str "warn",13 / 20⟩,⟨.str "human_review",17 / 20⟩,⟨.str "deny",1⟩]

omit [LinearOrder K] [IsStrictOrderedRing K] in
theorem rungOf_decimal (reading : Reading K) (key : Key) (valid : isFloatText text.toList = true) (mantissa : Int) (places : Nat)
    (value : floatNumber (.finite ⟨text,valid⟩) = some (.finite mantissa (Int.negSucc places)))
    (same : (mantissa : K) / 10 ^ (places + 1) = limit) : rungOf reading (key,actionRule (tenth text valid)) = .ok ⟨key,limit⟩ := by
  have stated : riskUpper reading [field "risk_upper" (tenth text valid)] = .ok limit := by
    show (do let upper ← toFloat reading (tenth text valid); _) = _
    rw [toFloat_decimal reading mantissa places value,same]
    rfl
  show (do let limit ← riskUpper reading [field "risk_upper" (tenth text valid)]; _) = _
  rw [stated]
  rfl

theorem default_rungs (reading : Reading K) : ∃ actions, mapping "items" (Dict.get defaultPolicy "actions") = .ok actions ∧
    actions.mapM (rungOf reading) = .ok defaultRungs := by
  have allow : rungOf reading (field "allow" _) = .ok ⟨_,(2 / 5 : K)⟩ := rungOf_decimal reading _ float_four_tenths 4 0 (by decide) (by norm_num)
  have warn : rungOf reading (field "warn" _) = .ok ⟨_,(13 / 20 : K)⟩ := rungOf_decimal reading _ float_sixtyFive 65 1 (by decide) (by norm_num)
  have humanReview : rungOf reading (field "human_review" _) = .ok ⟨_,(17 / 20 : K)⟩ :=
    rungOf_decimal reading _ float_eightyFive 85 1 (by decide) (by norm_num)
  have deny : rungOf reading (field "deny" _) = .ok ⟨_,(1 : K)⟩ := rungOf_decimal reading _ float_one 10 0 (by decide) (by norm_num)
  refine ⟨_,rfl,?_⟩
  rw [List.mapM_cons]
  refine bind_ok.mpr ⟨_,allow,bind_ok.mpr ⟨_,?_,rfl⟩⟩
  rw [List.mapM_cons]
  refine bind_ok.mpr ⟨_,warn,bind_ok.mpr ⟨_,?_,rfl⟩⟩
  rw [List.mapM_cons]
  refine bind_ok.mpr ⟨_,humanReview,bind_ok.mpr ⟨_,?_,rfl⟩⟩
  rw [List.mapM_cons]
  exact bind_ok.mpr ⟨_,deny,bind_ok.mpr ⟨[],rfl,rfl⟩⟩

theorem default_ladder (reading : Reading K) : actionLadder reading defaultPolicy = .ok defaultRungs := by
  obtain ⟨actions,listed,read⟩ := default_rungs reading
  have sorted : (defaultRungs : List (Rung K)).Pairwise fun low high => low.limit ≤ high.limit := by
    simp only [defaultRungs]
    norm_num
  unfold actionLadder
  rw [listed]
  show (do let rungs ← actions.mapM (rungOf reading); _) = _
  rw [read]
  exact congrArg Except.ok (List.Pairwise.insertionSort_eq sorted)

-- Without a category the built-in policy always answers, and allows up to its limit of 0.4.
omit [IsStrictOrderedRing K] in
theorem default_threshold (reading : Reading K) (stakes : Score K) : ∃ threshold, baseThreshold reading defaultPolicy stakes = .ok threshold := by
  have answers (high low : Prop) [Decidable high] [Decidable low] (x y z : K) :
      ∃ threshold, (if high then pure x else if low then pure y else pure z) = (.ok threshold : Except Exc K) := by
    split
    · exact ⟨x,rfl⟩
    · split
      · exact ⟨y,rfl⟩
      · exact ⟨z,rfl⟩
  exact (answers _ _ _ _ _).imp fun threshold same =>
    bind_ok.mpr ⟨_,rfl,bind_ok.mpr ⟨_,rfl,bind_ok.mpr ⟨_,rfl,bind_ok.mpr ⟨_,rfl,same⟩⟩⟩⟩

theorem default_verdict (reading : Reading K) (low : Bool) (stakes : Score K) (small : risk ≤ 1) :
    ∃ verdict, applyPolicy reading defaultPolicy risk (if low then ["low_evidence"] else []) stakes = .ok verdict ∧
      (verdict.decisionStatus = .allow ↔ risk ≤ 2 / 5) := by
  obtain ⟨threshold,based⟩ := default_threshold reading stakes
  have calm : violationDetails reading defaultPolicy risk (if low then ["low_evidence"] else []) = .ok [] := by cases low <;> rfl
  have settled : finalAction reading defaultPolicy defaultPrecedence risk [] = .ok (ladderAction risk defaultRungs) :=
    bind_ok.mpr ⟨_,default_ladder reading,rfl⟩
  refine ⟨_,bind_ok.mpr ⟨_,based,bind_ok.mpr ⟨_,calm,bind_ok.mpr ⟨_,rfl,bind_ok.mpr ⟨_,settled,rfl⟩⟩⟩⟩,?_⟩
  rw [statusOf_allow]
  by_cases allowed : risk ≤ 2 / 5
  · simp [ladderAction,defaultRungs,allowed]
  · by_cases warned : risk ≤ 13 / 20
    · simp [ladderAction,defaultRungs,allowed,warned]
    · by_cases reviewed : risk ≤ 17 / 20
      · simp [ladderAction,defaultRungs,allowed,warned,reviewed]
      · simp [ladderAction,defaultRungs,allowed,warned,reviewed,small]

end Default

section Head
variable {K : Type} [Field K] [LinearOrder K] [IsStrictOrderedRing K]

def unreadRisk (res : Dict) : K := if (res.get "llm_fallback").truthy then 3 / 10 else 1 / 20

omit [LinearOrder K] [IsStrictOrderedRing K] in
theorem safeFloat_unread (unread : ∀ y, toFloat reading x ≠ .ok (.finite y)) (default : K) : safeFloat reading x default = default := by
  unfold safeFloat
  split
  · rename_i y read
    exact absurd read (unread y)
  · rfl

theorem headOfAnswer_unread {reading : Reading K} {res : Dict} (ctx : Dict)
    (unread : ∀ y, toFloat reading (res.get "risk_score") ≠ .ok (.finite y)) (uncategorized : (res.get "categories").truthy = false) :
    ∃ head, headOfAnswer reading ctx res = .ok head ∧ head.categories = [] ∧ head.riskScore = unreadRisk res := by
  have risk : max (0 : K) (min 1 riskBaseline) = 1 / 20 := by unfold riskBaseline; norm_num
  have floor : max (1 / 20 : K) (3 / 10) = 3 / 10 := by norm_num
  have none : itemsOf (res.get "categories") = .ok [] := by
    unfold itemsOf
    rw [uncategorized]
    rfl
  unfold unreadRisk
  by_cases without : (res.get "llm_fallback").truthy = true
  · refine ⟨_,bind_ok.mpr ⟨[],none,if_pos without⟩,rfl,?_⟩
    show max (max 0 (min 1 (safeFloat reading (res.get "risk_score") riskBaseline))) (3 / 10) = _
    rw [safeFloat_unread unread,risk,floor,if_pos without]
  · refine ⟨_,bind_ok.mpr ⟨[],none,if_neg without⟩,rfl,?_⟩
    show max 0 (min 1 (safeFloat reading (res.get "risk_score") riskBaseline)) = _
    rw [safeFloat_unread unread,risk,if_neg without]

omit [IsStrictOrderedRing K] in
theorem runSafetyHead_answer {world : HeadWorld K} {text : String} {ctx res : Dict} {alternatives : List Value} {head : SafetyHeadResult K}
    (answered : world.callTool text ctx alternatives = .ok (.dict res)) (fine : (res.get "ok").truthy = true)
    (made : headOfAnswer world.reading ctx res = .ok head) : runSafetyHead world text ctx alternatives = .ok head := by
  have accepted : toolAnswer (.dict res) = .ok res := if_pos fine
  have built : (do
      let answer ← world.callTool text ctx alternatives
      let res ← toolAnswer answer
      headOfAnswer world.reading ctx res) = .ok head :=
    bind_ok.mpr ⟨_,answered,bind_ok.mpr ⟨_,accepted,made⟩⟩
  unfold runSafetyHead
  rw [built]

end Head

section Quiet
variable {K : Type} [Field K] [LinearOrder K]

def cappedRisk (head : SafetyHeadResult K) (risk : K) : K := if nameLikeOnly head.number then min risk (1 / 5) else risk

def quietRisk (config : FujiConfig K) (call : CoreCall K) (risk : K) : K :=
  telosScaled config call.telosScore
    (if call.lowEvidence then .least (.finite 1) (Score.plus (.finite risk) config.lowEvidenceRiskPenalty) else .finite risk)

theorem deterministicStage_quiet (safeApplied : Bool) (raw : Dict) {a : Assessment K} (none : a.categories = []) :
    (deterministicStage safeApplied raw a).risk = a.risk := by
  unfold deterministicStage
  rw [none]
  simp [raiseTo,unavailablePenalty]

theorem quiet_prepared {world : CoreWorld K} (call : CoreCall K) {head : SafetyHeadResult K} (stated : call.safetyHead = some head.number)
    (builtIn : policyOf world call = defaultPolicy) (none : head.categories = [])
    (clean : Score.less (.finite 0) (detectPromptInjection world.detection call.text).1 = false) :
    ∃ ready, prepare world call = .ok ready ∧ ready.policy = defaultPolicy ∧
      ready.assessment.categories = (if call.lowEvidence then ["low_evidence"] else []) ∧
      ready.risk = quietRisk world.config call (cappedRisk head head.riskScore) := by
  obtain ⟨capped,staged,categories,risk⟩ : ∃ capped, nameLikeStage world.reading (policyOf world call) head.number
      (deterministicStage call.safeApplied head.raw ⟨.finite head.riskScore,head.categories,[],head.rationale⟩) = .ok capped ∧
      capped.categories = [] ∧ capped.risk = .finite (cappedRisk head head.riskScore) := by
    have start := deterministicStage_quiet call.safeApplied head.raw (a := ⟨.finite head.riskScore,head.categories,[],head.rationale⟩) none
    have kept : (deterministicStage call.safeApplied head.raw ⟨Score.finite head.riskScore,head.categories,[],head.rationale⟩).categories = [] :=
      none
    unfold nameLikeStage cappedRisk
    by_cases named : nameLikeOnly head.number = true
    · rw [if_pos named,if_pos named,builtIn]
      refine ⟨_,bind_ok.mpr ⟨1 / 5,rfl,rfl⟩,?_,?_⟩
      · dsimp only
        rw [kept]
        rfl
      · dsimp only
        rw [start,Score.least_finite]
    · rw [if_neg named,if_neg named]
      exact ⟨_,rfl,kept,start⟩
  have injected : injectionStage world.reading (policyOf world call) (detectPromptInjection world.detection call.text).1
      (detectPromptInjection world.detection call.text).2 ⟨.finite head.riskScore,head.categories,[],head.rationale⟩ =
      .ok ⟨.finite head.riskScore,head.categories,[],head.rationale⟩ := by
    unfold injectionStage
    rw [if_neg (by rw [clean]; decide)]
  have safe : piiSafeStage world.config call.safeApplied capped = capped := by
    unfold piiSafeStage
    rw [categories]
    simp
  have headed : headOf world call = .ok head.number := by
    unfold headOf
    rw [stated]
  have assessed : assess world call head.number head.riskScore = .ok (lowEvidenceStage world.config call capped) := by
    refine bind_ok.mpr ⟨_,injected,bind_ok.mpr ⟨_,staged,?_⟩⟩
    rw [safe]
    rfl
  refine ⟨_,bind_ok.mpr ⟨_,headed,bind_ok.mpr ⟨_,rfl,bind_ok.mpr ⟨_,assessed,rfl⟩⟩⟩,builtIn,?_,?_⟩
  · unfold lowEvidenceStage
    dsimp only
    split <;> simp [categories]
  · unfold quietRisk lowEvidenceStage
    dsimp only
    split <;> simp [risk]

end Quiet

section Unreadable
variable {K : Type} [Field K] [LinearOrder K]

-- The tool answers without a readable risk, no category is detected and the built-in policy is in force.
structure UnreadGate (world : GateWorld K) (text : String) (context : Option Dict) (evidence : Option (List Value)) (alternatives : List Value)
    (res : Dict) (request : Request K) (head : SafetyHeadResult K) (result : GateResult K) : Prop where
  builtIn : world.core.policy = defaultPolicy
  answered : world.callTool text (context.getD []) alternatives = .ok (.dict res)
  fine : (res.get "ok").truthy = true
  unread : ∀ x, toFloat world.core.reading (res.get "risk_score") ≠ .ok (.finite x)
  uncategorized : (res.get "categories").truthy = false
  clean : Score.less (.finite 0) (detectPromptInjection world.core.detection text).1 = false
  asked : requestOf world (context.getD []) evidence = .ok request
  judged : runSafetyHead (headWorld world) text (context.getD []) alternatives = .ok head
  gated : fujiGate world text context evidence alternatives = .ok result

-- The gate stops: low evidence in PoC mode, or the assumed risk has grown past the limit of allow.
def Stops (world : GateWorld K) (text : String) (res : Dict) (request : Request K) (head : SafetyHeadResult K) : Prop :=
  (request.pocMode = true ∧ request.evidenceCount < request.minEvidence) ∨
    2 / 5 < quietRisk world.core.config (coreCall world text request head) (cappedRisk head (unreadRisk res))

variable [IsStrictOrderedRing K]

theorem unread_gate {world : GateWorld K} {text : String} {context : Option Dict} {evidence : Option (List Value)} {alternatives : List Value}
    {res : Dict} {request : Request K} {head : SafetyHeadResult K} {result : GateResult K}
    (met : UnreadGate world text context evidence alternatives res request head result) :
    result.decisionStatus ≠ .allow ↔ Stops world text res request head := by
  obtain ⟨request',head',core,asked,judged,decided,_,decision⟩ := fujiGate_parts met.gated
  cases met.asked.symm.trans asked
  cases met.judged.symm.trans judged
  obtain ⟨made,built,none,risk⟩ := headOfAnswer_unread (context.getD []) met.unread met.uncategorized
  cases met.judged.symm.trans (runSafetyHead_answer met.answered met.fine built)
  have builtIn : policyOf world.core (coreCall world text request head) = defaultPolicy := by
    have handed : (coreCall world text request head).policy = some world.core.policy := rfl
    unfold policyOf
    rw [handed,met.builtIn]
    rfl
  obtain ⟨ready,prepared,policy,categories,asked'⟩ := quiet_prepared (coreCall world text request head) rfl builtIn none met.clean
  have small : ready.risk ≤ 1 := by
    rw [asked']
    exact (Score.clamp_bounds _).2
  obtain ⟨verdict,said,allowed⟩ := default_verdict world.core.reading (coreCall world text request head).lowEvidence
    (coreCall world text request head).stakes small
  have passed : Passed world.core (coreCall world text request head) ready verdict core :=
    ⟨prepared,by rw [policy,categories]; exact said,decided⟩
  rw [decision,passed_status passed]
  unfold gatedStatus Stops
  rw [← risk,← asked']
  by_cases gated : request.pocMode = true ∧ request.evidenceCount < request.minEvidence
  · have both : ((coreCall world text request head).pocMode && (coreCall world text request head).lowEvidence) = true :=
      Bool.and_eq_true_iff.mpr ⟨gated.1,decide_eq_true gated.2⟩
    rw [if_pos both]
    refine iff_of_true ?_ (.inl gated)
    split
    · intro same
      cases same
    · intro same
      cases same
  · have neither : ¬((coreCall world text request head).pocMode && (coreCall world text request head).lowEvidence) = true :=
      fun both => gated ⟨(Bool.and_eq_true_iff.mp both).1,of_decide_eq_true (Bool.and_eq_true_iff.mp both).2⟩
    rw [if_neg neither,ne_eq,allowed,not_le]
    exact ⟨.inr,fun either => either.resolve_left gated⟩

theorem unreadable_risk :
    (∀ (world : GateWorld K) (text : String) (context : Option Dict) (evidence : Option (List Value)) (alternatives : List Value)
      (res : Dict) (request : Request K) (head : SafetyHeadResult K) (result : GateResult K),
      UnreadGate world text context evidence alternatives res request head result →
      (result.decisionStatus ≠ .allow ↔ Stops world text res request head)) ∧
    (∀ (world : ValueWorld K) (fujiDict : Dict) (after : ValueState K), stageValueCore world fujiDict = .ok after →
      Unread world.reading fujiDict "risk" → (after.effectiveRisk = 1 ↔ fujiDict.has "risk" = false ∧
        ∀ x, envFloat world "VERITAS_RISK_EMA_WEIGHT" "0.15" ≠ .ok (.finite x))) := by
  refine ⟨fun _ _ _ _ _ _ _ _ _ met => unread_gate met,?_⟩
  intro world fujiDict after stored unread
  obtain ⟨weight,weighed,computed⟩ := stageValueCore_parts stored
  rw [effectiveRisk_unread unread computed,weighed]
  simp

end Unreadable

def silentGate : GateWorld ℚ where
  core := sampleCore defaultPolicy
  callTool _ _ _ := .ok (.dict [field "ok" (.bool true)])
  repr error := error.text
  env _ := none
  latencyMs := 0
  trustEvent := .ok ()
  round3 x := x

def silentStage : ValueWorld ℚ where
  reading := ⟨WatVerifier.samplePython,fun _ => some (.finite (3 / 20)),fun _ _ => "0"⟩
  env _ := none
  evaluate := none
  loadValstats := .ok []
  applyValueBoost _ := .ok ()

theorem silentGate_met : ∃ request head result, UnreadGate silentGate "order lunch" none none [] [field "ok" (.bool true)] request head result ∧
    result.decisionStatus = .allow := by
  have told : (fujiGate silentGate "order lunch" none none []).toOption.map GateResult.decisionStatus = some .allow := by decide +kernel
  obtain ⟨result,gated,allowed⟩ := Option.map_eq_some_iff.mp told
  have answered := toOption_some gated
  obtain ⟨request,head,_,asked,judged,_⟩ := fujiGate_parts answered
  exact ⟨request,head,result,⟨rfl,rfl,rfl,(fun _ read => nomatch read),rfl,by decide +kernel,asked,judged,answered⟩,allowed⟩

theorem unread_risk_allows :
    ¬((∀ (world : GateWorld ℚ) (text : String) (context : Option Dict) (evidence : Option (List Value)) (alternatives : List Value)
      (res : Dict) (request : Request ℚ) (head : SafetyHeadResult ℚ) (result : GateResult ℚ),
      UnreadGate world text context evidence alternatives res request head result → result.decisionStatus ≠ .allow) ∧
    (∀ (world : ValueWorld ℚ) (fujiDict : Dict) (after : ValueState ℚ), stageValueCore world fujiDict = .ok after →
      Unread world.reading fujiDict "risk" → after.effectiveRisk = 1)) := by
  intro ⟨stopped,_⟩
  obtain ⟨request,head,result,met,allowed⟩ := silentGate_met
  exact stopped _ _ _ _ _ _ _ _ _ met allowed

theorem unreadable_risk_silent :
    (∃ request head result, UnreadGate silentGate "order lunch" none none [] [field "ok" (.bool true)] request head result ∧
      (result.decisionStatus ≠ .allow ↔ Stops silentGate "order lunch" [field "ok" (.bool true)] request head)) ∧
    (∃ after, stageValueCore silentStage [] = .ok after ∧ (after.effectiveRisk = 1 ↔ Dict.has [] "risk" = false ∧
        ∀ x, envFloat silentStage "VERITAS_RISK_EMA_WEIGHT" "0.15" ≠ .ok (.finite x))) := by
  constructor
  · obtain ⟨request,head,result,met,_⟩ := silentGate_met
    exact ⟨request,head,result,met,unreadable_risk.1 _ _ _ _ _ _ _ _ _ met⟩
  · exact ⟨_,rfl,unreadable_risk.2 silentStage [] _ rfl fun _ read => nomatch read⟩

end VeritasOs.FujiGate
