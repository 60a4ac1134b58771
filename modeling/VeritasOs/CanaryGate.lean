import Mathlib.Data.Rat.Floor
import VeritasOs.FujiPolicy

namespace VeritasOs.CanaryGate
open Text FujiPolicy

structure PolicyReplaySample where
  sampleId : String
  risk : Score ℚ
  categories : List String
  stakes : Score ℚ
  telosScore : Score ℚ
  expectedDecision : Option String

inductive Decision where
  | allow | hold | deny
deriving DecidableEq

def Decision.named (text : String) : Option Decision :=
  if text = "allow" then some .allow
  else if text = "hold" then some .hold
  else if text = "deny" then some .deny
  else none

-- The decision_status that fuji._apply_policy gives a sample under a policy, or what it raises.
abbrev Engine := PolicyReplaySample → Dict → Except Exc String

-- The modelled engine on finite risks, and any other on the rest.
def fujiEngine (reading : Reading ℚ) (rest : Engine) : Engine := fun sample policy =>
  match sample.risk with
  | .finite risk => (applyPolicy reading policy risk sample.categories sample.stakes).map fun result => result.decisionStatus.text
  | _ => rest sample policy

section Replay
variable (engine : Engine)

def evaluateSample (sample : PolicyReplaySample) (policy : Dict) : Except Exc Decision :=
  match engine sample policy with
  | .ok status => .ok ((Decision.named (lower status)).getD .hold)
  | .error error =>
    if error.kind = .typeError || error.kind = .valueError || error.kind = .runtimeError then .ok .deny else .error error

structure Counts where
  total : Nat
  changed : Nat
  falsePositive : Nat
  falseNegative : Nat
  labeled : Nat

def normalizeExpectedDecision (value : Option String) : Option Decision := value.bind fun text => Decision.named (lower (strip text))

def countIf (condition : Bool) : Nat := if condition then 1 else 0

def countSample (stable canary : Dict) (counts : Counts) (sample : PolicyReplaySample) : Except Exc Counts := do
  let before ← evaluateSample engine sample stable
  let after ← evaluateSample engine sample canary
  return {
    total := counts.total + 1
    changed := counts.changed + countIf (before != after)
    falsePositive := counts.falsePositive + countIf (before == .allow && after != .allow)
    falseNegative := counts.falseNegative + countIf (before != .allow && after == .allow)
    labeled := counts.labeled + countIf (normalizeExpectedDecision sample.expectedDecision).isSome }

-- To the nearest integer, and half way to the even one.
def roundHalfEven (x : ℚ) : Int :=
  if x - ⌊x⌋ < 1 / 2 then ⌊x⌋
  else if 1 / 2 < x - ⌊x⌋ then ⌊x⌋ + 1
  else ⌊x⌋ + ⌊x⌋ % 2

def roundSix (x : ℚ) : ℚ := roundHalfEven (x * 1000000) / 1000000

def rate (part total : Nat) : ℚ := if total = 0 then 0 else part / total

structure DiffResult where
  total : Nat
  changed : Nat
  changeRate : ℚ
  falsePositive : Nat
  falseNegative : Nat
  falsePositiveRate : ℚ
  falseNegativeRate : ℚ
  labeled : Nat

def replayPolicyDiff (samples : List PolicyReplaySample) (stable canary : Dict) : Except Exc DiffResult := do
  let counts ← samples.foldlM (countSample engine stable canary) ⟨0,0,0,0,0⟩
  return {
    total := counts.total
    changed := counts.changed
    changeRate := roundSix (rate counts.changed counts.total)
    falsePositive := counts.falsePositive
    falseNegative := counts.falseNegative
    falsePositiveRate := roundSix (rate counts.falsePositive counts.total)
    falseNegativeRate := roundSix (rate counts.falseNegative counts.total)
    labeled := counts.labeled }
end Replay

def defaultFalseNegativePromotionThreshold : ℚ := 0
def falseNegativeRateTolerance : ℚ := 1 / 1000000

structure CanaryPromotionGateResult where
  allowed : Bool
  reason : String
  falseNegativeRate : ℚ
  falseNegativeThreshold : ℚ
  changeRate : Option ℚ
  falseNegatives : Nat
  samplesChecked : Nat

-- On what a replay returns; a threshold that is below zero is replaced.
def evaluateCanaryPromotionGate (diff : DiffResult) (falseNegativeThreshold : ℚ) : CanaryPromotionGateResult :=
  let threshold := if falseNegativeThreshold < 0 then defaultFalseNegativePromotionThreshold else falseNegativeThreshold
  let blocked : CanaryPromotionGateResult := ⟨false,"promotion_blocked_metrics_unavailable",0,threshold,none,0,0⟩
  if diff.falseNegativeRate < 0 ∨ 1 < diff.falseNegativeRate ∨ diff.total = 0 ∨ diff.total < diff.falseNegative then blocked
  else if falseNegativeRateTolerance < |diff.falseNegativeRate - diff.falseNegative / diff.total| then blocked
  else if threshold < diff.falseNegativeRate then
    ⟨false,"promotion_blocked_false_negative_rate_exceeded",diff.falseNegativeRate,threshold,some diff.changeRate,diff.falseNegative,diff.total⟩
  else ⟨true,"promotion_allowed",diff.falseNegativeRate,threshold,some diff.changeRate,diff.falseNegative,diff.total⟩

def regressed (engine : Engine) (stable canary : Dict) (sample : PolicyReplaySample) : Bool :=
  match evaluateSample engine sample stable,evaluateSample engine sample canary with
  | .ok before,.ok after => before != .allow && after == .allow
  | _,_ => false

section Rounding
variable {x : ℚ}

theorem roundHalfEven_near (x : ℚ) : |(roundHalfEven x : ℚ) - x| ≤ 1 / 2 := by
  have low := Int.floor_le x
  have high := Int.lt_floor_add_one x
  have even : ⌊x⌋ % 2 = 0 ∨ ⌊x⌋ % 2 = 1 := by omega
  rw [abs_le]
  unfold roundHalfEven
  split_ifs
  · constructor <;> linarith
  · push_cast
    constructor <;> linarith
  · rcases even with zero | one
    · rw [zero]
      push_cast
      constructor <;> linarith
    · rw [one]
      push_cast
      constructor <;> linarith

theorem roundHalfEven_zero (positive : 0 ≤ x) : roundHalfEven x ≤ 0 ↔ x ≤ 1 / 2 := by
  have near := abs_le.mp (roundHalfEven_near x)
  constructor
  · intro none_
    have below : (roundHalfEven x : ℚ) ≤ 0 := by exact_mod_cast none_
    linarith
  · intro half
    have floor : ⌊x⌋ = 0 := Int.floor_eq_zero_iff.mpr ⟨positive,by linarith⟩
    unfold roundHalfEven
    rw [floor]
    split_ifs with under above
    · exact le_refl 0
    · exact absurd above (by push_cast; linarith)
    · rfl

theorem roundSix_near (x : ℚ) : |roundSix x - x| ≤ 1 / 2000000 := by
  have near := abs_le.mp (roundHalfEven_near (x * 1000000))
  rw [abs_le,roundSix]
  constructor <;> linarith

theorem roundSix_zero (positive : 0 ≤ x) : roundSix x ≤ 0 ↔ x * 2000000 ≤ 1 := by
  have scaled : 0 ≤ x * 1000000 := by linarith
  have same : roundSix x ≤ 0 ↔ roundHalfEven (x * 1000000) ≤ 0 := by
    rw [roundSix,div_le_iff₀ (by norm_num),zero_mul]
    exact Int.cast_nonpos
  rw [same,roundHalfEven_zero scaled]
  constructor <;> intro bound <;> linarith

theorem roundSix_nonneg (positive : 0 ≤ x) : 0 ≤ roundSix x := by
  have near := abs_le.mp (roundHalfEven_near (x * 1000000))
  have above : (-1 : ℚ) < roundHalfEven (x * 1000000) := by linarith
  have whole : (-1 : Int) < roundHalfEven (x * 1000000) := by exact_mod_cast above
  have least : (0 : ℚ) ≤ roundHalfEven (x * 1000000) := by exact_mod_cast Int.add_one_le_of_lt whole
  exact div_nonneg least (by norm_num)

theorem roundSix_le_one (part : x ≤ 1) : roundSix x ≤ 1 := by
  have near := abs_le.mp (roundHalfEven_near (x * 1000000))
  have below : (roundHalfEven (x * 1000000) : ℚ) < 1000001 := by linarith
  have whole : roundHalfEven (x * 1000000) < 1000001 := by exact_mod_cast below
  have most : (roundHalfEven (x * 1000000) : ℚ) ≤ 1000000 := by exact_mod_cast Int.le_of_lt_add_one whole
  rw [roundSix,div_le_one (by norm_num)]
  exact most
end Rounding

section Gate
variable {engine : Engine} {samples : List PolicyReplaySample} {stable canary : Dict}

theorem countSample_regressed (counted : countSample engine stable canary counts sample = .ok next) :
    next.total = counts.total + 1 ∧ next.falseNegative = counts.falseNegative + countIf (regressed engine stable canary sample) := by
  obtain ⟨before,first,rest⟩ := bind_ok.mp counted
  obtain ⟨after,second,made⟩ := bind_ok.mp rest
  obtain rfl := Except.ok.inj made
  exact ⟨rfl,by rw [regressed,first,second]⟩

theorem replay_counts (replayed : samples.foldlM (countSample engine stable canary) counts = .ok final) :
    final.total = counts.total + samples.length ∧
      final.falseNegative = counts.falseNegative + samples.countP (regressed engine stable canary) := by
  induction samples generalizing counts with
  | nil =>
    obtain rfl := Except.ok.inj replayed
    exact ⟨rfl,rfl⟩
  | cons sample rest ih =>
    rw [List.foldlM_cons] at replayed
    obtain ⟨next,counted,later⟩ := bind_ok.mp replayed
    obtain ⟨total,regressions⟩ := countSample_regressed counted
    obtain ⟨length,others⟩ := ih later
    rw [List.countP_cons,List.length_cons]
    unfold countIf at regressions
    constructor <;> omega

-- The count decides as if it were rounded to the sixth place of its rate.
theorem gate_allows (part : diff.falseNegative ≤ diff.total)
    (rounded : diff.falseNegativeRate = roundSix (rate diff.falseNegative diff.total)) :
    (evaluateCanaryPromotionGate diff defaultFalseNegativePromotionThreshold).allowed = true ↔
      diff.total ≠ 0 ∧ 2000000 * diff.falseNegative ≤ diff.total := by
  by_cases empty : diff.total = 0
  · simp [evaluateCanaryPromotionGate,empty]
  · have total : (0 : ℚ) < diff.total := by exact_mod_cast Nat.pos_of_ne_zero empty
    have whole : rate diff.falseNegative diff.total = (diff.falseNegative : ℚ) / diff.total := if_neg empty
    have positive : (0 : ℚ) ≤ (diff.falseNegative : ℚ) / diff.total := by positivity
    have most : (diff.falseNegative : ℚ) / diff.total ≤ 1 := (div_le_one total).mpr (by exact_mod_cast part)
    have near := roundSix_near ((diff.falseNegative : ℚ) / diff.total)
    have kept := roundSix_zero positive
    rw [whole] at rounded
    have usable : ¬(diff.falseNegativeRate < 0 ∨ 1 < diff.falseNegativeRate ∨ diff.total = 0 ∨ diff.total < diff.falseNegative) := by
      rw [rounded]
      rintro (below | above | none_ | many)
      · exact absurd (roundSix_nonneg positive) (not_le.mpr below)
      · exact absurd (roundSix_le_one most) (not_le.mpr above)
      · exact empty none_
      · omega
    have close : ¬falseNegativeRateTolerance < |diff.falseNegativeRate - diff.falseNegative / diff.total| := by
      rw [rounded,not_lt,falseNegativeRateTolerance]
      linarith
    have scaled : (diff.falseNegative : ℚ) / diff.total * 2000000 ≤ 1 ↔ 2000000 * diff.falseNegative ≤ diff.total := by
      rw [div_mul_eq_mul_div,div_le_one total]
      constructor
      · intro bound
        have same : (2000000 : ℚ) * diff.falseNegative ≤ diff.total := by linarith
        exact_mod_cast same
      · intro bound
        have same : (2000000 : ℚ) * diff.falseNegative ≤ diff.total := by exact_mod_cast bound
        linarith
    have default : ¬defaultFalseNegativePromotionThreshold < 0 := lt_irrefl _
    unfold evaluateCanaryPromotionGate
    dsimp only
    rw [if_neg usable,if_neg close,if_neg default,rounded]
    by_cases above : defaultFalseNegativePromotionThreshold < roundSix ((diff.falseNegative : ℚ) / diff.total)
    · rw [if_pos above]
      refine iff_of_false Bool.false_ne_true fun both => ?_
      exact absurd (kept.mpr (scaled.mpr both.2)) (not_le.mpr above)
    · rw [if_neg above]
      exact iff_of_true rfl ⟨empty,scaled.mp (kept.mp (not_lt.mp above))⟩

theorem replay_diff (replayed : replayPolicyDiff engine samples stable canary = .ok diff) :
    diff.total = samples.length ∧ diff.falseNegative = samples.countP (regressed engine stable canary) ∧
      diff.falseNegativeRate = roundSix (rate diff.falseNegative diff.total) := by
  obtain ⟨counts,counted,made⟩ := bind_ok.mp replayed
  obtain rfl := Except.ok.inj made
  obtain ⟨total,regressions⟩ := replay_counts counted
  refine ⟨?_,?_,rfl⟩
  · simpa using total
  · simpa using regressions

theorem canary_gate_exact {diff : DiffResult} (replayed : replayPolicyDiff engine samples stable canary = .ok diff) :
    ((evaluateCanaryPromotionGate diff defaultFalseNegativePromotionThreshold).allowed = true ↔
        samples ≠ [] ∧ ∀ sample ∈ samples, regressed engine stable canary sample = false) ↔
      ¬(0 < samples.countP (regressed engine stable canary) ∧ 2000000 * samples.countP (regressed engine stable canary) ≤ samples.length) := by
  obtain ⟨total,regressions,rounded⟩ := replay_diff replayed
  have part : diff.falseNegative ≤ diff.total := by
    rw [total,regressions]
    exact List.countP_le_length
  have none_ : (∀ sample ∈ samples, regressed engine stable canary sample = false) ↔ samples.countP (regressed engine stable canary) = 0 := by
    simp [List.countP_eq_zero]
  have some_ : samples ≠ [] ↔ samples.length ≠ 0 := List.length_eq_zero_iff.not.symm
  rw [gate_allows part rounded,none_,some_,total,regressions]
  omega
end Gate

def sampleEngine : Engine := fujiEngine sampleReading fun _ _ => .ok "deny"

def calmSample : PolicyReplaySample := ⟨"calm",.finite (1 / 5),[],.finite 0,.finite 0,none⟩
def riskySample : PolicyReplaySample := ⟨"risky",.finite 1,[],.finite 0,.finite 0,none⟩

def lax : Dict := [BindArtifacts.field "version" (.str "fuji_file_fuji.yaml")]

theorem sample_replayed (sample : PolicyReplaySample) (policy : Dict) (decision : Decision)
    (told : (evaluateSample sampleEngine sample policy).toOption = some decision) :
    evaluateSample sampleEngine sample policy = .ok decision := toOption_some told

theorem calm_kept : regressed sampleEngine defaultPolicy lax calmSample = false := by
  rw [regressed,sample_replayed calmSample defaultPolicy .allow (by decide +kernel),sample_replayed calmSample lax .allow (by decide +kernel)]
  rfl

theorem risky_regressed : regressed sampleEngine defaultPolicy lax riskySample = true := by
  rw [regressed,sample_replayed riskySample defaultPolicy .deny (by decide +kernel),sample_replayed riskySample lax .allow (by decide +kernel)]
  rfl

theorem sample_counted (counts : Counts) (listed : sample = calmSample ∨ sample = riskySample) :
    ∃ next, countSample sampleEngine defaultPolicy lax counts sample = .ok next := by
  rcases listed with rfl | rfl
  · exact ⟨_,by rw [countSample,sample_replayed calmSample defaultPolicy .allow (by decide +kernel),
      sample_replayed calmSample lax .allow (by decide +kernel)]; rfl⟩
  · exact ⟨_,by rw [countSample,sample_replayed riskySample defaultPolicy .deny (by decide +kernel),
      sample_replayed riskySample lax .allow (by decide +kernel)]; rfl⟩

theorem samples_replayed (listed : ∀ sample ∈ samples, sample = calmSample ∨ sample = riskySample) :
    ∃ diff, replayPolicyDiff sampleEngine samples defaultPolicy lax = .ok diff := by
  have folded : ∀ counts, ∃ final, samples.foldlM (countSample sampleEngine defaultPolicy lax) counts = .ok final := by
    induction samples with
    | nil => exact fun counts => ⟨counts,rfl⟩
    | cons sample rest ih =>
      intro counts
      obtain ⟨first,others⟩ := List.forall_mem_cons.mp listed
      obtain ⟨next,counted⟩ := sample_counted counts first
      obtain ⟨final,later⟩ := ih others next
      exact ⟨final,by rw [List.foldlM_cons]; exact bind_ok.mpr ⟨next,counted,later⟩⟩
  obtain ⟨final,counted⟩ := folded ⟨0,0,0,0,0⟩
  exact ⟨_,bind_ok.mpr ⟨final,counted,rfl⟩⟩

theorem canary_gate_exact_sample : ∃ diff, replayPolicyDiff sampleEngine [calmSample] defaultPolicy lax = .ok diff ∧
    ((evaluateCanaryPromotionGate diff defaultFalseNegativePromotionThreshold).allowed = true ↔
      [calmSample] ≠ [] ∧ ∀ sample ∈ [calmSample], regressed sampleEngine defaultPolicy lax sample = false) := by
  obtain ⟨diff,replayed⟩ := @samples_replayed [calmSample] (by simp)
  exact ⟨diff,replayed,(canary_gate_exact replayed).mpr (by simp [calm_kept])⟩

theorem rare_regression_promoted : ¬∀ samples diff, replayPolicyDiff sampleEngine samples defaultPolicy lax = .ok diff →
    ((evaluateCanaryPromotionGate diff defaultFalseNegativePromotionThreshold).allowed = true ↔
      samples ≠ [] ∧ ∀ sample ∈ samples, regressed sampleEngine defaultPolicy lax sample = false) := by
  intro every
  obtain ⟨calm,many⟩ : ∃ calm : Nat, 2000000 ≤ calm + 1 := ⟨1999999,by decide⟩
  obtain ⟨diff,replayed⟩ := @samples_replayed (List.replicate calm calmSample ++ [riskySample]) (by
    intro sample listed
    rcases List.mem_append.mp listed with old | single
    · exact .inl (List.eq_of_mem_replicate old)
    · exact .inr (List.mem_singleton.mp single))
  obtain ⟨total,regressions,rounded⟩ := replay_diff replayed
  have one : diff.falseNegative = 1 := by
    rw [regressions,List.countP_append,List.countP_replicate,calm_kept]
    simp [risky_regressed]
  have length : diff.total = calm + 1 := by simpa using total
  have allowed := (gate_allows (by omega) rounded).mpr ⟨by omega,by omega⟩
  have kept := ((every _ diff replayed).mp allowed).2 riskySample (by simp)
  rw [risky_regressed] at kept
  cases kept

end VeritasOs.CanaryGate
