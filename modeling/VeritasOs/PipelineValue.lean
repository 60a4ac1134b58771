import VeritasOs.FujiSafetyHead

namespace VeritasOs.PipelineValue
open JsonText BindArtifacts PolicyBundle FujiPolicy

-- What ValueCore and the store of its statistics answer, and what boosting the alternatives comes to.
structure ValueWorld (K : Type) where
  reading : Reading K
  env : String → Option String
  evaluate : Option (Except Exc Dict)
  loadValstats : Except Exc Dict
  applyValueBoost : Score K → Except Exc Unit

structure ValueState (K : Type) where
  valuesPayload : Dict
  valueEma : K
  effectiveRisk : K
  telosThreshold : Score K

def emptyPayload (rationale : String) : Dict :=
  [field "scores" (.dict []),field "total" zero,field "top_factors" (.list []),field "rationale" (.str rationale)]

section Stage
variable {K : Type} [Field K] [LinearOrder K] (world : ValueWorld K)

def valuesPayload : Except Exc Dict :=
  match world.evaluate with
  | none => .ok (emptyPayload "value_core missing")
  | some (.ok payload) => .ok payload
  | some (.error error) =>
    if wrongNumber error || error.kind = .runtimeError || error.kind = .attributeError then .ok (emptyPayload "evaluation failed")
    else .error error

-- A moving average that is no finite number is neutral.
def valueEma : Except Exc K :=
  match (do
    let vs ← world.loadValstats
    toFloat world.reading (vs.getD "ema" (tenth "0.5" float_half))) with
  | .ok (.finite ema) => .ok ema
  | .ok _ => .ok (1 / 2)
  | .error error => if wrongNumber error then .ok (1 / 2) else .error error

def envFloat (name default : String) : Except Exc (Score K) := toFloat world.reading (.str ((world.env name).getD default))

def deviation (ema : K) : K := max (-1) (min 1 ((ema - 1 / 2) * 2))

-- A risk that cannot be read counts as none.
def effectiveRisk (fujiDict : Dict) (weight : Score K) (ema : K) : Except Exc K :=
  match toFloat world.reading (fujiDict.getD "risk" zero) with
  | .ok risk => .ok (Score.clip (risk.times (Score.minus (.finite 1) (weight.times (.finite ema)))))
  | .error error => if wrongNumber error then .ok (Score.clip (.finite 0)) else .error error

def telosThreshold (delta : Score K) (ema : K) : Score K :=
  Score.greatest (.finite (7 / 20)) (Score.least (.finite (3 / 4)) (Score.minus (.finite (11 / 20)) (delta.times (.finite (deviation ema)))))

def stageValueCore (fujiDict : Dict) : Except Exc (ValueState K) := do
  let payload ← valuesPayload world
  let ema ← valueEma world
  let boostMax ← envFloat world "VERITAS_VALUE_BOOST_MAX" "0.05"
  world.applyValueBoost (Score.times (.finite (deviation ema)) boostMax)
  let weight ← envFloat world "VERITAS_RISK_EMA_WEIGHT" "0.15"
  let risk ← effectiveRisk world fujiDict weight ema
  let delta ← envFloat world "VERITAS_TELOS_EMA_DELTA" "0.10"
  return ⟨payload,ema,risk,telosThreshold delta ema⟩

end Stage

-- Nothing under the name is a number; what is absent reads as None.
def Unread (reading : Reading K) [Field K] (dict : Dict) (name : String) : Prop := ∀ x, toFloat reading (dict.get name) ≠ .ok x

section Unread
variable {K : Type} [Field K] [LinearOrder K] [IsStrictOrderedRing K]

omit [LinearOrder K] [IsStrictOrderedRing K] in
theorem toFloat_zero (reading : Reading K) : toFloat reading zero = .ok (.finite 0) := by
  rw [show zero = tenth "0.0" float_zero from rfl,toFloat_decimal reading 0 0 (by decide)]
  simp

theorem clip_zero : Score.clip (.finite (0 : K)) = 0 := by simp [Score.clip]

theorem zero_times (x : Score K) : Score.clip (Score.times (.finite 0) x) = 1 ↔ ∀ y, x ≠ .finite y := by
  cases x with
  | finite x => simp [Score.clip]
  | infinity negative => simp [Score.times,Score.clip]
  | nan => simp [Score.times,Score.clip]

omit [IsStrictOrderedRing K] in
theorem damped_finite (weight : Score K) (ema : K) :
    (∀ y, Score.minus (.finite 1) (weight.times (.finite ema)) ≠ .finite y) ↔ ∀ y, weight ≠ .finite y := by
  cases weight with
  | finite x => simp
  | infinity negative =>
    refine iff_of_true (fun y => ?_) (fun y same => nomatch same)
    unfold Score.times
    dsimp only
    split <;> exact fun same => nomatch same
  | nan => exact iff_of_true (fun y same => nomatch same) fun y same => nomatch same

theorem effectiveRisk_unread {world : ValueWorld K} {fujiDict : Dict} {weight : Score K} {ema risk : K}
    (unread : Unread world.reading fujiDict "risk") (stored : effectiveRisk world fujiDict weight ema = .ok risk) :
    risk = 1 ↔ fujiDict.has "risk" = false ∧ ∀ y, weight ≠ .finite y := by
  unfold effectiveRisk at stored
  cases found : fujiDict.has "risk" with
  | false =>
    have absent : lookup (.str "risk") fujiDict = none := by
      unfold Dict.has at found
      simpa using found
    have read : fujiDict.getD "risk" zero = zero := by
      unfold Dict.getD
      rw [absent]
      rfl
    rw [read,toFloat_zero] at stored
    cases stored
    rw [zero_times,damped_finite]
    simp
  | true =>
    have same : fujiDict.getD "risk" zero = fujiDict.get "risk" := by
      unfold Dict.has at found
      obtain ⟨value,held⟩ := Option.isSome_iff_exists.mp found
      unfold Dict.getD Dict.get
      rw [held]
      rfl
    rw [same] at stored
    split at stored
    · rename_i x read
      exact absurd read (unread x)
    · split at stored
      · cases stored
        simp [clip_zero]
      · cases stored

omit [IsStrictOrderedRing K] in
theorem stageValueCore_parts {world : ValueWorld K} {fujiDict : Dict} {after : ValueState K} (stored : stageValueCore world fujiDict = .ok after) :
    ∃ weight, envFloat world "VERITAS_RISK_EMA_WEIGHT" "0.15" = .ok weight ∧
      effectiveRisk world fujiDict weight after.valueEma = .ok after.effectiveRisk := by
  unfold stageValueCore at stored
  obtain ⟨payload,_,stored⟩ := bind_ok.mp stored
  obtain ⟨ema,_,stored⟩ := bind_ok.mp stored
  obtain ⟨boostMax,_,stored⟩ := bind_ok.mp stored
  obtain ⟨_,_,stored⟩ := bind_ok.mp stored
  obtain ⟨weight,weighed,stored⟩ := bind_ok.mp stored
  obtain ⟨risk,computed,stored⟩ := bind_ok.mp stored
  obtain ⟨delta,_,stored⟩ := bind_ok.mp stored
  cases stored
  exact ⟨weight,weighed,computed⟩

end Unread

end VeritasOs.PipelineValue
