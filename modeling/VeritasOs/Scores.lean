import Mathlib.Algebra.Order.Field.Basic

namespace VeritasOs

-- The literals that thresholds are written with: one instance each, which every module shares.
instance two_literal : Nat.AtLeastTwo 2 := inferInstance
instance three_literal : Nat.AtLeastTwo 3 := inferInstance
instance four_literal : Nat.AtLeastTwo 4 := inferInstance
instance five_literal : Nat.AtLeastTwo 5 := inferInstance
instance seven_literal : Nat.AtLeastTwo 7 := inferInstance
instance ten_literal : Nat.AtLeastTwo 10 := inferInstance
instance eleven_literal : Nat.AtLeastTwo 11 := inferInstance
instance thirteen_literal : Nat.AtLeastTwo 13 := inferInstance
instance seventeen_literal : Nat.AtLeastTwo 17 := inferInstance
instance twenty_literal : Nat.AtLeastTwo 20 := inferInstance
instance thirtyNine_literal : Nat.AtLeastTwo 39 := inferInstance
instance fifty_literal : Nat.AtLeastTwo 50 := inferInstance

-- A float whose arithmetic does not round, with the three values that are no numbers.
inductive Score (K : Type) where
  | finite (x : K)
  | infinity (negative : Bool)
  | nan
deriving DecidableEq

namespace Score
variable {K : Type}

def isFinite : Score K → Bool
  | .finite _ => true
  | _ => false

section Order
variable [LinearOrder K]

-- x < y and x <= y; nothing compares with NaN.
def less : Score K → Score K → Bool
  | .finite x,.finite y => decide (x < y)
  | .infinity true,.finite _ => true
  | .infinity true,.infinity false => true
  | .finite _,.infinity false => true
  | _,_ => false

def atMost : Score K → Score K → Bool
  | .nan,_ => false
  | _,.nan => false
  | .finite x,.finite y => decide (x ≤ y)
  | .infinity negative,.infinity other => negative || !other
  | .infinity negative,.finite _ => negative
  | .finite _,.infinity negative => !negative

@[simp] theorem less_finite (x y : K) : less (.finite x) (.finite y) = decide (x < y) := rfl
@[simp] theorem atMost_finite (x y : K) : atMost (.finite x) (.finite y) = decide (x ≤ y) := rfl

theorem less_raise {limit : Score K} {x y : K} (under : less limit (.finite x) = true) (raised : x ≤ y) :
    less limit (.finite y) = true := by
  cases limit with
  | finite bound => simpa using (of_decide_eq_true under).trans_le raised
  | infinity negative =>
    cases negative with
    | true => rfl
    | false => cases under
  | nan => cases under

end Order

section Arithmetic
variable [Field K]

def negate : Score K → Score K
  | .finite x => .finite (-x)
  | .infinity negative => .infinity (!negative)
  | .nan => .nan

def plus : Score K → Score K → Score K
  | .finite x,.finite y => .finite (x + y)
  | .infinity negative,.infinity other => if negative = other then .infinity negative else .nan
  | .infinity negative,.finite _ | .finite _,.infinity negative => .infinity negative
  | _,_ => .nan

def minus (x y : Score K) : Score K := plus x (negate y)

@[simp] theorem plus_finite (x y : K) : plus (.finite x) (.finite y) = .finite (x + y) := rfl
@[simp] theorem minus_finite (x y : K) : minus (.finite x) (.finite y) = .finite (x - y) := by simp [minus,negate,sub_eq_add_neg]

variable [LinearOrder K]

def times : Score K → Score K → Score K
  | .finite x,.finite y => .finite (x * y)
  | .infinity negative,.infinity other => .infinity (negative != other)
  | .infinity negative,.finite x | .finite x,.infinity negative =>
    if x = 0 then .nan else .infinity (negative != decide (x < 0))
  | _,_ => .nan

@[simp] theorem times_finite (x y : K) : times (.finite x) (.finite y) = .finite (x * y) := rfl

end Arithmetic

section Bounds
variable [LinearOrder K]

-- Python's min and max keep their first argument unless the second is better.
def least (x y : Score K) : Score K := if less y x then y else x
def greatest (x y : Score K) : Score K := if less x y then y else x

@[simp] theorem least_finite (x y : K) : least (.finite x) (.finite y) = .finite (min x y) := by
  unfold least
  rw [less_finite]
  split
  · rename_i below
    rw [min_eq_right (of_decide_eq_true below).le]
  · rename_i above
    rw [min_eq_left (not_lt.mp fun below => above (decide_eq_true below))]

theorem least_between {low high : K} {x : Score K} (above : less (.finite low) (least (.finite high) x) = true) :
    ∃ y, least (.finite high) x = .finite y := by
  cases x with
  | finite x => exact ⟨min high x,least_finite high x⟩
  | infinity negative =>
    cases negative with
    | true => cases above
    | false => exact ⟨high,rfl⟩
  | nan => exact ⟨high,rfl⟩

end Bounds

section Unit
variable [Field K] [LinearOrder K]

-- max(0.0, min(1.0, x)) takes NaN to one, min(1.0, max(0.0, x)) takes it to zero.
def clip : Score K → K
  | .finite x => max 0 (min 1 x)
  | .infinity negative => if negative then 0 else 1
  | .nan => 1

def clamp : Score K → K
  | .finite x => min 1 (max 0 x)
  | .infinity negative => if negative then 0 else 1
  | .nan => 0

variable [IsStrictOrderedRing K]

theorem clip_bounds (x : Score K) : 0 ≤ clip x ∧ clip x ≤ 1 := by
  cases x with
  | finite x => exact ⟨le_max_left _ _,max_le zero_le_one (min_le_left _ _)⟩
  | infinity negative => cases negative <;> simp [clip]
  | nan => simp [clip]

theorem clamp_bounds (x : Score K) : 0 ≤ clamp x ∧ clamp x ≤ 1 := by
  cases x with
  | finite x => exact ⟨le_min zero_le_one (le_max_left _ _),min_le_left _ _⟩
  | infinity negative => cases negative <;> simp [clamp]
  | nan => simp [clamp]

end Unit

end Score

end VeritasOs
