import Mathlib.Data.List.Basic

namespace VeritasOs.Schedule

-- A system that takes one action at a time, in any order; an action that has to wait has
-- no step.
variable {σ α : Type} (step : σ → α → Option σ)

def run : σ → List α → Option σ
  | state,[] => some state
  | state,action :: rest => (step state action).bind (run · rest)

-- Every action meets the condition in the state it is taken in.
def Meets (condition : σ → α → Prop) : σ → List α → Prop
  | _,[] => True
  | state,action :: rest => condition state action ∧ ∀ next, step state action = some next → Meets condition next rest

variable {step} {condition : σ → α → Prop} {holds : σ → Prop} {state last : σ} {actions : List α}

-- What the steps that meet the condition preserve holds at the end of every run of them.
theorem run_invariant (preserved : ∀ state action next, holds state → condition state action → step state action = some next → holds next)
    (start : holds state) (meets : Meets step condition state actions) (ran : run step state actions = some last) : holds last := by
  induction actions generalizing state with
  | nil => exact Option.some.inj ran ▸ start
  | cons action rest ih =>
    obtain ⟨next,stepped,later⟩ := Option.bind_eq_some_iff.mp ran
    exact ih (preserved state action next start meets.1 stepped) (meets.2 next stepped) later

-- Where every step preserves it, no condition is asked for.
theorem run_preserved (preserved : ∀ state action next, holds state → step state action = some next → holds next)
    (start : holds state) (ran : run step state actions = some last) : holds last := by
  induction actions generalizing state with
  | nil => exact Option.some.inj ran ▸ start
  | cons action rest ih =>
    obtain ⟨next,stepped,later⟩ := Option.bind_eq_some_iff.mp ran
    exact ih (preserved state action next start stepped) later

-- So it holds in every state on the way.
theorem meets_prefix (meets : Meets step condition state (first ++ second)) : Meets step condition state first := by
  induction first generalizing state with
  | nil => trivial
  | cons action rest ih => exact ⟨meets.1,fun next stepped => ih (meets.2 next stepped)⟩

-- What makes the condition hold may itself be an invariant of the actions taken.
theorem meets_of_invariant {among : α → Prop} (enough : ∀ state action, holds state → among action → condition state action)
    (preserved : ∀ state action next, holds state → among action → step state action = some next → holds next)
    (start : holds state) (all : ∀ action ∈ actions, among action) : Meets step condition state actions := by
  induction actions generalizing state with
  | nil => trivial
  | cons action rest ih =>
    obtain ⟨first,others⟩ := List.forall_mem_cons.mp all
    exact ⟨enough state action start first,fun next stepped => ih (preserved state action next start first stepped) others⟩

theorem run_append (first second : List α) : run step state (first ++ second) = (run step state first).bind (run step · second) := by
  induction first generalizing state with
  | nil => rfl
  | cons action rest ih =>
    rw [List.cons_append,run,run,Option.bind_assoc]
    exact Option.bind_congr fun next _ => ih

end VeritasOs.Schedule
