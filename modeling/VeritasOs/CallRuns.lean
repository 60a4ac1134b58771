import Mathlib.Data.List.Basic

namespace VeritasOs.CallRuns

-- An object that takes calls one after the other: a call is answered from the state it
-- meets, and leaves the next one.
variable {σ γ α ε : Type}

abbrev Serve (σ γ α : Type) := σ → γ → α × σ

-- A call that raises leaves the state as it was.
def attempted (step : σ → γ → Except ε (α × σ)) : Serve σ γ (Except ε α) := fun state call =>
  match step state call with
  | .ok (answer,next) => (.ok answer,next)
  | .error error => (.error error,state)

def after (serve : Serve σ γ α) (state : σ) (calls : List γ) : σ := calls.foldl (fun state call => (serve state call).2) state

def answers (serve : Serve σ γ α) : σ → List γ → List α
  | _,[] => []
  | state,call :: rest => (serve state call).1 :: answers serve (serve state call).2 rest

variable {step : σ → γ → Except ε (α × σ)} {serve : Serve σ γ α} {state : σ} {calls : List γ}

theorem attempted_ok (returned : (attempted step state call).1 = .ok answer) :
    step state call = .ok (answer,(attempted step state call).2) := by
  unfold attempted at returned ⊢
  cases stepped : step state call with
  | error error => rw [stepped] at returned; cases returned
  | ok outcome =>
    rw [stepped] at returned
    cases returned
    rfl

theorem attempted_error (raised : step state call = .error error) : attempted step state call = (.error error,state) := by
  rw [attempted,raised]

theorem after_append (first second : List γ) : after serve state (first ++ second) = after serve (after serve state first) second :=
  List.foldl_append

theorem after_concat (first : List γ) (call : γ) :
    after serve state (first ++ [call]) = (serve (after serve state first) call).2 := after_append first [call]

theorem answers_append (first second : List γ) :
    answers serve state (first ++ second) = answers serve state first ++ answers serve (after serve state first) second := by
  induction first generalizing state with
  | nil => rfl
  | cons call rest ih => exact congrArg _ ih

theorem answers_concat (first : List γ) (call : γ) :
    answers serve state (first ++ [call]) = answers serve state first ++ [(serve (after serve state first) call).1] := answers_append first [call]

theorem mem_answers : answer ∈ answers serve state calls ↔
      ∃ before call rest, calls = before ++ call :: rest ∧ answer = (serve (after serve state before) call).1 := by
  induction calls generalizing state with
  | nil => simp [answers]
  | cons call calls ih =>
    rw [answers,List.mem_cons,ih]
    constructor
    · intro given
      rcases given with rfl | ⟨before,later,rest,rfl,rfl⟩
      · exact ⟨[],call,calls,rfl,rfl⟩
      · exact ⟨call :: before,later,rest,rfl,rfl⟩
    · intro given
      obtain ⟨before,later,rest,split,rfl⟩ := given
      cases before with
      | nil => cases split; exact .inl rfl
      | cons head before => cases split; exact .inr ⟨before,later,rest,rfl,rfl⟩

theorem after_keeps {good : σ → Prop} (kept : ∀ state call, good state → good (serve state call).2) (start : good state) :
    good (after serve state calls) := by
  induction calls generalizing state with
  | nil => exact start
  | cons call calls ih => exact ih (kept state call start)

theorem answers_keep {good : σ → Prop} {fine : α → Prop} (kept : ∀ state call, good state → good (serve state call).2)
    (answered : ∀ state call, good state → fine (serve state call).1) (start : good state) :
    ∀ answer ∈ answers serve state calls, fine answer := by
  intro answer given
  obtain ⟨before,call,_,_,rfl⟩ := mem_answers.mp given
  exact answered _ call (after_keeps kept start)

def Throughout (serve : Serve σ γ α) (allowed : σ → γ → Prop) : σ → List γ → Prop
  | _,[] => True
  | state,call :: rest => allowed state call ∧ Throughout serve allowed (serve state call).2 rest

theorem throughout_append :
    Throughout serve allowed state (first ++ second) ↔ Throughout serve allowed state first ∧ Throughout serve allowed (after serve state first) second := by
  induction first generalizing state with
  | nil => exact ⟨fun given => ⟨trivial,given⟩,And.right⟩
  | cons call rest ih => exact Iff.trans (and_congr_right fun _ => ih) and_assoc.symm

section Together
variable {τ β : Type} {first : Serve σ γ α} {second : Serve τ γ β} {allowed : τ → γ → Prop} {related : σ → τ → Prop}
  {same : α → β → Prop} {left : σ} {right : τ}

theorem answers_together (kept : ∀ left right call, related left right → allowed right call →
      same (first left call).1 (second right call).1 ∧ related (first left call).2 (second right call).2)
    (start : related left right) (throughout : Throughout second allowed right calls) :
    List.Forall₂ same (answers first left calls) (answers second right calls) ∧ related (after first left calls) (after second right calls) := by
  induction calls generalizing left right with
  | nil => exact ⟨.nil,start⟩
  | cons call calls ih =>
    obtain ⟨answered,next⟩ := kept left right call start throughout.1
    obtain ⟨others,last⟩ := ih next throughout.2
    exact ⟨.cons answered others,last⟩

end Together

end VeritasOs.CallRuns
