import Mathlib.Logic.Function.Basic
import Mathlib.Data.List.Basic

namespace VeritasOs.Interaction

-- A program that asks its surroundings: it returns, raises, or makes one request
-- and goes on with the answer.
inductive Prog (Op : Type) (Ans : Op → Type) (ε α : Type) where
  | pure (value : α)
  | fail (error : ε)
  | ask (op : Op) (next : Ans op → Prog Op Ans ε α)

variable {Op : Type} {Ans : Op → Type} {ε α β σ ι : Type}

def Prog.bind : Prog Op Ans ε α → (α → Prog Op Ans ε β) → Prog Op Ans ε β
  | .pure value,f => f value
  | .fail error,_ => .fail error
  | .ask op next,f => .ask op fun answer => (next answer).bind f

instance : Monad (Prog Op Ans ε) where
  pure := .pure
  bind := .bind

def request (op : Op) : Prog Op Ans ε (Ans op) := .ask op .pure

def lift : Except ε α → Prog Op Ans ε α
  | .ok value => .pure value
  | .error error => .fail error

def attempt : Prog Op Ans ε α → Prog Op Ans ε (Except ε α)
  | .pure value => .pure (.ok value)
  | .fail error => .pure (.error error)
  | .ask op next => .ask op fun answer => attempt (next answer)

@[simp] theorem pure_eq (value : α) : (Pure.pure value : Prog Op Ans ε α) = .pure value := rfl

@[simp] theorem bind_pure (value : α) (f : α → Prog Op Ans ε β) : (Prog.pure value >>= f) = f value := rfl
@[simp] theorem bind_fail (error : ε) (f : α → Prog Op Ans ε β) : (Prog.fail error >>= f) = .fail error := rfl
@[simp] theorem bind_ask (op : Op) (next : Ans op → Prog Op Ans ε α) (f : α → Prog Op Ans ε β) :
    (Prog.ask op next >>= f) = .ask op fun answer => next answer >>= f := rfl
@[simp] theorem bind_request (op : Op) (f : Ans op → Prog Op Ans ε β) : (request op >>= f) = .ask op f := rfl
@[simp] theorem lift_ok (value : α) : (lift (.ok value) : Prog Op Ans ε α) = .pure value := rfl
@[simp] theorem lift_error (error : ε) : (lift (.error error) : Prog Op Ans ε α) = .fail error := rfl

abbrev Event (Ans : Op → Type) := (op : Op) × Ans op

-- The first program goes through the answered requests and becomes the last one.
-- Nothing is assumed about who answers.
inductive Leads : Prog Op Ans ε α → List (Event Ans) → Prog Op Ans ε α → Prop
  | done (program) : Leads program [] program
  | more {op next answer trace last} (rest : Leads (next answer) trace last) : Leads (.ask op next) (⟨op,answer⟩ :: trace) last

def Returns (program : Prog Op Ans ε α) (trace : List (Event Ans)) (value : α) : Prop :=
  Leads program trace (.pure value)

def Raises (program : Prog Op Ans ε α) (trace : List (Event Ans)) (error : ε) : Prop :=
  Leads program trace (.fail error)

-- The program has gone through the trace and now makes this request.
def Calls (program : Prog Op Ans ε α) (trace : List (Event Ans)) (op : Op) : Prop :=
  ∃ next, Leads program trace (.ask op next)

variable {value : α} {trace : List (Event Ans)} {last : Prog Op Ans ε α} {error : ε} {op : Op} {next : Ans op → Prog Op Ans ε α}
variable {first : Prog Op Ans ε α} {f : α → Prog Op Ans ε β} {result : α} {outcome : Except ε α} {program : Prog Op Ans ε α}
variable {mark : Op → Bool} {state final : σ}

theorem leads_pure : Leads (.pure value) trace last ↔ trace = [] ∧ last = .pure value := by
  constructor
  · intro path
    cases path
    exact ⟨rfl,rfl⟩
  · rintro ⟨rfl,rfl⟩
    exact .done _

theorem leads_fail : Leads (.fail error) trace last ↔ trace = [] ∧ last = .fail error := by
  constructor
  · intro path
    cases path
    exact ⟨rfl,rfl⟩
  · rintro ⟨rfl,rfl⟩
    exact .done _

theorem leads_ask : Leads (.ask op next) trace last ↔ (trace = [] ∧ last = .ask op next) ∨
        ∃ answer rest, trace = ⟨op,answer⟩ :: rest ∧ Leads (next answer) rest last := by
  constructor
  · intro path
    cases path with
    | done => exact .inl ⟨rfl,rfl⟩
    | more rest => exact .inr ⟨_,_,rfl,rest⟩
  · rintro (⟨rfl,rfl⟩ | ⟨answer,rest,rfl,path⟩)
    · exact .done _
    · exact .more path

theorem leads_of_eq (same : last = first) : Leads first [] last := same ▸ .done _

theorem Leads.append (before : Leads first left middle) (after : Leads middle right last) : Leads first (left ++ right) last := by
  induction before with
  | done => exact after
  | more _ ih => exact .more (ih after)

theorem Leads.bind (path : Leads first trace middle) (f : α → Prog Op Ans ε β) : Leads (first >>= f) trace (middle >>= f) := by
  induction path with
  | done => exact .done _
  | more _ ih => exact .more ih

theorem leads_bind {last : Prog Op Ans ε β} (path : Leads (first >>= f) trace last) :
    (∃ middle, Leads first trace middle ∧ last = middle >>= f) ∨
      ∃ value left right, trace = left ++ right ∧ Returns first left value ∧ Leads (f value) right last := by
  induction first generalizing trace with
  | pure value => exact .inr ⟨value,[],trace,rfl,.done _,path⟩
  | fail error =>
    obtain ⟨rfl,rfl⟩ := leads_fail.mp path
    exact .inl ⟨.fail error,.done _,rfl⟩
  | ask op next ih =>
    rcases leads_ask.mp path with ⟨rfl,rfl⟩ | ⟨answer,rest,rfl,later⟩
    · exact .inl ⟨.ask op next,.done _,rfl⟩
    · rcases ih answer later with ⟨middle,inside,rfl⟩ | ⟨value,left,right,rfl,inside,after⟩
      · exact .inl ⟨middle,.more inside,rfl⟩
      · exact .inr ⟨value,⟨op,answer⟩ :: left,right,rfl,.more inside,after⟩

@[simp] theorem returns_pure : Returns (.pure value : Prog Op Ans ε α) trace result ↔ trace = [] ∧ value = result := by
  rw [Returns,leads_pure,Prog.pure.injEq,eq_comm (a := result)]

@[simp] theorem returns_fail : Returns (.fail error : Prog Op Ans ε α) trace result ↔ False := by
  simp [Returns,leads_fail]

@[simp] theorem returns_ask : Returns (.ask op next) trace result ↔
      ∃ answer rest, trace = ⟨op,answer⟩ :: rest ∧ Returns (next answer) rest result := by
  simp [Returns,leads_ask]

theorem returns_bind {result : β} : Returns (first >>= f) trace result ↔
      ∃ value left right, trace = left ++ right ∧ Returns first left value ∧ Returns (f value) right result := by
  constructor
  · intro path
    rcases leads_bind path with ⟨middle,inside,same⟩ | found
    · cases middle with
      | pure value => exact ⟨value,trace,[],by simp,inside,leads_of_eq same⟩
      | fail error => cases same
      | ask op next => cases same
    · exact found
  · rintro ⟨value,left,right,rfl,inside,after⟩
    exact (inside.bind f).append after

@[simp] theorem raises_pure : Raises (.pure value : Prog Op Ans ε α) trace error ↔ False := by
  simp [Raises,leads_pure]

@[simp] theorem raises_fail : Raises (.fail error : Prog Op Ans ε α) trace raised ↔ trace = [] ∧ error = raised := by
  rw [Raises,leads_fail,Prog.fail.injEq,eq_comm (a := raised)]

@[simp] theorem raises_ask : Raises (.ask op next) trace error ↔
      ∃ answer rest, trace = ⟨op,answer⟩ :: rest ∧ Raises (next answer) rest error := by
  simp [Raises,leads_ask]

theorem raises_bind : Raises (first >>= f) trace error ↔ Raises first trace error ∨
        ∃ value left right, trace = left ++ right ∧ Returns first left value ∧ Raises (f value) right error := by
  constructor
  · intro path
    rcases leads_bind path with ⟨middle,inside,same⟩ | found
    · cases middle with
      | pure value => exact .inr ⟨value,trace,[],by simp,inside,leads_of_eq same⟩
      | fail raised =>
        cases same
        exact .inl inside
      | ask op next => cases same
    · exact .inr found
  · rintro (inside | ⟨value,left,right,rfl,inside,after⟩)
    · exact inside.bind f
    · exact (inside.bind f).append after

@[simp] theorem calls_pure : Calls (.pure value : Prog Op Ans ε α) trace op ↔ False := by
  simp [Calls,leads_pure]

@[simp] theorem calls_fail : Calls (.fail error : Prog Op Ans ε α) trace op ↔ False := by
  simp [Calls,leads_fail]

@[simp] theorem calls_ask : Calls (.ask op next) trace called ↔
      (trace = [] ∧ op = called) ∨ ∃ answer rest, trace = ⟨op,answer⟩ :: rest ∧ Calls (next answer) rest called := by
  constructor
  · rintro ⟨last,path⟩
    rcases leads_ask.mp path with ⟨rfl,same⟩ | ⟨answer,rest,rfl,later⟩
    · cases same
      exact .inl ⟨rfl,rfl⟩
    · exact .inr ⟨answer,rest,rfl,last,later⟩
  · rintro (⟨rfl,rfl⟩ | ⟨answer,rest,rfl,last,later⟩)
    · exact ⟨next,.done _⟩
    · exact ⟨last,.more later⟩

theorem calls_bind : Calls (first >>= f) trace op ↔ Calls first trace op ∨
        ∃ value left right, trace = left ++ right ∧ Returns first left value ∧ Calls (f value) right op := by
  constructor
  · rintro ⟨last,path⟩
    rcases leads_bind path with ⟨middle,inside,same⟩ | ⟨value,left,right,rfl,inside,after⟩
    · cases middle with
      | pure value => exact .inr ⟨value,trace,[],by simp,inside,last,leads_of_eq same⟩
      | fail error => cases same
      | ask called next =>
        cases same
        exact .inl ⟨next,inside⟩
    · exact .inr ⟨value,left,right,rfl,inside,last,after⟩
  · rintro (⟨last,inside⟩ | ⟨value,left,right,rfl,inside,last,after⟩)
    · exact ⟨_,inside.bind f⟩
    · exact ⟨last,(inside.bind f).append after⟩

@[simp] theorem returns_lift : Returns (lift outcome : Prog Op Ans ε α) trace result ↔ trace = [] ∧ outcome = .ok result := by
  cases outcome <;> simp

@[simp] theorem raises_lift : Raises (lift outcome : Prog Op Ans ε α) trace error ↔ trace = [] ∧ outcome = .error error := by
  cases outcome <;> simp

@[simp] theorem calls_lift : Calls (lift outcome : Prog Op Ans ε α) trace op ↔ False := by
  cases outcome <;> simp

def Within (allowed : Op → Prop) : Prog Op Ans ε α → Prop
  | .pure _ => True
  | .fail _ => True
  | .ask op next => allowed op ∧ ∀ answer, Within allowed (next answer)

@[simp] theorem within_pure (allowed : Op → Prop) (value : α) : Within allowed (.pure value : Prog Op Ans ε α) := trivial
@[simp] theorem within_fail (allowed : Op → Prop) (error : ε) : Within allowed (.fail error : Prog Op Ans ε α) := trivial
@[simp] theorem within_ask (allowed : Op → Prop) (op : Op) (next : Ans op → Prog Op Ans ε α) :
    Within allowed (.ask op next) ↔ allowed op ∧ ∀ answer, Within allowed (next answer) := Iff.rfl

theorem within_bind (here : Within allowed first) (later : ∀ value, Within allowed (f value)) : Within allowed (first >>= f) := by
  induction first with
  | pure value => exact later value
  | fail error => trivial
  | ask op next ih => exact ⟨here.1,fun answer => ih answer (here.2 answer)⟩

theorem Within.mono (kinds : Within allowed program) (implies : ∀ op, allowed op → wider op) : Within wider program := by
  induction program with
  | pure value => trivial
  | fail error => trivial
  | ask op next ih => exact ⟨implies op kinds.1,fun answer => ih answer (kinds.2 answer)⟩

theorem within_lift (allowed : Op → Prop) (outcome : Except ε α) : Within allowed (lift outcome : Prog Op Ans ε α) := by
  cases outcome <;> trivial

theorem Leads.within (path : Leads first trace last) (kinds : Within allowed first) :
    (∀ event ∈ trace, allowed event.1) ∧ Within allowed last := by
  induction path with
  | done => exact ⟨by simp,kinds⟩
  | more _ ih =>
    obtain ⟨later,final⟩ := ih (kinds.2 _)
    exact ⟨List.forall_mem_cons.mpr ⟨kinds.1,later⟩,final⟩

theorem Calls.within (called : Calls program trace op) (kinds : Within allowed program) : allowed op := by
  obtain ⟨next,path⟩ := called
  exact (path.within kinds).2.1

-- Every value a program can return satisfies the postcondition.
def Yields (post : α → Prop) : Prog Op Ans ε α → Prop
  | .pure value => post value
  | .fail _ => True
  | .ask _ next => ∀ answer, Yields post (next answer)

theorem yields_bind (here : Yields middle first) (later : ∀ value, middle value → Yields post (f value)) : Yields post (first >>= f) := by
  induction first with
  | pure value => exact later value here
  | fail error => trivial
  | ask op next ih => exact fun answer => ih answer (here answer)

theorem yields_any (program : Prog Op Ans ε α) : Yields (fun _ => True) program := by
  induction program with
  | pure value => trivial
  | fail error => trivial
  | ask op next ih => exact ih

theorem yields_lift (outcome : Except ε α) : Yields (fun value => outcome = .ok value) (lift outcome : Prog Op Ans ε α) := by
  cases outcome with
  | error error => trivial
  | ok value => exact rfl

theorem yields_all (later : ∀ value, Yields post (f value)) : Yields post (first >>= f) :=
  yields_bind (yields_any first) fun value _ => later value

theorem Leads.yields (path : Leads first trace last) (every : Yields post first) : Yields post last := by
  induction path with
  | done => exact every
  | more _ ih => exact ih (every _)

theorem within_bind_yields (here : Within allowed first) (every : Yields middle first)
    (later : ∀ value, middle value → Within allowed (f value)) : Within allowed (first >>= f) := by
  induction first with
  | pure value => exact later value every
  | fail error => trivial
  | ask op next ih => exact ⟨here.1,fun answer => ih answer (here.2 answer) (every answer)⟩

-- No such value is returned without a request of the marked kind.
def Demands (mark : Op → Prop) (wanted : α → Prop) : Prog Op Ans ε α → Prop
  | .pure value => ¬wanted value
  | .fail _ => True
  | .ask op next => mark op ∨ ∀ answer, Demands mark wanted (next answer)

theorem demands_bind {mark : Op → Prop} {wanted : β → Prop} (later : ∀ value, Demands mark wanted (f value)) :
    Demands mark wanted (first >>= f) := by
  induction first with
  | pure value => exact later value
  | fail error => trivial
  | ask op next ih => exact .inr ih

-- What the first part returns without the request must not lead to such a value.
theorem demands_onward {mark : Op → Prop} {middle : α → Prop} {wanted : β → Prop} (here : Demands mark middle first)
    (later : ∀ value, ¬middle value → Demands mark wanted (f value)) : Demands mark wanted (first >>= f) := by
  induction first with
  | pure value => exact later value here
  | fail error => trivial
  | ask op next ih =>
    rcases here with marked | inside
    · exact .inl marked
    · exact .inr fun answer => ih answer (inside answer)

theorem Returns.demanded {mark : Op → Prop} {wanted : α → Prop} (returned : Returns program trace value)
    (demands : Demands mark wanted program) (good : wanted value) : ∃ event ∈ trace, mark event.1 := by
  induction program generalizing trace with
  | pure other =>
    obtain ⟨_,rfl⟩ := returns_pure.mp returned
    exact absurd good demands
  | fail error => exact (returns_fail.mp returned).elim
  | ask op next ih =>
    obtain ⟨answer,rest,rfl,later⟩ := returns_ask.mp returned
    rcases demands with marked | inside
    · exact ⟨_,List.mem_cons_self,marked⟩
    · obtain ⟨event,listed,marked⟩ := ih answer later (inside answer)
      exact ⟨event,List.mem_cons_of_mem _ listed,marked⟩

-- The program makes at most so many requests of the marked kind.
def AtMost (mark : Op → Bool) : Prog Op Ans ε α → Nat → Prop
  | .pure _,_ => True
  | .fail _,_ => True
  | .ask op next,bound => ∃ rest, bound = (if mark op then rest + 1 else rest) ∧ ∀ answer, AtMost mark (next answer) rest

theorem atMost_more (few : AtMost mark program bound) (more : Nat) : AtMost mark program (bound + more) := by
  induction program generalizing bound with
  | pure value => trivial
  | fail error => trivial
  | ask op next ih =>
    obtain ⟨rest,rfl,later⟩ := few
    refine ⟨rest + more,?_,fun answer => ih answer (later answer)⟩
    split <;> omega

theorem atMost_bind (left right : Nat) (here : AtMost mark first left) (later : ∀ value, AtMost mark (f value) right) :
    AtMost mark (first >>= f) (left + right) := by
  induction first generalizing left with
  | pure value => exact Nat.add_comm right left ▸ atMost_more (later value) left
  | fail error => trivial
  | ask op next ih =>
    obtain ⟨rest,rfl,inside⟩ := here
    refine ⟨rest + right,?_,fun answer => ih answer rest (inside answer)⟩
    split <;> omega

theorem atMost_none (unmarked : Within (fun op => mark op = false) program) : AtMost mark program 0 := by
  induction program with
  | pure value => trivial
  | fail error => trivial
  | ask op next ih => exact ⟨0,by simp [unmarked.1],fun answer => ih answer (unmarked.2 answer)⟩

-- The requests of the marked kind that a run makes, in their order, are as allowed.
def Emits (mark : Op → Bool) : Prog Op Ans ε α → (List Op → Prop) → Prop
  | .pure _,allowed => allowed []
  | .fail _,allowed => allowed []
  | .ask op next,allowed => allowed [] ∧ ∀ answer, Emits mark (next answer) fun ops => allowed (if mark op then op :: ops else ops)

theorem Emits.mono {allowed wider : List Op → Prop} (emits : Emits mark program allowed) (implies : ∀ ops, allowed ops → wider ops) :
    Emits mark program wider := by
  induction program generalizing allowed wider with
  | pure value => exact implies _ emits
  | fail error => exact implies _ emits
  | ask op next ih => exact ⟨implies _ emits.1,fun answer => ih answer (emits.2 answer) fun _ => implies _⟩

theorem emits_bind {left right : List Op → Prop} (here : Emits mark first left) (empty : right []) (later : ∀ value, Emits mark (f value) right) :
    Emits mark (first >>= f) fun ops => ∃ before after, ops = before ++ after ∧ left before ∧ right after := by
  induction first generalizing left with
  | pure value => exact (later value).mono fun ops after => ⟨[],ops,rfl,here,after⟩
  | fail error => exact ⟨[],[],rfl,here,empty⟩
  | ask op next ih =>
    refine ⟨⟨[],[],rfl,here.1,empty⟩,fun answer => (ih answer (here.2 answer)).mono fun ops parts => ?_⟩
    obtain ⟨before,after,rfl,early,late⟩ := parts
    refine ⟨if mark op then op :: before else before,after,?_,early,late⟩
    split <;> rfl

theorem emits_within (kinds : Within kept program) : Emits mark program fun ops => ∀ op ∈ ops, kept op ∧ mark op = true := by
  induction program with
  | pure value => exact fun op listed => absurd listed List.not_mem_nil
  | fail error => exact fun op listed => absurd listed List.not_mem_nil
  | ask op next ih =>
    refine ⟨fun op listed => absurd listed List.not_mem_nil,fun answer => (ih answer (kinds.2 answer)).mono fun ops each => ?_⟩
    split
    · rename_i marked
      exact List.forall_mem_cons.mpr ⟨⟨kinds.1,marked⟩,each⟩
    · exact each

theorem emits_quiet {allowed : List Op → Prop} (quiet : Within (fun op => mark op = false) program) (empty : allowed []) :
    Emits mark program allowed := by
  refine (emits_within quiet).mono fun ops each => ?_
  have none : ops = [] := List.eq_nil_iff_forall_not_mem.mpr fun op listed => by simpa [(each op listed).1] using (each op listed).2
  exact none ▸ empty

theorem emits_after {allowed : List Op → Prop} (quiet : Within (fun op => mark op = false) first) (empty : allowed [])
    (later : ∀ value, Emits mark (f value) allowed) : Emits mark (first >>= f) allowed := by
  have nothing : Emits mark first fun ops => ops = [] := emits_quiet quiet rfl
  refine (emits_bind nothing empty later).mono fun ops parts => ?_
  obtain ⟨_,after,rfl,rfl,late⟩ := parts
  exact late

theorem emits_request {k : Ans op → Prog Op Ans ε α} {allowed : List Op → Prop} (marked : mark op = true) (empty : allowed [])
    (later : ∀ answer, Emits mark (k answer) fun ops => allowed (op :: ops)) : Emits mark (request op >>= k) allowed := by
  refine ⟨empty,fun answer => ?_⟩
  rw [marked]
  exact later answer

theorem Leads.emits {allowed : List Op → Prop} (path : Leads program trace last) (emits : Emits mark program allowed) :
    allowed ((trace.map Sigma.fst).filter mark) := by
  induction path generalizing allowed with
  | done program =>
    cases program with
    | pure value => exact emits
    | fail error => exact emits
    | ask op next => exact emits.1
  | more rest ih =>
    rw [List.map_cons,List.filter_cons]
    exact ih (emits.2 _)

abbrev Handler (Ans : Op → Type) (σ : Type) := (op : Op) → σ → Ans op × σ

def run (handler : Handler Ans σ) : Prog Op Ans ε α → σ → Except ε α × σ
  | .pure value,state => (.ok value,state)
  | .fail error,state => (.error error,state)
  | .ask op next,state => run handler (next (handler op state).1) (handler op state).2

theorem run_attempt (handler : Handler Ans σ) (program : Prog Op Ans ε α) (state : σ) :
    run handler (attempt program) state = (.ok (run handler program state).1,(run handler program state).2) := by
  induction program generalizing state with
  | pure value => rfl
  | fail error => rfl
  | ask op next ih => exact ih (handler op state).1 (handler op state).2

def Follows (handler : Handler Ans σ) : σ → List (Event Ans) → σ → Prop
  | state,[],final => final = state
  | state,event :: rest,final =>
    event.2 = (handler event.1 state).1 ∧ Follows handler (handler event.1 state).2 rest final

def finished : Except ε α → Prog Op Ans ε α
  | .ok value => .pure value
  | .error error => .fail error

theorem run_exact (handler : Handler Ans σ) (program : Prog Op Ans ε α) (state : σ) :
    ∃ trace, Follows handler state trace (run handler program state).2 ∧ Leads program trace (finished (run handler program state).1) := by
  induction program generalizing state with
  | pure value => exact ⟨[],rfl,.done _⟩
  | fail error => exact ⟨[],rfl,.done _⟩
  | ask op next ih =>
    obtain ⟨trace,follows,path⟩ := ih (handler op state).1 (handler op state).2
    exact ⟨⟨op,(handler op state).1⟩ :: trace,⟨rfl,follows⟩,.more path⟩

variable {handler : Handler Ans σ}

theorem run_returns (ran : run handler program state = (.ok value,final)) :
    ∃ trace, Follows handler state trace final ∧ Returns program trace value := by
  have found := run_exact handler program state
  rwa [ran] at found

theorem follows_append (handler : Handler Ans σ) (left right : List (Event Ans)) (state final : σ) :
    Follows handler state (left ++ right) final ↔ ∃ middle, Follows handler state left middle ∧ Follows handler middle right final := by
  induction left generalizing state with
  | nil => simp [Follows]
  | cons event rest ih => simp [Follows,ih,and_assoc]

-- What the allowed requests preserve, a run preserves, and it holds at each request.
theorem follows_invariant (allowed : Op → Prop) (good : σ → Prop)
    (preserved : ∀ op, allowed op → ∀ state, good state → good (handler op state).2) (follows : Follows handler state trace final)
    (kinds : ∀ event ∈ trace, allowed event.1) (start : good state) :
    good final ∧ ∀ event ∈ trace, ∃ middle, good middle ∧ event.2 = (handler event.1 middle).1 := by
  induction trace generalizing state with
  | nil =>
    rw [show final = state from follows]
    exact ⟨start,by simp⟩
  | cons event rest ih =>
    obtain ⟨same,later⟩ := follows
    obtain ⟨last,each⟩ := ih later (fun other listed => kinds other (by simp [listed]))
      (preserved event.1 (kinds event (by simp)) state start)
    exact ⟨last,List.forall_mem_cons.mpr ⟨⟨state,start,same⟩,each⟩⟩

theorem run_bind (handler : Handler Ans σ) (first : Prog Op Ans ε α) (f : α → Prog Op Ans ε β) (state : σ) :
    run handler (first >>= f) state = match run handler first state with
      | (.ok value,after) => run handler (f value) after
      | (.error error,after) => (.error error,after) := by
  induction first generalizing state with
  | pure value => rfl
  | fail error => rfl
  | ask op next ih => exact ih _ _

theorem run_bind_ok {result : β} : run handler (first >>= f) state = (.ok result,final) ↔
      ∃ value after, run handler first state = (.ok value,after) ∧ run handler (f value) after = (.ok result,final) := by
  rw [run_bind]
  cases ran : run handler first state with
  | mk outcome after => cases outcome <;> simp

def Keeps (handler : Handler Ans σ) (good : σ → Prop) (program : Prog Op Ans ε α) : Prop :=
  ∀ state, good state → good (run handler program state).2

theorem keeps_ran (ran : run handler program state = (outcome,after)) (kept : Keeps handler good program)
    (start : good state) : good after := by
  have reached := kept state start
  rwa [ran] at reached

theorem keeps_pure (value : α) : Keeps handler good (.pure value : Prog Op Ans ε α) :=
  fun _ holds => holds

theorem keeps_fail (error : ε) : Keeps handler good (.fail error : Prog Op Ans ε α) :=
  fun _ holds => holds

theorem keeps_request (op : Op) (step : ∀ state, good state → good (handler op state).2) :
    Keeps handler good (request op : Prog Op Ans ε (Ans op)) := step

theorem keeps_bind (here : Keeps handler good first) (later : ∀ value, Keeps handler good (f value)) : Keeps handler good (first >>= f) := by
  intro state holds
  have middle := here state holds
  rw [run_bind]
  cases ran : run handler first state with
  | mk outcome between =>
    rw [ran] at middle
    cases outcome with
    | error error => exact middle
    | ok value => exact later value between middle

theorem keeps_attempt (inside : Keeps handler good program) : Keeps handler good (attempt program) := by
  intro state holds
  rw [run_attempt]
  exact inside state holds

-- From a good state the machine ends in a good one, and what is returned meets the postcondition.
def Ensures (handler : Handler Ans σ) (good : σ → Prop) (post : α → Prop) (program : Prog Op Ans ε α) : Prop :=
  ∀ state, good state → good (run handler program state).2 ∧ ∀ value, (run handler program state).1 = .ok value → post value

section Ensures
variable {handler : Handler Ans σ} {good : σ → Prop} {post : α → Prop}

theorem ensures_pure (holds : post value) : Ensures handler good post (.pure value : Prog Op Ans ε α) := by
  intro state start
  refine ⟨start,fun other same => ?_⟩
  cases same
  exact holds

theorem ensures_fail (error : ε) : Ensures handler good post (.fail error : Prog Op Ans ε α) := fun _ start => ⟨start,nofun⟩

theorem ensures_lift (holds : ∀ value, outcome = .ok value → post value) : Ensures handler good post (lift outcome : Prog Op Ans ε α) := by
  cases outcome with
  | error error => exact ensures_fail error
  | ok value => exact ensures_pure (holds value rfl)

theorem ensures_request (step : ∀ state, good state → good (handler op state).2 ∧ after (handler op state).1) :
    Ensures handler good after (request op : Prog Op Ans ε (Ans op)) := by
  intro state start
  obtain ⟨kept,holds⟩ := step state start
  refine ⟨kept,fun value same => ?_⟩
  cases same
  exact holds

theorem ensures_bind (here : Ensures handler good middle first) (later : ∀ value, middle value → Ensures handler good after (f value)) :
    Ensures handler good after (first >>= f) := by
  intro state start
  obtain ⟨kept,holds⟩ := here state start
  rw [run_bind]
  cases ran : run handler first state with
  | mk outcome reached =>
    rw [ran] at kept holds
    cases outcome with
    | error error => exact ⟨kept,nofun⟩
    | ok value => exact later value (holds value rfl) reached kept

theorem ensures_attempt (inside : Ensures handler good post program) :
    Ensures handler good (fun outcome : Except ε α => ∀ value, outcome = .ok value → post value) (attempt program) := by
  intro state start
  obtain ⟨kept,holds⟩ := inside state start
  rw [run_attempt]
  refine ⟨kept,fun outcome same => ?_⟩
  cases same
  exact holds

end Ensures

-- The states that the marked requests of a run leave behind.
def visits (handler : Handler Ans σ) (mark : Op → Bool) : Prog Op Ans ε α → σ → List σ
  | .pure _,_ => []
  | .fail _,_ => []
  | .ask op next,state =>
    (if mark op then [(handler op state).2] else []) ++ visits handler mark (next (handler op state).1) (handler op state).2

theorem visits_bind (handler : Handler Ans σ) (mark : Op → Bool) (first : Prog Op Ans ε α) (f : α → Prog Op Ans ε β) (state : σ) :
    visits handler mark (first >>= f) state = visits handler mark first state ++ match run handler first state with
      | (.ok value,after) => visits handler mark (f value) after
      | (.error _,_) => [] := by
  induction first generalizing state with
  | pure value => rfl
  | fail error => rfl
  | ask op next ih =>
    rw [bind_ask,visits,ih,visits,run,List.append_assoc]

theorem visits_bind_ok (ran : run handler first state = (.ok value,after)) :
    visits handler mark (first >>= f) state = visits handler mark first state ++ visits handler mark (f value) after := by
  rw [visits_bind,ran]

theorem visits_none (unmarked : Within (fun op => mark op = false) program) (state : σ) : visits handler mark program state = [] := by
  induction program generalizing state with
  | pure value => rfl
  | fail error => rfl
  | ask op next ih => simp [visits,unmarked.1,ih _ (unmarked.2 _)]

theorem visits_atMost (handler : Handler Ans σ) (few : AtMost mark program bound) (state : σ) :
    (visits handler mark program state).length ≤ bound := by
  induction program generalizing state bound with
  | pure value => exact Nat.zero_le _
  | fail error => exact Nat.zero_le _
  | ask op next ih =>
    obtain ⟨rest,rfl,later⟩ := few
    have inside := ih _ (later (handler op state).1) (handler op state).2
    rw [visits,List.length_append]
    split
    · rw [List.length_singleton]
      omega
    · rw [List.length_nil]
      omega

theorem visits_count (mark : Op → Bool) (follows : Follows handler state trace final) (path : Leads program trace (finished outcome)) :
    (visits handler mark program state).length = trace.countP fun event => mark event.1 := by
  induction program generalizing state trace with
  | pure value =>
    obtain ⟨rfl,_⟩ := leads_pure.mp path
    rfl
  | fail error =>
    obtain ⟨rfl,_⟩ := leads_fail.mp path
    rfl
  | ask op next ih =>
    rcases leads_ask.mp path with ⟨_,same⟩ | ⟨answer,rest,rfl,later⟩
    · cases outcome <;> cases same
    · obtain ⟨same,after⟩ := follows
      obtain rfl : answer = (handler op state).1 := same
      rw [visits,List.length_append,ih _ after later,List.countP_cons,Nat.add_comm]
      split <;> rfl

-- Every request of a run is made in a state that meets the condition.
def Throughout (handler : Handler Ans σ) (meets : Op → σ → Prop) : Prog Op Ans ε α → σ → Prop
  | .pure _,_ => True
  | .fail _,_ => True
  | .ask op next,state => meets op state ∧ Throughout handler meets (next (handler op state).1) (handler op state).2

theorem throughout_invariant (good : σ → Prop)
    (preserved : ∀ op state, meets op state → good state → good (handler op state).2) (always : Throughout handler meets program state)
    (start : good state) : good (run handler program state).2 := by
  induction program generalizing state with
  | pure value => exact start
  | fail error => exact start
  | ask op next ih => exact ih _ always.2 (preserved op state always.1 start)

structure Thread (Op : Type) (Ans : Op → Type) (ε α : Type) where
  program : Prog Op Ans ε α
  history : List (Event Ans)

structure System (Op : Type) (Ans : Op → Type) (ε α σ ι : Type) where
  shared : σ
  threads : ι → Thread Op Ans ε α

section Threads
variable [DecidableEq ι]

def System.advance (system : System Op Ans ε α σ ι) (i : ι) (event : Event Ans) (next : Prog Op Ans ε α) (shared : σ) :
    System Op Ans ε α σ ι :=
  ⟨shared,Function.update system.threads i ⟨next,(system.threads i).history ++ [event]⟩⟩

section Advance
variable (system : System Op Ans ε α σ ι) (i : ι) (event : Event Ans) (next : Prog Op Ans ε α) (shared : σ)

@[simp] theorem advance_shared : (system.advance i event next shared).shared = shared := rfl

@[simp] theorem advance_self :
    (system.advance i event next shared).threads i = ⟨next,(system.threads i).history ++ [event]⟩ := Function.update_self ..

@[simp] theorem advance_other (other : j ≠ i) : (system.advance i event next shared).threads j = system.threads j :=
  Function.update_of_ne other ..

end Advance

def launch (start : ι → Prog Op Ans ε α) (shared : σ) : System Op Ans ε α σ ι := ⟨shared,fun i => ⟨start i,[]⟩⟩

-- Runs that thread after thread makes its pending request, each in a system that meets
-- the condition for it. The machine may answer each thread in its own way.
inductive Runs (handler : ι → Handler Ans σ) (meets : System Op Ans ε α σ ι → ι → Op → Prop) (first : System Op Ans ε α σ ι) :
    System Op Ans ε α σ ι → Prop
  | start : Runs handler meets first first
  | step {system} (path : Runs handler meets first system) (i : ι) (op : Op) (next : Ans op → Prog Op Ans ε α)
      (pending : (system.threads i).program = .ask op next) (condition : meets system i op) :
      Runs handler meets first (system.advance i ⟨op,(handler i op system.shared).1⟩ (next (handler i op system.shared).1)
        (handler i op system.shared).2)

variable {handler : ι → Handler Ans σ} {meets : System Op Ans ε α σ ι → ι → Op → Prop}

variable {system : System Op Ans ε α σ ι}

-- Each thread's history is a run of the program it was started with.
theorem history_leads (path : Runs handler meets (launch start shared) system) (i : ι) :
    Leads (start i) (system.threads i).history (system.threads i).program := by
  induction path with
  | start => exact .done _
  | step _ j op next pending _ ih =>
    by_cases same : i = j
    · subst i
      rw [pending] at ih
      simpa using ih.append (.more (.done _))
    · simpa [same] using ih

theorem history_answers (path : Runs handler meets (launch start shared) system) (i : ι) :
    ∀ event ∈ (system.threads i).history, ∃ state, event.2 = (handler i event.1 state).1 := by
  induction path with
  | start => exact fun event listed => nomatch listed
  | @step system _ j op next pending _ ih =>
    by_cases same : i = j
    · subst i
      simp only [advance_self,List.forall_mem_append,List.forall_mem_singleton]
      exact ⟨ih,system.shared,rfl⟩
    · simpa [same] using ih

theorem Runs.alone {first : System Op Ans ε α σ ι} (path : Runs handler meets first system) (i : ι) {program last : Prog Op Ans ε α}
    {trace : List (Event Ans)} {final : σ} (pending : (system.threads i).program = program) (leads : Leads program trace last)
    (follows : Follows (handler i) system.shared trace final)
    (allowed : ∀ left event right, trace = left ++ event :: right → ∀ reached, (∀ j, j ≠ i → reached.threads j = system.threads j) → (reached.threads i).history = (system.threads i).history ++ left → meets reached i event.1) :
    Runs handler meets first ⟨final,Function.update system.threads i ⟨last,(system.threads i).history ++ trace⟩⟩ := by
  induction leads generalizing system with
  | done program =>
    obtain rfl : final = system.shared := follows
    subst pending
    simpa using path
  | @more op next answer trace last _ ih =>
    obtain ⟨answered,after⟩ := follows
    have condition := allowed [] ⟨op,answer⟩ trace rfl system (fun _ _ => rfl) (by simp)
    have taken := path.step i op next pending condition
    obtain rfl : answer = (handler i op system.shared).1 := answered
    have rest := ih taken (by simp) after (fun left event right split reached others history =>
      allowed (_ :: left) event right (by rw [split]; rfl) reached (fun j other => by simpa [other] using others j other)
        (by simpa using history))
    simpa [System.advance] using rest

end Threads

end VeritasOs.Interaction
