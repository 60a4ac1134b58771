import Mathlib.Algebra.Order.Ring.Int
import VeritasOs.Schedule

namespace VeritasOs.RwLock
open Schedule

inductive Section where
  | read | write
deriving DecidableEq

-- The two counters, the threads that wait at the condition (with whether a notification has
-- woken them), and the open sections, the latest first. The code keeps no list of these.
structure Lock (ι : Type) where
  readCount : Int
  writeWaiting : Int
  waiting : ι → Option (Section × Bool)
  inside : List (ι × Section)

def initial (ι : Type) : Lock ι := ⟨0,0,fun _ => none,[]⟩

-- A step holds the inner lock of the condition from its start to the wait or to its end.
inductive Action (ι : Type) where
  | enter (thread : ι) (wanted : Section)
  | wake (thread : ι)
  | leave (thread : ι)

variable {ι : Type} [DecidableEq ι]

def put (table : ι → α) (thread : ι) (value : α) : ι → α := fun other => if other = thread then value else table other

-- The conditions of the two while loops.
def blocked (lock : Lock ι) : Section → Bool
  | .read => 0 < lock.writeWaiting
  | .write => 0 < lock.readCount

def passed (lock : Lock ι) (thread : ι) (wanted : Section) : Lock ι where
  readCount := if wanted = .read then lock.readCount + 1 else lock.readCount
  writeWaiting := if wanted = .write then lock.writeWaiting - 1 else lock.writeWaiting
  waiting := put lock.waiting thread none
  inside := (thread,wanted) :: lock.inside

def check (lock : Lock ι) (thread : ι) (wanted : Section) : Lock ι :=
  if blocked lock wanted then { lock with waiting := put lock.waiting thread (some (wanted,false)) }
  else passed lock thread wanted

-- A writer counts itself before it looks at the readers.
def announce (lock : Lock ι) : Section → Lock ι
  | .read => lock
  | .write => { lock with writeWaiting := lock.writeWaiting + 1 }

def notifyAll (lock : Lock ι) : Lock ι :=
  { lock with waiting := fun thread => (lock.waiting thread).map fun wait => (wait.1,true) }

def sectionOf (lock : Lock ι) (thread : ι) : Option Section :=
  (lock.inside.find? fun opened => opened.1 = thread).map Prod.snd

def closed (lock : Lock ι) (thread : ι) : Lock ι :=
  { lock with inside := lock.inside.eraseP fun opened => opened.1 = thread }

def leave (lock : Lock ι) (thread : ι) : Section → Lock ι
  | .read =>
    let counted := { closed lock thread with readCount := lock.readCount - 1 }
    if counted.readCount = 0 then notifyAll counted else counted
  | .write => notifyAll (closed lock thread)

def step (lock : Lock ι) : Action ι → Option (Lock ι)
  | .enter thread wanted =>
    if (lock.waiting thread).isNone then some (check (announce lock wanted) thread wanted) else none
  | .wake thread =>
    match lock.waiting thread with
    | some (wanted,true) => some (check lock thread wanted)
    | _ => none
  | .leave thread =>
    if (lock.waiting thread).isNone then (sectionOf lock thread).map (leave lock thread) else none

-- While a thread is inside a write section, no other thread is inside any.
def Exclusive (lock : Lock ι) : Prop := ∀ writer ∈ lock.inside, writer.2 = .write → ∀ other ∈ lock.inside, other.1 = writer.1

def NoOtherWriter (lock : Lock ι) (thread : ι) : Prop := ∀ writer ∈ lock.inside, writer.2 = .write → writer.1 = thread

-- The counters let nobody in while another thread writes.
def Met (lock : Lock ι) : Action ι → Prop
  | .enter thread wanted => blocked lock wanted = false → NoOtherWriter lock thread
  | .wake thread => ∀ wanted, lock.waiting thread = some (wanted,true) → blocked lock wanted = false → NoOtherWriter lock thread
  | .leave _ => True

def readers (inside : List (ι × Section)) : Nat := inside.countP fun opened => opened.2 = .read

def Counted (lock : Lock ι) : Prop := lock.readCount = readers lock.inside

variable {lock next : Lock ι} {action : Action ι} {wanted : Section}

theorem step_cases (stepped : step lock action = some next) :
    (∃ thread wanted, action = .enter thread wanted ∧ lock.waiting thread = none ∧ next = check (announce lock wanted) thread wanted) ∨
    (∃ thread wanted, action = .wake thread ∧ lock.waiting thread = some (wanted,true) ∧ next = check lock thread wanted) ∨
    ∃ thread mode, action = .leave thread ∧ lock.waiting thread = none ∧ sectionOf lock thread = some mode ∧ next = leave lock thread mode := by
  cases action with
  | enter thread wanted =>
    simp only [step,Option.isNone_iff_eq_none,Option.ite_none_right_eq_some,Option.some.injEq] at stepped
    exact Or.inl ⟨thread,wanted,rfl,stepped.1,stepped.2.symm⟩
  | wake thread =>
    simp only [step] at stepped
    split at stepped
    next wanted waits => exact Or.inr (Or.inl ⟨thread,wanted,rfl,waits,(Option.some.inj stepped).symm⟩)
    next => cases stepped
  | leave thread =>
    simp only [step,Option.isNone_iff_eq_none,Option.ite_none_right_eq_some] at stepped
    obtain ⟨mode,found,left⟩ := Option.map_eq_some_iff.mp stepped.2
    exact Or.inr (Or.inr ⟨thread,mode,rfl,stepped.1,found,left.symm⟩)

omit [DecidableEq ι] in
theorem blocked_announce (lock : Lock ι) (wanted : Section) : blocked (announce lock wanted) wanted = blocked lock wanted := by
  cases wanted <;> rfl

theorem check_blocked (busy : blocked lock wanted = true) :
    check lock thread wanted = { lock with waiting := put lock.waiting thread (some (wanted,false)) } := if_pos busy

theorem check_passed (free : blocked lock wanted = false) : check lock thread wanted = passed lock thread wanted := if_neg (by simp [free])

theorem check_inside (lock : Lock ι) (thread : ι) (wanted : Section) :
    (check lock thread wanted).inside = if blocked lock wanted then lock.inside else (thread,wanted) :: lock.inside := by
  unfold check
  split <;> rfl

omit [DecidableEq ι] in
theorem announce_inside (lock : Lock ι) (wanted : Section) : (announce lock wanted).inside = lock.inside := by
  cases wanted <;> rfl

omit [DecidableEq ι] in
theorem announce_readCount (lock : Lock ι) (wanted : Section) : (announce lock wanted).readCount = lock.readCount := by
  cases wanted <;> rfl

theorem leave_inside (lock : Lock ι) (thread : ι) (mode : Section) :
    (leave lock thread mode).inside = lock.inside.eraseP fun opened => opened.1 = thread := by
  unfold leave
  cases mode with
  | read =>
    dsimp only
    split <;> rfl
  | write => rfl

theorem check_counted (thread : ι) (wanted : Section) (counted : Counted lock) : Counted (check lock thread wanted) := by
  unfold Counted at *
  cases busy : blocked lock wanted with
  | true => rw [check_blocked busy]; exact counted
  | false =>
    rw [check_passed busy]
    cases wanted with
    | read => simp [passed,readers,counted]
    | write => simp [passed,readers,counted]

theorem readers_erase {inside : List (ι × Section)} {thread : ι} {mode : Section}
    (found : (inside.find? fun opened => opened.1 = thread).map Prod.snd = some mode) :
    readers inside = readers (inside.eraseP fun opened => opened.1 = thread) + if mode = .read then 1 else 0 := by
  induction inside with
  | nil => simp at found
  | cons opened rest ih =>
    by_cases own : opened.1 = thread
    · simp only [List.find?_cons,own,decide_true,Option.map_some,Option.some.injEq] at found
      simp [readers,List.countP_cons,own,found]
    · simp only [List.find?_cons,own,decide_false] at found
      have rest_count := ih found
      unfold readers at rest_count ⊢
      simp only [List.eraseP_cons,own,decide_false,cond_false,List.countP_cons]
      omega

theorem leave_counted {thread : ι} {mode : Section} (counted : Counted lock) (found : sectionOf lock thread = some mode) :
    Counted (leave lock thread mode) := by
  have erased := readers_erase found
  unfold Counted at *
  rw [leave_inside]
  cases mode with
  | read =>
    have count : (leave lock thread .read).readCount = lock.readCount - 1 := by
      unfold leave
      dsimp only
      split <;> rfl
    rw [count,counted,erased]
    simp
  | write =>
    change lock.readCount = _
    rw [counted,erased]
    simp

omit [DecidableEq ι] in
theorem unread (counted : Counted lock) (free : blocked lock .write = false) : ∀ opened ∈ lock.inside, opened.2 = .write := by
  have none_ : readers lock.inside = 0 := by
    have low : ¬0 < lock.readCount := by simpa [blocked] using free
    unfold Counted at counted
    omega
  intro opened present
  have other := List.countP_eq_zero.mp none_ opened present
  cases mode : opened.2 with
  | read => exact absurd mode (by simpa using other)
  | write => rfl

-- The while loop of a writer keeps the readers out; the condition keeps the writers out.
theorem check_exclusive (counted : Counted lock) (exclusive : Exclusive lock) :
    Exclusive (check lock thread wanted) ↔ (blocked lock wanted = false → NoOtherWriter lock thread) := by
  cases busy : blocked lock wanted with
  | true =>
    rw [check_blocked busy]
    exact ⟨fun _ free => (by cases free),fun _ => exclusive⟩
  | false =>
    rw [check_passed busy]
    constructor
    · intro kept _ writer present writes
      exact (kept writer (List.mem_cons_of_mem _ present) writes (thread,wanted) List.mem_cons_self).symm
    · intro alone writer first writes other second
      have alone := alone rfl
      rcases List.mem_cons.mp first with rfl | first
      · rcases List.mem_cons.mp second with rfl | earlier
        · rfl
        · change wanted = .write at writes
          subst writes
          exact alone other earlier (unread counted busy other earlier)
      · rcases List.mem_cons.mp second with rfl | earlier
        · exact (alone writer first writes).symm
        · exact exclusive writer first writes other earlier

omit [DecidableEq ι] in
theorem announce_exclusive (exclusive : Exclusive lock) : Exclusive (announce lock wanted) := by
  unfold Exclusive
  rw [announce_inside]
  exact exclusive

omit [DecidableEq ι] in
theorem announce_counted (counted : Counted lock) : Counted (announce lock wanted) := by
  unfold Counted
  rw [announce_inside,announce_readCount]
  exact counted

theorem step_counted (counted : Counted lock) (stepped : step lock action = some next) : Counted next := by
  rcases step_cases stepped with ⟨thread,wanted,_,_,rfl⟩ | ⟨thread,wanted,_,_,rfl⟩ | ⟨thread,mode,_,_,found,rfl⟩
  · exact check_counted _ _ (announce_counted counted)
  · exact check_counted _ _ counted
  · exact leave_counted counted found

theorem step_exclusive (counted : Counted lock) (exclusive : Exclusive lock) (stepped : step lock action = some next) :
    Exclusive next ↔ Met lock action := by
  rcases step_cases stepped with ⟨thread,wanted,rfl,_,rfl⟩ | ⟨thread,wanted,rfl,waits,rfl⟩ | ⟨thread,mode,rfl,_,_,rfl⟩
  · rw [check_exclusive (announce_counted counted) (announce_exclusive exclusive),blocked_announce]
    unfold Met NoOtherWriter
    rw [announce_inside]
  · rw [check_exclusive counted exclusive]
    unfold Met
    dsimp only
    rw [waits]
    constructor
    · intro alone other same free
      cases same
      exact alone free
    · intro alone free
      exact alone wanted rfl free
  · refine ⟨fun _ => trivial,fun _ => ?_⟩
    unfold Exclusive
    rw [leave_inside]
    intro writer first writes other second
    exact exclusive writer (List.mem_of_mem_eraseP first) writes other (List.mem_of_mem_eraseP second)

def Action.thread : Action ι → ι
  | .enter thread _ | .wake thread | .leave thread => thread

theorem step_inside (stepped : step lock action = some next) : ∀ opened ∈ next.inside, opened ∈ lock.inside ∨ opened.1 = action.thread := by
  have checked : ∀ (before : Lock ι) thread wanted, before.inside = lock.inside → ∀ opened ∈ (check before thread wanted).inside,
      opened ∈ lock.inside ∨ opened.1 = thread := by
    intro before thread wanted same opened present
    rw [check_inside,same] at present
    split at present
    · exact Or.inl present
    · rcases List.mem_cons.mp present with rfl | earlier
      · exact Or.inr rfl
      · exact Or.inl earlier
  rcases step_cases stepped with ⟨thread,wanted,rfl,_,rfl⟩ | ⟨thread,wanted,rfl,_,rfl⟩ | ⟨thread,mode,rfl,_,_,rfl⟩
  · exact checked _ thread wanted (announce_inside lock wanted)
  · exact checked lock thread wanted rfl
  · intro opened present
    rw [leave_inside] at present
    exact Or.inl (List.mem_of_mem_eraseP present)

omit [DecidableEq ι] in
theorem met_of_alone (alone : NoOtherWriter lock action.thread) : Met lock action := by
  cases action with
  | enter => exact fun _ => alone
  | wake => exact fun _ _ _ => alone
  | leave => trivial

theorem exclusive_exact (counted : Counted lock) (exclusive : Exclusive lock) (ran : run step lock actions = some last) :
    (∀ first second, actions = first ++ second → ∀ state, run step lock first = some state → Exclusive state) ↔ Meets step Met lock actions := by
  induction actions generalizing lock with
  | nil =>
    refine ⟨fun _ => trivial,fun _ => ?_⟩
    rintro first second split state reached
    obtain ⟨rfl,rfl⟩ := List.append_eq_nil_iff.mp split.symm
    obtain rfl := Option.some.inj reached
    exact exclusive
  | cons action rest ih =>
    obtain ⟨next,stepped,later⟩ := Option.bind_eq_some_iff.mp ran
    have exact_ := step_exclusive counted exclusive stepped
    have follows := step_counted counted stepped
    constructor
    · intro throughout
      have here : Exclusive next := by
        refine throughout [action] rest rfl next ?_
        rw [run,stepped]
        rfl
      refine ⟨exact_.mp here,?_⟩
      intro other same
      obtain rfl := Option.some.inj (stepped.symm.trans same)
      refine (ih follows here later).mp ?_
      rintro first second rfl state reached
      refine throughout (action :: first) second rfl state ?_
      rw [run,stepped]
      exact reached
    · rintro ⟨met,meets⟩ first second split state reached
      cases first with
      | nil =>
        obtain rfl := Option.some.inj reached
        exact exclusive
      | cons head tail =>
        obtain ⟨rfl,rfl⟩ := List.cons.inj split
        obtain ⟨other,same,further⟩ := Option.bind_eq_some_iff.mp reached
        obtain rfl := Option.some.inj (stepped.symm.trans same)
        exact (ih follows (exact_.mpr met) later).mpr (meets next stepped) tail second rfl state further

theorem initial_counted (ι : Type) [DecidableEq ι] : Counted (initial ι) := rfl

theorem initial_exclusive (ι : Type) : Exclusive (initial ι) := fun _ present => by cases present

-- The threads that wait to write, as the counter counts them.
def Announced (lock : Lock ι) (writers : List ι) : Prop :=
  writers.Nodup ∧ lock.writeWaiting = writers.length ∧ ∀ thread, thread ∈ writers ↔ ∃ woken, lock.waiting thread = some (.write,woken)

-- Who sleeps has something to wait for, the end of which wakes it.
structure Awaited (lock : Lock ι) : Prop where
  counted : Counted lock
  announced : ∃ writers, Announced lock writers
  reading : ∀ thread, lock.waiting thread = some (.read,false) → 0 < lock.writeWaiting ∨ ∃ opened ∈ lock.inside, opened.2 = .write
  writing : ∀ thread, lock.waiting thread = some (.write,false) → 0 < lock.readCount

omit [DecidableEq ι] in
theorem notified_awake (asleep : (notifyAll lock).waiting thread = some (wanted,false)) : False := by
  obtain ⟨wait,_,same⟩ := Option.map_eq_some_iff.mp asleep
  cases same

omit [DecidableEq ι] in
theorem notified_announced (announced : Announced lock writers) : Announced (notifyAll lock) writers := by
  refine ⟨announced.1,announced.2.1,fun thread => (announced.2.2 thread).trans ?_⟩
  simp only [notifyAll,Option.map_eq_some_iff]
  constructor
  · rintro ⟨woken,waits⟩
    exact ⟨true,_,waits,rfl⟩
  · rintro ⟨_,⟨wanted,woken⟩,waits,same⟩
    cases same
    exact ⟨woken,waits⟩

omit [DecidableEq ι] in
theorem notified_awaited (counted : Counted lock) (announced : ∃ writers, Announced lock writers) : Awaited (notifyAll lock) where
  counted := counted
  announced := announced.imp fun _ => notified_announced
  reading _ asleep := (notified_awake asleep).elim
  writing _ asleep := (notified_awake asleep).elim

theorem erased_keeps {inside : List (ι × Section)} {thread : ι} {mode : Section}
    (found : (inside.find? fun opened => opened.1 = thread).map Prod.snd = some mode) (listed : opened ∈ inside) (other : opened.2 ≠ mode) :
    opened ∈ inside.eraseP fun opened => opened.1 = thread := by
  induction inside with
  | nil => cases listed
  | cons first rest ih =>
    by_cases own : first.1 = thread
    · simp only [List.find?_cons,own,decide_true,Option.map_some,Option.some.injEq] at found
      rw [List.eraseP_cons_of_pos (by simpa using own)]
      rcases List.mem_cons.mp listed with rfl | later
      · exact absurd found other
      · exact later
    · simp only [List.find?_cons,own,decide_false] at found
      rw [List.eraseP_cons_of_neg (by simpa using own)]
      rcases List.mem_cons.mp listed with rfl | later
      · exact List.mem_cons_self
      · exact List.mem_cons_of_mem _ (ih found later)

theorem leave_awaited {thread : ι} {mode : Section} (awaited : Awaited lock) (found : sectionOf lock thread = some mode) :
    Awaited (leave lock thread mode) := by
  have counted := leave_counted awaited.counted found
  cases mode with
  | write => exact notified_awaited counted awaited.announced
  | read =>
    unfold leave at counted ⊢
    dsimp only at counted ⊢
    split
    · rename_i last
      rw [if_pos last] at counted
      exact notified_awaited counted awaited.announced
    · rename_i more
      rw [if_neg more] at counted
      refine ⟨counted,awaited.announced,fun other asleep => ?_,fun other asleep => ?_⟩
      · refine (awaited.reading other asleep).imp id ?_
        rintro ⟨opened,listed,writes⟩
        exact ⟨opened,erased_keeps found listed (by simp [writes]),writes⟩
      · have some_ := awaited.writing other asleep
        change lock.readCount - 1 ≠ 0 at more
        change 0 < lock.readCount - 1
        omega

theorem put_self (table : ι → α) (thread : ι) (value : α) : put table thread value thread = value := if_pos rfl

theorem put_other (table : ι → α) {thread other : ι} (value : α) (apart : other ≠ thread) : put table thread value other = table other := if_neg apart

-- The list holds the checking thread too where it is a writer, whatever that thread waits for.
theorem check_awaited {writers : List ι} (counted : Counted lock) (fresh : writers.Nodup) (count : lock.writeWaiting = writers.length)
    (self : thread ∈ writers ↔ wanted = .write)
    (members : ∀ other, other ≠ thread → (other ∈ writers ↔ ∃ woken, lock.waiting other = some (.write,woken)))
    (reading : ∀ other, other ≠ thread → lock.waiting other = some (.read,false) → 0 < lock.writeWaiting ∨ ∃ opened ∈ lock.inside, opened.2 = .write)
    (writing : ∀ other, other ≠ thread → lock.waiting other = some (.write,false) → 0 < lock.readCount) : Awaited (check lock thread wanted) := by
  have counting := check_counted thread wanted counted
  cases busy : blocked lock wanted with
  | true =>
    rw [check_blocked busy] at counting ⊢
    refine ⟨counting,⟨writers,fresh,count,fun other => ?_⟩,fun other asleep => ?_,fun other asleep => ?_⟩ <;> by_cases own : other = thread
    · simp [own,put_self,self]
    · simp only [put_other _ _ own,members other own]
    · simp only [own,put_self,Option.some.injEq,Prod.mk.injEq,and_true] at asleep
      exact .inl (by simpa [blocked,asleep] using busy)
    · exact reading other own ((put_other _ _ own).symm.trans asleep)
    · simp only [own,put_self,Option.some.injEq,Prod.mk.injEq,and_true] at asleep
      simpa [blocked,asleep] using busy
    · exact writing other own ((put_other _ _ own).symm.trans asleep)
  | false =>
    rw [check_passed busy] at counting ⊢
    refine ⟨counting,⟨writers.erase thread,fresh.erase thread,?_,fun other => ?_⟩,fun other asleep => ?_,fun other asleep => ?_⟩
    · cases wanted with
      | read => rw [List.erase_of_not_mem (by simp [self])]; exact count
      | write =>
        have some_ := List.length_pos_of_mem (self.mpr rfl)
        rw [List.length_erase_of_mem (self.mpr rfl)]
        change lock.writeWaiting - 1 = _
        omega
    · by_cases own : other = thread
      · simp [own,passed,put_self,fresh.not_mem_erase]
      · simp only [List.mem_erase_of_ne own,members other own,passed,put_other _ _ own]
    all_goals
      have own : other ≠ thread := by
        rintro rfl
        simp [passed,put_self] at asleep
      simp only [passed,put_other _ _ own] at asleep
    · cases wanted with
      | write => exact .inr ⟨_,List.mem_cons_self,rfl⟩
      | read =>
        exact (reading other own asleep).imp id fun ⟨opened,listed,writes⟩ => ⟨opened,List.mem_cons_of_mem _ listed,writes⟩
    · have some_ := writing other own asleep
      simp only [passed]
      split <;> omega

theorem step_awaited (awaited : Awaited lock) (stepped : step lock action = some next) : Awaited next := by
  obtain ⟨counted,⟨writers,fresh,count,members⟩,reading,writing⟩ := awaited
  rcases step_cases stepped with ⟨thread,wanted,_,out,rfl⟩ | ⟨thread,wanted,_,waits,rfl⟩ | ⟨thread,mode,_,_,found,rfl⟩
  · have absent : thread ∉ writers := by simp [members,out]
    cases wanted with
    | read => exact check_awaited counted fresh count (by simp [absent]) (fun other _ => members other) (fun other _ => reading other) fun other _ => writing other
    | write =>
      refine check_awaited (announce_counted counted) (List.nodup_cons.mpr ⟨absent,fresh⟩) ?_ (by simp) (fun other own => ?_)
        (fun other _ asleep => .inl ?_) fun other _ => writing other
      · change lock.writeWaiting + 1 = _
        rw [count]
        rfl
      · rw [List.mem_cons,or_iff_right own]
        exact members other
      · change 0 < lock.writeWaiting + 1
        omega
  · exact check_awaited counted fresh count (by simp [members,waits]) (fun other _ => members other) (fun other _ => reading other) fun other _ => writing other
  · exact leave_awaited ⟨counted,⟨writers,fresh,count,members⟩,reading,writing⟩ found

theorem initial_awaited (ι : Type) [DecidableEq ι] : Awaited (initial ι) where
  counted := initial_counted ι
  announced := ⟨[],List.nodup_nil,rfl,by simp [initial]⟩
  reading _ asleep := by cases asleep
  writing _ asleep := by cases asleep

-- No wake-up is lost: with nobody inside, one of those who wait has been woken and gets in.
theorem woken_gets_in (ran : run step (initial ι) actions = some lock) (empty : lock.inside = []) (waits : lock.waiting thread ≠ none) :
    ∃ first wanted, lock.waiting first = some (wanted,true) ∧ blocked lock wanted = false := by
  obtain ⟨counted,⟨writers,_,count,members⟩,reading,writing⟩ : Awaited lock :=
    run_preserved (fun _ _ _ awaited stepped => step_awaited awaited stepped) (initial_awaited ι) ran
  have unread : lock.readCount = 0 := by
    rw [counted,empty]
    rfl
  cases writers with
  | cons writer rest =>
    obtain ⟨woken,asked⟩ := (members writer).mp List.mem_cons_self
    cases woken with
    | true => exact ⟨writer,.write,asked,by simp [blocked,unread]⟩
    | false => cases unread ▸ writing writer asked
  | nil =>
    obtain ⟨⟨wanted,woken⟩,asked⟩ := Option.ne_none_iff_exists'.mp waits
    cases wanted with
    | write => cases (members thread).mpr ⟨woken,asked⟩
    | read =>
      cases woken with
      | true => exact ⟨thread,.read,asked,by simp [blocked,count]⟩
      | false => simpa [count,empty] using reading thread asked

-- A reader leaves while a writer and another reader wait.
theorem woken_gets_in_sample : ∃ lock, run step (initial Nat) [.enter 0 .read,.enter 1 .write,.enter 2 .read,.leave 0] = some lock ∧
    ∃ first wanted, lock.waiting first = some (wanted,true) ∧ blocked lock wanted = false := by
  obtain ⟨lock,ran⟩ : ∃ lock, run step (initial Nat) [.enter 0 .read,.enter 1 .write,.enter 2 .read,.leave 0] = some lock := ⟨_,rfl⟩
  have empty : lock.inside = [] := by
    cases ran
    rfl
  have waits : lock.waiting 2 ≠ none := by
    cases ran
    decide
  exact ⟨lock,ran,woken_gets_in ran empty waits⟩

end VeritasOs.RwLock
