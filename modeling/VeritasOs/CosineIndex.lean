import VeritasOs.RwLock

namespace VeritasOs.CosineIndex
open Schedule RwLock

-- What the arrays `vecs` and `ids` of the .npz file hold.
structure Arrays (Row : Type) where
  ndim : Nat
  width : Nat
  vecs : List Row
  ids : List String

structure Index (Row : Type) where
  vecs : List Row
  ids : List String
deriving DecidableEq

variable {Row : Type}

def Index.empty : Index Row := ⟨[],[]⟩

def validateLoadedIndexOrReset (dim : Nat) (finite : Row → Bool) (data : Arrays Row) : Index Row :=
  if data.ndim ≠ 2 then .empty
  else if data.width ≠ dim then .empty
  else if data.ids.length ≠ data.vecs.length then .empty
  else if !data.vecs.all finite then .empty
  else ⟨data.vecs,data.ids⟩

variable {vecs : List Row} {ids : List String} {persistent : Bool}

theorem saved_index_loads (rows : vecs.all finite = true) :
    validateLoadedIndexOrReset dim finite ⟨2,dim,vecs,ids⟩ = if ids.length = vecs.length then ⟨vecs,ids⟩ else .empty := by
  unfold validateLoadedIndexOrReset
  by_cases level : ids.length = vecs.length
  · simp [level,rows]
  · simp [level]

-- Where a thread is in add, save or search; `nested` marks the save that add calls.
inductive Pc (Row : Type) where
  | idle
  | adding (rows : List Row) (new : List String)
  | joining (rows : List Row) (new : List String)
  | storing (rows : List Row) (new : List String) (old : List Row)
  | extending (new : List String)
  | saving (nested : Bool)
  | readingVecs (nested : Bool)
  | readingIds (nested : Bool) (vecs : List Row)
  | writing (nested : Bool) (vecs : List Row) (ids : List String)
  | saved (nested : Bool)
  | added
  | searching
  | counting
  | copying
  | listing (vecs : List Row)
  | searched

inductive Operation (Row : Type) where
  | add (rows : List Row) (new : List String)
  | save
  | search

-- A thread starts a call, takes its next step, or fails at the write of the file.
inductive Move (ι Row : Type) where
  | call (thread : ι) (operation : Operation Row)
  | go (thread : ι)
  | fail (thread : ι)

-- `seen` and `written` are what searches copied and what the file was written with, the latest first.
structure Machine (ι Row : Type) where
  lock : Lock ι
  vecs : List Row
  ids : List String
  pc : ι → Pc Row
  seen : List (Index Row)
  written : List (Index Row)

variable {ι : Type} [DecidableEq ι]

def Machine.at_ (machine : Machine ι Row) (thread : ι) (pc : Pc Row) : Machine ι Row := { machine with pc := put machine.pc thread pc }

def acquire (lock : Lock ι) (thread : ι) (wanted : Section) : Action ι :=
  if (lock.waiting thread).isNone then .enter thread wanted else .wake thread

def entering (machine : Machine ι Row) (thread : ι) (wanted : Section) (here inside : Pc Row) : Option (Machine ι Row) :=
  (step machine.lock (acquire machine.lock thread wanted)).map fun lock =>
    { machine with lock := lock, pc := put machine.pc thread (if (lock.waiting thread).isNone then inside else here) }

def leaving (machine : Machine ι Row) (thread : ι) (outside : Pc Row) : Option (Machine ι Row) :=
  (step machine.lock (.leave thread)).map fun lock => { machine with lock := lock, pc := put machine.pc thread outside }

def outOf (nested : Bool) : Pc Row := if nested then .added else .idle

-- save() returns at once where the index has no path.
def go (persistent : Bool) (machine : Machine ι Row) (thread : ι) : Option (Machine ι Row) :=
  match machine.pc thread with
  | .idle => none
  | .adding rows new => entering machine thread .write (.adding rows new) (.joining rows new)
  | .joining rows new => some (machine.at_ thread (.storing rows new machine.vecs))
  | .storing rows new old => some { machine.at_ thread (.extending new) with vecs := if old.isEmpty then rows else old ++ rows }
  | .extending new => some { machine.at_ thread (if persistent then .saving true else .added) with ids := machine.ids ++ new }
  | .saving nested => entering machine thread .write (.saving nested) (.readingVecs nested)
  | .readingVecs nested => some (machine.at_ thread (.readingIds nested machine.vecs))
  | .readingIds nested vecs => some (machine.at_ thread (.writing nested vecs machine.ids))
  | .writing nested vecs ids => some { machine.at_ thread (.saved nested) with written := ⟨vecs,ids⟩ :: machine.written }
  | .saved nested => leaving machine thread (outOf nested)
  | .added => leaving machine thread .idle
  | .searching => entering machine thread .read .searching .counting
  | .counting => some (machine.at_ thread (if machine.ids = [] then .searched else .copying))
  | .copying => some (machine.at_ thread (.listing machine.vecs))
  | .listing vecs => some { machine.at_ thread .searched with seen := ⟨vecs,machine.ids⟩ :: machine.seen }
  | .searched => leaving machine thread .idle

-- add refuses rows and ids that are not as many before it takes the lock.
def start (persistent : Bool) (machine : Machine ι Row) (thread : ι) : Operation Row → Machine ι Row
  | .add rows new => if new.length = rows.length then machine.at_ thread (.adding rows new) else machine
  | .save => if persistent then machine.at_ thread (.saving false) else machine
  | .search => machine.at_ thread .searching

def idle : Pc Row → Bool
  | .idle => true
  | _ => false

def move (persistent : Bool) (machine : Machine ι Row) : Move ι Row → Option (Machine ι Row)
  | .call thread operation => if idle (machine.pc thread) then some (start persistent machine thread operation) else none
  | .go thread => go persistent machine thread
  | .fail thread =>
    match machine.pc thread with
    | .writing nested _ _ => some (machine.at_ thread (.saved nested))
    | _ => none

def lockAction (machine : Machine ι Row) : Move ι Row → Option (Action ι)
  | .go thread =>
    match machine.pc thread with
    | .adding _ _ | .saving _ => some (acquire machine.lock thread .write)
    | .searching => some (acquire machine.lock thread .read)
    | .saved _ | .added | .searched => some (.leave thread)
    | _ => none
  | _ => none

def MeetsLock (machine : Machine ι Row) (action : Move ι Row) : Prop :=
  ∀ taken, lockAction machine action = some taken → Met machine.lock taken

def held : Pc Row → List Section
  | .idle | .adding _ _ | .searching => []
  | .joining _ _ | .storing _ _ _ | .extending _ | .added => [.write]
  | .saving nested => if nested then [.write] else []
  | .readingVecs nested | .readingIds nested _ | .writing nested _ _ | .saved nested => if nested then [.write,.write] else [.write]
  | .counting | .copying | .listing _ | .searched => [.read]

def wants : Pc Row → Option Section
  | .adding _ _ | .saving _ => some .write
  | .searching => some .read
  | _ => none

def opened (inside : List (ι × Section)) (thread : ι) : List Section := (inside.filter fun open_ => open_.1 = thread).map Prod.snd

def Fits (vecs ids : Nat) : Pc Row → Prop
  | .adding rows new => rows.length = new.length
  | .joining rows new => rows.length = new.length ∧ vecs = ids
  | .storing rows new old => rows.length = new.length ∧ old.length = ids ∧ vecs = ids
  | .extending new => vecs = ids + new.length
  | .readingIds _ seen => seen.length = ids ∧ vecs = ids
  | .writing _ seen names => seen.length = names.length ∧ vecs = ids
  | .listing seen => seen.length = ids ∧ vecs = ids
  | .idle | .saving false | .searching => True
  | _ => vecs = ids

def Level (index : Index Row) : Prop := index.ids.length = index.vecs.length

structure Consistent (machine : Machine ι Row) : Prop where
  counted : Counted machine.lock
  exclusive : Exclusive machine.lock
  holding : ∀ thread, opened machine.lock.inside thread = held (machine.pc thread)
  waits : ∀ thread wait, machine.lock.waiting thread = some wait → wants (machine.pc thread) = some wait.1
  fits : ∀ thread, Fits machine.vecs.length machine.ids.length (machine.pc thread)
  level : (∀ thread new, machine.pc thread ≠ .extending new) → Level ⟨machine.vecs,machine.ids⟩
  seen : ∀ index ∈ machine.seen, Level index
  written : ∀ index ∈ machine.written, Level index

theorem opened_cons (inside : List (ι × Section)) (thread other : ι) (mode : Section) :
    opened ((thread,mode) :: inside) other = if other = thread then mode :: opened inside other else opened inside other := by
  unfold opened
  by_cases own : other = thread
  · subst own
    simp
  · simp [own,Ne.symm own]

theorem opened_erase (inside : List (ι × Section)) (thread other : ι) : opened (inside.eraseP fun open_ => open_.1 = thread) other =
      if other = thread then (opened inside other).tail else opened inside other := by
  induction inside with
  | nil => simp [opened]
  | cons first rest ih =>
    obtain ⟨owner,mode⟩ := first
    by_cases own : owner = thread
    · subst own
      rw [List.eraseP_cons_of_pos (by simp),opened_cons]
      split <;> rfl
    · rw [List.eraseP_cons_of_neg (by simpa using own),opened_cons,opened_cons,ih]
      by_cases same : other = thread
      · subst same
        simp [Ne.symm own]
      · simp [same]

theorem opened_mem {inside : List (ι × Section)} {thread : ι} {mode : Section} : (thread,mode) ∈ inside ↔ mode ∈ opened inside thread := by
  simp [opened]

theorem acquire_cases {lock next : Lock ι} {thread : ι} {wanted : Section} (known : ∀ wait, lock.waiting thread = some wait → wait.1 = wanted)
    (stepped : step lock (acquire lock thread wanted) = some next) : (∀ other, other ≠ thread → next.waiting other = lock.waiting other) ∧
      ((next.waiting thread = some (wanted,false) ∧ next.inside = lock.inside) ∨
        (next.waiting thread = none ∧ next.inside = (thread,wanted) :: lock.inside)) := by
  have checked : ∀ before : Lock ι, before.waiting = lock.waiting → before.inside = lock.inside → next = check before thread wanted →
      (∀ other, other ≠ thread → next.waiting other = lock.waiting other) ∧
        ((next.waiting thread = some (wanted,false) ∧ next.inside = lock.inside) ∨
          (next.waiting thread = none ∧ next.inside = (thread,wanted) :: lock.inside)) := by
    rintro before waits same rfl
    cases busy : blocked before wanted with
    | true =>
      rw [check_blocked busy]
      exact ⟨fun other apart => by simp [put,apart,waits],Or.inl ⟨by simp [put],same⟩⟩
    | false =>
      rw [check_passed busy]
      exact ⟨fun other apart => by simp [passed,put,apart,waits],Or.inr ⟨by simp [passed,put],by simp [passed,same]⟩⟩
  unfold acquire at stepped
  rcases step_cases stepped with ⟨owner,mode,taken,_,next_is⟩ | ⟨owner,mode,taken,waits,next_is⟩ | ⟨owner,mode,taken,_⟩
  · split at taken
    · cases taken
      exact checked (announce lock wanted) (by cases wanted <;> rfl) (announce_inside lock wanted) next_is
    · cases taken
  · split at taken
    · cases taken
    · cases taken
      obtain rfl : mode = wanted := known _ waits
      exact checked lock rfl rfl next_is
  · split at taken <;> cases taken

theorem leave_cases {lock next : Lock ι} {thread : ι} (stepped : step lock (.leave thread) = some next) :
    next.inside = (lock.inside.eraseP fun open_ => open_.1 = thread) ∧
      ∀ other wait, next.waiting other = some wait → ∃ woken, lock.waiting other = some (wait.1,woken) := by
  rcases step_cases stepped with ⟨_,_,taken,_⟩ | ⟨_,_,taken,_⟩ | ⟨owner,mode,taken,_,_,rfl⟩
  · cases taken
  · cases taken
  · cases taken
    refine ⟨leave_inside lock thread mode,?_⟩
    intro other wait found
    have woken : (leave lock thread mode).waiting other = lock.waiting other ∨
        (leave lock thread mode).waiting other = (lock.waiting other).map fun wait => (wait.1,true) := by
      unfold leave
      cases mode with
      | read =>
        dsimp only
        split
        · exact Or.inr rfl
        · exact Or.inl rfl
      | write => exact Or.inr rfl
    rcases woken with same | same
    · exact ⟨wait.2,same.symm.trans found⟩
    · rw [same] at found
      obtain ⟨before,there,rfl⟩ := Option.map_eq_some_iff.mp found
      exact ⟨before.2,there⟩

theorem fits_free {vecs ids more names : Nat} {pc : Pc Row} (free : held pc = []) (fits : Fits vecs ids pc) : Fits more names pc := by
  cases pc with
  | idle => trivial
  | adding rows new => exact fits
  | searching => trivial
  | saving nested =>
    cases nested with
    | false => trivial
    | true => cases free
  | readingVecs nested => cases nested <;> cases free
  | readingIds nested vecs => cases nested <;> cases free
  | writing nested vecs ids => cases nested <;> cases free
  | saved nested => cases nested <;> cases free
  | _ => cases free

variable {machine : Machine ι Row}

theorem Consistent.alone (consistent : Consistent machine) {thread other : ι} (writes : .write ∈ held (machine.pc thread))
    (apart : other ≠ thread) : held (machine.pc other) = [] := by
  rw [← consistent.holding] at writes ⊢
  by_contra some_
  obtain ⟨mode,present⟩ := List.exists_mem_of_ne_nil _ some_
  exact apart (consistent.exclusive _ (opened_mem.mpr writes) rfl _ (opened_mem.mpr present))

theorem Consistent.moved (consistent : Consistent machine) {thread : ι} {next : Pc Row} {seen written : List (Index Row)}
    (same : held next = held (machine.pc thread)) (quiet : wants (machine.pc thread) = none) (own : Fits vecs.length ids.length next)
    (others : ∀ other, other ≠ thread → Fits vecs.length ids.length (machine.pc other))
    (level : (∀ other new, put machine.pc thread next other ≠ .extending new) → Level ⟨vecs,ids⟩) (shown : ∀ index ∈ seen, Level index)
    (kept : ∀ index ∈ written, Level index) : Consistent ⟨machine.lock,vecs,ids,put machine.pc thread next,seen,written⟩ := by
  refine ⟨consistent.counted,consistent.exclusive,?_,?_,?_,level,shown,kept⟩
  · intro other
    rw [consistent.holding]
    dsimp only [put]
    split
    next here => rw [here,same]
    next => rfl
  · intro other wait waits
    have wanted := consistent.waits other wait waits
    dsimp only [put]
    split
    next here =>
      rw [here,quiet] at wanted
      cases wanted
    next => exact wanted
  · intro other
    dsimp only [put]
    split
    next => exact own
    next apart => exact others other apart

theorem Consistent.reads (consistent : Consistent machine) {thread : ι} (next : Pc Row) (same : held next = held (machine.pc thread))
    (quiet : wants (machine.pc thread) = none) (own : Fits machine.vecs.length machine.ids.length next)
    (before : ∀ new, machine.pc thread ≠ .extending new) {seen written : List (Index Row)} (shown : ∀ index ∈ seen, Level index)
    (kept : ∀ index ∈ written, Level index) :
    Consistent ⟨machine.lock,machine.vecs,machine.ids,put machine.pc thread next,seen,written⟩ := by
  refine consistent.moved same quiet own (fun other _ => consistent.fits other) ?_ shown kept
  intro settled
  refine consistent.level ?_
  intro other new extending
  by_cases here : other = thread
  · subst here
    exact before new extending
  · have elsewhere := settled other new
    rw [put,if_neg here] at elsewhere
    exact elsewhere extending

variable {next : Machine ι Row}

theorem Consistent.entered (consistent : Consistent machine) {thread : ι} {wanted : Section} (inside : Pc Row)
    (wants_ : wants (machine.pc thread) = some wanted) (opens : held inside = wanted :: held (machine.pc thread))
    (own : machine.vecs.length = machine.ids.length → Fits machine.vecs.length machine.ids.length inside)
    (met : Met machine.lock (acquire machine.lock thread wanted))
    (moved : entering machine thread wanted (machine.pc thread) inside = some next) : Consistent next := by
  obtain ⟨lock,stepped,rfl⟩ := Option.map_eq_some_iff.mp moved
  have known : ∀ wait, machine.lock.waiting thread = some wait → wait.1 = wanted := fun wait found =>
    (Option.some.inj ((consistent.waits thread wait found).symm.trans wants_))
  have exclusive := (step_exclusive consistent.counted consistent.exclusive stepped).mpr met
  have counted := step_counted consistent.counted stepped
  obtain ⟨untouched,⟨waits,same⟩ | ⟨free,more⟩⟩ := acquire_cases known stepped
  · -- the check failed: only the wait is new
    have place : put machine.pc thread (if (lock.waiting thread).isNone then inside else machine.pc thread) = machine.pc := by
      funext other
      simp only [put,waits,Option.isNone_some,Bool.false_eq_true,if_false]
      split
      next here => rw [here]
      next => rfl
    rw [place]
    refine ⟨counted,exclusive,fun other => ?_,fun other wait found => ?_,consistent.fits,consistent.level,consistent.seen,consistent.written⟩
    · rw [same]
      exact consistent.holding other
    · by_cases here : other = thread
      · subst here
        obtain rfl := Option.some.inj (waits.symm.trans found)
        exact wants_
      · rw [untouched other here] at found
        exact consistent.waits other wait found
  · have place : ∀ other, put machine.pc thread (if (lock.waiting thread).isNone then inside else machine.pc thread) other =
        if other = thread then inside else machine.pc other := by
      intro other
      simp [put,free]
    have settled : ∀ other new, machine.pc other ≠ .extending new := by
      intro other new extending
      -- another writer would be inside together with this thread
      have writes : .write ∈ opened lock.inside other := by
        rw [more,opened_cons]
        split
        next here =>
          rw [← here,extending] at wants_
          cases wants_
        next =>
          rw [consistent.holding,extending]
          exact List.mem_singleton_self _
      have here := exclusive _ (opened_mem.mpr writes) rfl (thread,wanted) (by rw [more]; exact List.mem_cons_self)
      dsimp only at here
      rw [here,extending] at wants_
      cases wants_
    have level := consistent.level settled
    refine ⟨counted,exclusive,fun other => ?_,fun other wait found => ?_,fun other => ?_,fun _ => level,consistent.seen,consistent.written⟩
    · dsimp only
      rw [more,opened_cons,place,consistent.holding]
      split
      next here => rw [opens,here]
      next => rfl
    · dsimp only at found ⊢
      rw [place]
      split
      next here =>
        rw [here,free] at found
        cases found
      next here =>
        rw [untouched other here] at found
        exact consistent.waits other wait found
    · dsimp only
      rw [place]
      split
      next => exact own level.symm
      next => exact consistent.fits other

theorem Consistent.left (consistent : Consistent machine) {thread : ι} (mode : Section) (outside : Pc Row)
    (closes : held (machine.pc thread) = mode :: held outside) (quiet : wants (machine.pc thread) = none)
    (own : Fits machine.vecs.length machine.ids.length outside) (before : ∀ new, machine.pc thread ≠ .extending new)
    (moved : leaving machine thread outside = some next) : Consistent next := by
  obtain ⟨lock,stepped,rfl⟩ := Option.map_eq_some_iff.mp moved
  obtain ⟨less,waits⟩ := leave_cases stepped
  have exclusive := (step_exclusive consistent.counted consistent.exclusive stepped).mpr trivial
  refine ⟨step_counted consistent.counted stepped,exclusive,fun other => ?_,fun other wait found => ?_,fun other => ?_,?_,consistent.seen,consistent.written⟩
  · dsimp only
    rw [less,opened_erase,consistent.holding]
    dsimp only [put]
    split
    next here => rw [here,closes,List.tail_cons]
    next => rfl
  · obtain ⟨woken,found⟩ := waits other wait found
    have wanted := consistent.waits other _ found
    dsimp only [put]
    split
    next here =>
      rw [here,quiet] at wanted
      cases wanted
    next => exact wanted
  · dsimp only [put]
    split
    next => exact own
    next => exact consistent.fits other
  · intro settled
    refine consistent.level ?_
    intro other new extending
    by_cases here : other = thread
    · subst here
      exact before new extending
    · have elsewhere := settled other new
      dsimp only [put] at elsewhere
      rw [if_neg here] at elsewhere
      exact elsewhere extending

theorem Consistent.start (consistent : Consistent machine) {thread : ι} (operation : Operation Row)
    (free : idle (machine.pc thread) = true) : Consistent (start persistent machine thread operation) := by
  have here : machine.pc thread = .idle := by
    cases at_ : machine.pc thread with
    | idle => rfl
    | _ => rw [at_] at free; cases free
  have begins : ∀ next : Pc Row, held next = [] → Fits machine.vecs.length machine.ids.length next → Consistent (machine.at_ thread next) := by
    intro next nothing fits
    exact consistent.reads next (by rw [here,nothing]; rfl) (by rw [here]; rfl) fits (by rw [here]; exact fun _ same => by cases same)
      consistent.seen consistent.written
  cases operation with
  | add rows new =>
    unfold CosineIndex.start
    dsimp only
    split
    next same => exact begins _ rfl same.symm
    next => exact consistent
  | save =>
    unfold CosineIndex.start
    dsimp only
    split
    next => exact begins _ rfl trivial
    next => exact consistent
  | search => exact begins _ rfl trivial

theorem Consistent.writes (consistent : Consistent machine) {thread : ι} (next : Pc Row) (inside : held (machine.pc thread) = [.write])
    (same : held next = [.write]) (quiet : wants (machine.pc thread) = none) (own : Fits vecs.length ids.length next)
    (level : (∀ new, next ≠ .extending new) → Level ⟨vecs,ids⟩) :
    Consistent ⟨machine.lock,vecs,ids,put machine.pc thread next,machine.seen,machine.written⟩ := by
  refine consistent.moved (by rw [inside,same]) quiet own ?_ ?_ consistent.seen consistent.written
  · intro other apart
    exact fits_free (consistent.alone (by rw [inside]; exact List.mem_singleton_self _) apart) (consistent.fits other)
  · intro settled
    refine level fun new extending => settled thread new ?_
    rw [put,if_pos rfl,extending]

theorem Consistent.go (consistent : Consistent machine) {thread : ι} (met : MeetsLock machine (.go thread))
    (moved : go persistent machine thread = some next) : Consistent next := by
  have own := consistent.fits thread
  unfold CosineIndex.go at moved
  unfold MeetsLock lockAction at met
  cases here : machine.pc thread with
  | idle => simp only [here] at moved; cases moved
  | adding rows new =>
    simp only [here] at moved met own
    rw [← here] at moved
    refine consistent.entered (.joining rows new) (by rw [here]; rfl) (by rw [here]; rfl) ?_ (met _ rfl) moved
    exact fun level => ⟨own,level⟩
  | joining rows new =>
    simp only [here] at moved own
    obtain rfl := Option.some.inj moved
    refine consistent.reads (.storing rows new machine.vecs) (by rw [here]; rfl) (by rw [here]; rfl) ?_ (by simp [here]) consistent.seen consistent.written
    exact ⟨own.1,own.2,own.2⟩
  | storing rows new old =>
    simp only [here] at moved own
    obtain rfl := Option.some.inj moved
    have long : (if old.isEmpty then rows else old ++ rows).length = machine.ids.length + new.length := by
      cases old with
      | nil =>
        change rows.length = _
        rw [own.1,← own.2.1]
        simp
      | cons first rest =>
        rw [if_neg (by simp),List.length_append,own.1,own.2.1]
    exact consistent.writes (.extending new) (by rw [here]; rfl) rfl (by rw [here]; rfl) long (fun other => absurd rfl (other new))
  | extending new =>
    simp only [here] at moved own
    obtain rfl := Option.some.inj moved
    have level : machine.vecs.length = (machine.ids ++ new).length := by rw [List.length_append]; exact own
    refine consistent.writes _ (by rw [here]; rfl) ?_ (by rw [here]; rfl) ?_ (fun _ => level.symm)
    · split <;> rfl
    · split <;> exact level
  | saving nested =>
    simp only [here] at moved met own
    rw [← here] at moved
    refine consistent.entered (.readingVecs nested) (by rw [here]; rfl) ?_ (fun level => level) (met _ rfl) moved
    rw [here]
    cases nested <;> rfl
  | readingVecs nested =>
    simp only [here] at moved own
    obtain rfl := Option.some.inj moved
    refine consistent.reads (.readingIds nested machine.vecs) (by rw [here]; rfl) (by rw [here]; rfl) ?_ (by simp [here]) consistent.seen consistent.written
    exact ⟨own,own⟩
  | readingIds nested vecs =>
    simp only [here] at moved own
    obtain rfl := Option.some.inj moved
    exact consistent.reads (.writing nested vecs machine.ids) (by rw [here]; rfl) (by rw [here]; rfl) own (by simp [here])
      consistent.seen consistent.written
  | writing nested vecs ids =>
    simp only [here] at moved own
    obtain rfl := Option.some.inj moved
    refine consistent.reads (.saved nested) (by rw [here]; rfl) (by rw [here]; rfl) own.2 (by simp [here]) consistent.seen ?_
    exact List.forall_mem_cons.mpr ⟨own.1.symm,consistent.written⟩
  | saved nested =>
    simp only [here] at moved own
    refine consistent.left .write _ ?_ (by rw [here]; rfl) ?_ (by simp [here]) moved
    · rw [here]
      cases nested <;> rfl
    · cases nested with
      | true => exact own
      | false => trivial
  | added =>
    simp only [here] at moved
    exact consistent.left .write .idle (by rw [here]; rfl) (by rw [here]; rfl) trivial (by simp [here]) moved
  | searching =>
    simp only [here] at moved met
    rw [← here] at moved
    exact consistent.entered .counting (by rw [here]; rfl) (by rw [here]; rfl) (fun level => level) (met _ rfl) moved
  | counting =>
    simp only [here] at moved own
    obtain rfl := Option.some.inj moved
    refine consistent.reads _ ?_ (by rw [here]; rfl) ?_ (by simp [here]) consistent.seen consistent.written
    · rw [here]
      split <;> rfl
    · split <;> exact own
  | copying =>
    simp only [here] at moved own
    obtain rfl := Option.some.inj moved
    refine consistent.reads (.listing machine.vecs) (by rw [here]; rfl) (by rw [here]; rfl) ?_ (by simp [here]) consistent.seen consistent.written
    exact ⟨own,own⟩
  | listing vecs =>
    simp only [here] at moved own
    obtain rfl := Option.some.inj moved
    refine consistent.reads .searched (by rw [here]; rfl) (by rw [here]; rfl) own.2 (by simp [here]) ?_ consistent.written
    exact List.forall_mem_cons.mpr ⟨own.1.symm,consistent.seen⟩
  | searched =>
    simp only [here] at moved
    exact consistent.left .read .idle (by rw [here]; rfl) (by rw [here]; rfl) trivial (by simp [here]) moved

variable {action : Move ι Row}

theorem Consistent.move (consistent : Consistent machine) (met : MeetsLock machine action)
    (moved : move persistent machine action = some next) : Consistent next := by
  cases action with
  | call thread operation =>
    simp only [CosineIndex.move,Option.ite_none_right_eq_some,Option.some.injEq] at moved
    rw [← moved.2]
    exact consistent.start operation moved.1
  | go thread => exact consistent.go met moved
  | fail thread =>
    have own := consistent.fits thread
    unfold CosineIndex.move at moved
    dsimp only at moved
    cases here : machine.pc thread with
    | writing nested vecs ids =>
      simp only [here] at moved own
      obtain rfl := Option.some.inj moved
      exact consistent.reads (.saved nested) (by rw [here]; rfl) (by rw [here]; rfl) own.2 (by simp [here]) consistent.seen consistent.written
    | _ => simp only [here] at moved; cases moved

def started (ι : Type) (index : Index Row) : Machine ι Row := ⟨initial ι,index.vecs,index.ids,fun _ => .idle,[],[]⟩

theorem loaded_level (dim : Nat) (finite : Row → Bool) (data : Arrays Row) : Level (validateLoadedIndexOrReset dim finite data) := by
  unfold validateLoadedIndexOrReset
  split
  · rfl
  · split
    · rfl
    · split
      · rfl
      next level =>
        split
        · rfl
        · exact not_not.mp level

theorem started_consistent (level : Level index) : Consistent (started ι index) :=
  ⟨initial_counted ι,initial_exclusive ι,fun _ => rfl,fun _ _ found => (by cases found),fun _ => trivial,fun _ => level,
    fun _ present => (by cases present),fun _ present => (by cases present)⟩

def besideWriter : List (Move Bool Nat) :=
  [.call true (.add [1] ["a"]),.go true,.go true,.go true] ++ [.call false .search,.go false,.go false,.go false,.go false,.go false] ++
  [.call false (.add [2] ["b"]),.go false,.go false,.go false,.go false,.go false,.go false,.go false,.go false]

theorem move_lock (moved : move persistent machine action = some next) : (lockAction machine action = none ∧ next.lock = machine.lock) ∨
      ∃ taken, lockAction machine action = some taken ∧ step machine.lock taken = some next.lock := by
  cases action with
  | call thread operation =>
    simp only [move,Option.ite_none_right_eq_some,Option.some.injEq] at moved
    refine Or.inl ⟨rfl,?_⟩
    rw [← moved.2]
    unfold start
    cases operation with
    | search => rfl
    | _ => dsimp only; split <;> rfl
  | fail thread =>
    refine Or.inl ⟨rfl,?_⟩
    unfold move at moved
    dsimp only at moved
    split at moved
    · obtain rfl := Option.some.inj moved
      rfl
    · cases moved
  | go thread =>
    unfold move go at moved
    unfold lockAction
    cases here : machine.pc thread with
    | idle => simp only [here] at moved; cases moved
    | adding | saving | searching | saved | added | searched =>
      simp only [here] at moved ⊢
      obtain ⟨lock,stepped,rfl⟩ := Option.map_eq_some_iff.mp moved
      exact Or.inr ⟨_,rfl,stepped⟩
    | _ =>
      simp only [here] at moved ⊢
      obtain rfl := Option.some.inj moved
      exact Or.inl ⟨trivial,rfl⟩

def Move.thread : Move ι Row → ι
  | .call thread _ | .go thread | .fail thread => thread

omit [DecidableEq ι] in
theorem acquire_thread (lock : Lock ι) (thread : ι) (wanted : Section) : (acquire lock thread wanted).thread = thread := by
  unfold acquire
  split <;> rfl

omit [DecidableEq ι] in
theorem lockAction_thread (found : lockAction machine action = some taken) : taken.thread = action.thread := by
  cases action with
  | go thread =>
    unfold lockAction at found
    dsimp only at found
    cases here : machine.pc thread with
    | adding | saving | searching =>
      simp only [here] at found
      obtain rfl := Option.some.inj found
      exact acquire_thread _ _ _
    | saved | added | searched =>
      simp only [here] at found
      obtain rfl := Option.some.inj found
      rfl
    | _ => simp only [here] at found; cases found
  | _ => cases found

theorem solo_meets {index : Index Row} (thread : ι) {moves : List (Move ι Row)} (own : ∀ action ∈ moves, action.thread = thread) :
    Meets (move persistent) MeetsLock (started ι index) moves := by
  refine @meets_of_invariant _ _ _ _ (fun machine => ∀ opened ∈ machine.lock.inside, opened.1 = thread) _ _ (fun action => action.thread = thread)
    ?_ ?_ (fun _ present => by cases present) own
  · intro machine action mine here taken found
    refine met_of_alone fun writer present _ => ?_
    rw [lockAction_thread found,here]
    exact mine writer present
  · intro machine action next mine here moved opened present
    rcases move_lock moved with ⟨_,same⟩ | ⟨taken,found,stepped⟩
    · rw [same] at present
      exact mine opened present
    · rcases step_inside stepped opened present with earlier | new
      · exact mine opened earlier
      · rw [new,lockAction_thread found,here]

def oneAdd : List (Move Bool Nat) := .call true (.add [1] ["a"]) :: List.replicate 9 (.go true)

end VeritasOs.CosineIndex
