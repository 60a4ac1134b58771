import Mathlib.Data.List.Chain
import VeritasOs.LogRuns
import VeritasOs.PostgresConcurrent

namespace VeritasOs.PostgresChain
open BindArtifacts TrustLog PostgresLog PostgresConcurrent LogRuns

-- What trustlog_entries in id order and trustlog_chain_state are to be.
structure OneChain (tables : Tables) : Prop where
  linked : tables.entries.IsChain fun earlier later => later.prevHash = earlier.hash
  head : getLastHash tables = tables.entries.getLast?.bind Row.hash

-- The entries go on, one after the other, from a chain whose head is `head`.
def Continues (driver : Driver) (head : Option String) : List Dict → Prop
  | [] => True
  | entry :: rest =>
    textColumn driver (entry.get "sha256_prev") = some head ∧
      ∃ hash, textColumn driver (entry.get "sha256") = some hash ∧ Continues driver hash rest

def hasRead : Phase → Bool
  | .holding .. | .appending _ | .appended _ | .updated _ => true
  | _ => false

def importsOne : Phase → Bool
  | .checking _ | .absent _ | .importing _ | .imported _ | .advanced .. => true
  | _ => false

def ImportCall (db : Database) : Prop := ∃ session, importsOne (db.phases session) = true
def Importing (db : Database) : Prop := db.imports ≠ [] ∨ ImportCall db

def readsHead (db : Database) : Phase → Bool
  | .locked _ => db.tables.chainState.isSome
  | .unseen _ => db.tables.chainState.isNone
  | _ => false

-- The statement ends the call of import_entry without the row.
def turnedAway (driver : Driver) (db : Database) : Phase → Bool
  | .checking entry => storedId entry = "" || !textTakes (storedId entry) || db.tables.keys.contains (storedId entry)
  | .absent entry => !columnsTake driver entry
  | .importing row => db.tables.keys.contains row.requestId
  | _ => false

def Continuing (driver : Driver) (db : Database) : Action → Prop
  | .startImport entries => Continues driver (getLastHash db.tables) entries
  | _ => True

-- Appends are paused while an import is under way: none has read the head when it starts,
-- none reads it before the last call has come back. The calls of an import are made one
-- after the other, and of those that another one follows each puts its entry in.
def Paused (driver : Driver) (db : Database) : Action → Prop
  | .append .. => True
  | .startImport _ => (∀ session, hasRead (db.phases session) = false) ∧ ¬ImportCall db
  | .importNext _ => ¬ImportCall db
  | .statement session _ =>
    (readsHead db (db.phases session) = true → ¬Importing db) ∧ (turnedAway driver db (db.phases session) = true → db.imports = [])
  | .failure session => importsOne (db.phases session) = true → db.imports = []

structure Chained (tables : Tables) : Prop where
  linked : tables.entries.IsChain fun earlier later => later.prevHash = earlier.hash
  ordered : tables.entries.Pairwise fun earlier later => earlier.id < later.id
  drawn : ∀ row ∈ tables.entries, row.id ≤ tables.sequence
  head : tables.chainState = tables.entries.getLast?.map fun row => ⟨row.hash,some row.id⟩

structure Follows (tables : Tables) (row : Row) : Prop where
  linked : row.prevHash = getLastHash tables
  above : ∀ earlier ∈ tables.entries, earlier.id < row.id
  drawn : row.id ≤ tables.sequence

def active (phase : Phase) : Bool := hasRead phase || importsOne phase

def locks : Phase → Bool
  | .locked _ | .unseen _ => true
  | phase => hasRead phase

def Agrees (driver : Driver) (db : Database) : Phase → Prop
  | .holding _ previous => previous = getLastHash db.tables ∧ db.imports = []
  | .appending row | .appended row | .updated row => Follows db.tables row ∧ db.imports = []
  | .checking entry | .absent entry => Continues driver (getLastHash db.tables) (entry :: db.imports)
  | .importing row | .imported row => Follows db.tables row ∧ Continues driver row.hash db.imports
  | .advanced row head => Follows db.tables row ∧ head = ⟨row.hash,some row.id⟩ ∧ Continues driver row.hash db.imports
  | _ => True

structure Invariant (driver : Driver) (db : Database) : Prop where
  chained : Chained db.tables
  held : ∀ session, locks (db.phases session) = true → db.advisory = some session
  alone : ∀ one two, active (db.phases one) = true → active (db.phases two) = true → one = two
  agrees : ∀ session, Agrees driver db (db.phases session)
  resting : (∀ session, active (db.phases session) = false) → Continues driver (getLastHash db.tables) db.imports

variable {tables : Tables} {driver : Driver}

theorem Chained.last_hash (chained : Chained tables) : getLastHash tables = tables.entries.getLast?.bind Row.hash := by
  rw [PostgresLog.getLastHash,chained.head]
  cases tables.entries.getLast? <;> rfl

theorem Chained.oneChain (chained : Chained tables) : OneChain tables := ⟨chained.linked,chained.last_hash⟩

theorem commit_chained (chained : Chained tables) (follows : Follows tables row) : Chained (commit row ⟨row.hash,some row.id⟩ tables) := by
  have entries := commit_entries ⟨row.hash,some row.id⟩ follows.above
  constructor
  · rw [entries]
    refine List.isChain_append.mpr ⟨chained.linked,.singleton _,?_⟩
    intro earlier last later first
    cases first
    rw [follows.linked,chained.last_hash,last]
    rfl
  · rw [entries]
    refine List.pairwise_append.mpr ⟨chained.ordered,.cons (fun _ listed => nomatch listed) .nil,?_⟩
    intro earlier listed later last
    rw [List.mem_singleton.mp last]
    exact follows.above earlier listed
  · intro held listed
    rw [entries] at listed
    rcases List.mem_append.mp listed with old | last
    · exact chained.drawn held old
    · rw [List.mem_singleton.mp last]
      exact follows.drawn
  · rw [entries]
    simp [commit]

theorem drawn_chained (chained : Chained tables) : Chained { tables with sequence := tables.sequence + 1 } :=
  { chained with drawn := fun row listed => Nat.le_succ_of_le (chained.drawn row listed) }

theorem drawn_follows {requestId : String} {entry : Dict} {hash prevHash : Value} {make : Nat → Row} (chained : Chained tables)
    (made : columns driver requestId entry hash prevHash = some make) (linked : textColumn driver prevHash = some (getLastHash tables)) :
    Follows { tables with sequence := tables.sequence + 1 } (make (tables.sequence + 1)) ∧
      textColumn driver hash = some (make (tables.sequence + 1)).hash := by
  obtain ⟨numbered,_,_,hashed,held⟩ := columns_row made (tables.sequence + 1)
  exact ⟨⟨Option.some.inj (held.symm.trans linked),drawn_above chained.drawn made,Nat.le_of_eq numbered⟩,hashed⟩

theorem textColumn_optStr (taken : textColumn driver (optStr head) = some held) : held = head := by
  cases head with
  | none => exact (Option.some.inj taken).symm
  | some text =>
    simp only [optStr,textColumn] at taken
    split at taken <;> cases taken
    rfl

section Moves
variable {driver : Driver} {db next : Database} {session : Nat} {phase : Phase}

theorem isIdle_eq (free : isIdle phase = true) : phase = .idle := by
  cases phase <;> first | rfl | cases free

theorem agrees_inactive (inactive : active phase = false) : Agrees driver db phase := by
  cases phase <;> trivial

theorem agrees_frame (tables : next.tables = db.tables) (imports : next.imports = db.imports) (agrees : Agrees driver db phase) :
    Agrees driver next phase := by
  cases phase <;> simp only [Agrees,tables,imports] <;> exact agrees

theorem reader_alone (agrees : Agrees driver db phase) (reading : hasRead phase = true) : db.imports = [] := by
  cases phase <;> first | exact agrees.2 | cases reading

-- The others are in the midst of nothing, or the session has changed nothing they know of.
theorem moved (invariant : Invariant driver db) (chained : Chained next.tables) (phases : next.phases = Function.update db.phases session phase)
    (kept : ∀ other, other ≠ session → db.advisory = some other → next.advisory = some other)
    (own : locks phase = true → next.advisory = some session)
    (others : (∀ other, other ≠ session → active (db.phases other) = false) ∨
      (next.tables = db.tables ∧ next.imports = db.imports ∧ active phase = false))
    (agrees : Agrees driver next phase)
    (resting : active phase = false → (∀ other, other ≠ session → active (db.phases other) = false) →
      Continues driver (getLastHash next.tables) next.imports) : Invariant driver next := by
  have here : next.phases session = phase := by rw [phases,Function.update_self]
  have there (other : Nat) (differs : other ≠ session) : next.phases other = db.phases other := by rw [phases,Function.update_of_ne differs]
  refine ⟨chained,?_,?_,?_,?_⟩
  · intro other locked
    by_cases same : other = session
    · subst same
      exact own (here ▸ locked)
    · exact kept other same (invariant.held other (there other same ▸ locked))
  · intro one two first second
    rcases others with quiet | ⟨_,_,inactive⟩
    · have only (other : Nat) (busy : active (next.phases other) = true) : other = session := by
        by_contra differs
        rw [there other differs,quiet other differs] at busy
        cases busy
      rw [only one first,only two second]
    · have other (busy : Nat) (working : active (next.phases busy) = true) : active (db.phases busy) = true := by
        by_cases same : busy = session
        · rw [same,here,inactive] at working
          cases working
        · rwa [there busy same] at working
      exact invariant.alone one two (other one first) (other two second)
  · intro other
    by_cases same : other = session
    · rw [same,here]
      exact agrees
    · rw [there other same]
      rcases others with quiet | ⟨tables,imports,_⟩
      · exact agrees_inactive (quiet other same)
      · exact agrees_frame tables imports (invariant.agrees other)
  · intro inactive
    refine resting (by rw [←here,inactive session]) fun other differs => ?_
    rw [←there other differs,inactive other]

theorem Invariant.others (invariant : Invariant driver db) (working : active (db.phases session) = true) :
    ∀ other, other ≠ session → active (db.phases other) = false := by
  intro other differs
  by_contra busy
  exact differs (invariant.alone other session (by simpa using busy) working)

theorem entered (invariant : Invariant driver db) (before : active (db.phases session) = false) (after : active phase = false)
    (lock : locks phase = true → db.advisory = some session) : Invariant driver (db.enter session phase) := by
  refine moved invariant invariant.chained rfl (fun _ _ held => held) lock (.inr ⟨rfl,rfl,after⟩) (agrees_inactive after) ?_
  intro _ others
  refine invariant.resting fun other => ?_
  by_cases same : other = session
  · rw [same]
    exact before
  · exact others other same

theorem went_on (invariant : Invariant driver db) (working : active (db.phases session) = true) (after : active phase = true)
    (lock : locks phase = true → locks (db.phases session) = true) (agrees : Agrees driver db phase) :
    Invariant driver (db.enter session phase) := by
  refine moved invariant invariant.chained rfl (fun _ _ held => held) ?_ (.inl (invariant.others working)) agrees ?_
  · exact fun locked => invariant.held session (lock locked)
  · intro inactive
    cases after.symm.trans inactive

theorem leave_advisory (differs : other ≠ session) (held : db.advisory = some other) : (db.leave session).advisory = some other := by
  unfold Database.leave
  dsimp only
  rw [if_neg (by rw [held]; exact fun same => differs (Option.some.inj same)),held]

theorem left_off (invariant : Invariant driver db) (last : active (db.phases session) = true → db.imports = []) :
    Invariant driver (db.leave session) := by
  refine moved invariant invariant.chained rfl (fun _ differs held => leave_advisory differs held)
    (fun lie => absurd lie Bool.false_ne_true)
    (.inr ⟨rfl,rfl,rfl⟩) trivial ?_
  intro _ others
  by_cases working : active (db.phases session) = true
  · rw [show (db.leave session).imports = db.imports from rfl,last working]
    trivial
  · refine invariant.resting fun other => ?_
    by_cases same : other = session
    · rw [same]
      simpa using working
    · exact others other same

theorem drew (invariant : Invariant driver db) (working : active (db.phases session) = true)
    {requestId : String} {entry : Dict} {hash prevHash : Value} {following : Row → Phase}
    (refused : columns driver requestId entry hash prevHash = none → db.imports = [])
    (after : ∀ row, active (following row) = true) (lock : ∀ row, locks (following row) = true → locks (db.phases session) = true)
    (agrees : ∀ make, columns driver requestId entry hash prevHash = some make →
      Agrees driver { db with tables := { db.tables with sequence := db.tables.sequence + 1 } } (following (make (db.tables.sequence + 1)))) :
    Invariant driver (draw driver session requestId entry hash prevHash following db) := by
  unfold draw
  cases made : columns driver requestId entry hash prevHash with
  | none => exact left_off invariant fun _ => refused made
  | some make =>
    refine moved invariant (drawn_chained invariant.chained) rfl (fun _ _ held => held) ?_ (.inl (invariant.others working)) (agrees make made) ?_
    · exact fun locked => invariant.held session (lock _ locked)
    · intro inactive
      cases (after _).symm.trans inactive

theorem placed (invariant : Invariant driver db) (stepped : place session row phase db = some next)
    (working : active (db.phases session) = true) (known : db.tables.keys.contains row.requestId = true → db.imports = [])
    (after : active phase = true) (lock : locks phase = true → locks (db.phases session) = true) (agrees : Agrees driver db phase) :
    Invariant driver next := by
  unfold place at stepped
  split at stepped
  · cases stepped
  · split at stepped <;> cases stepped
    · exact left_off invariant fun _ => known ‹_›
    · refine moved invariant invariant.chained rfl (fun _ _ held => held) ?_ (.inl (invariant.others working))
        (agrees_frame rfl rfl agrees) ?_
      · exact fun locked => invariant.held session (lock locked)
      · intro inactive
        cases after.symm.trans inactive

theorem committed (invariant : Invariant driver db) (working : active (db.phases session) = true)
    (follows : Follows db.tables row) (continued : Continues driver row.hash db.imports) :
    Invariant driver ({ db with tables := commit row ⟨row.hash,some row.id⟩ db.tables }.leave session) :=
  moved invariant (commit_chained invariant.chained follows) rfl (fun _ differs held => leave_advisory differs held)
    (fun lie => absurd lie Bool.false_ne_true)
    (.inl (invariant.others working)) trivial (fun _ _ => continued)

end Moves

section Kept
variable {driver : Driver} {masking : Masking} {sha256 : String → String} {db next : Database} {session : Nat} {now : String}

theorem took_head (invariant : Invariant driver db) (lock : locks (db.phases session) = true) (quiet : ¬Importing db)
    (read : previous = getLastHash db.tables) :
    Invariant driver ({ db with claim := some session }.enter session (.holding entry previous)) := by
  have idle : db.imports = [] := by
    by_contra queued
    exact quiet (.inl queued)
  refine moved invariant invariant.chained rfl (fun _ _ held => held) (fun _ => invariant.held session lock) (.inl ?_) ⟨read,idle⟩
    (fun lie _ => absurd lie.symm Bool.false_ne_true)
  intro other differs
  by_contra busy
  have working : active (db.phases other) = true := by simpa using busy
  rcases (Bool.or_eq_true _ _).mp working with reading | calling
  · have locked : locks (db.phases other) = true := by
      cases held : db.phases other <;> rw [held] at reading <;> first | rfl | cases reading
    exact differs (Option.some.inj ((invariant.held other locked).symm.trans (invariant.held session lock)))
  · exact quiet (.inr ⟨other,calling⟩)

theorem columns_of_turned
    (refused : columns driver (storedId entry) entry (entry.get "sha256") (entry.get "sha256_prev") = none) : columnsTake driver entry = false := by
  rw [columnsTake,refused]
  rfl

theorem append_statement (invariant : Invariant driver db) (appending : importsOne (db.phases session) = false)
    (paused : readsHead db (db.phases session) = true → ¬Importing db)
    (stepped : statement driver masking sha256 session now db = some next) : Invariant driver next := by
  have agreed := invariant.agrees session
  have held := invariant.held session
  unfold statement at stepped
  cases phase : db.phases session <;> rw [phase] at stepped appending paused agreed held <;> dsimp only at stepped
  case idle => cases stepped
  case waiting entry =>
      split at stepped <;> cases stepped
      have free : db.advisory = none := ‹_›
      refine moved invariant invariant.chained rfl ?_ (fun _ => rfl) (.inr ⟨rfl,rfl,rfl⟩) trivial ?_
      · intro other _ taken
        cases free.symm.trans taken
      · intro _ others
        refine invariant.resting fun other => ?_
        by_cases same : other = session
        · rw [same,phase]
          rfl
        · exact others other same
  case locked entry =>
      cases state : db.tables.chainState with
      | none =>
        rw [state] at stepped
        cases stepped
        exact entered invariant (by rw [phase]; rfl) rfl fun _ => held rfl
      | some head =>
        rw [state] at stepped
        dsimp only at stepped
        split at stepped <;> cases stepped
        refine took_head invariant (by rw [phase]; rfl) (paused (by rw [readsHead,state]; rfl)) ?_
        rw [PostgresLog.getLastHash,state]
        rfl
  case unseen entry =>
      split at stepped
      · cases stepped
      · cases state : db.tables.chainState with
        | none =>
          rw [state] at stepped
          cases stepped
          refine took_head invariant (by rw [phase]; rfl) (paused (by rw [readsHead,state]; rfl)) ?_
          rw [PostgresLog.getLastHash,state]
          rfl
        | some head =>
          rw [state] at stepped
          cases stepped
          exact left_off invariant fun working => absurd working (by rw [phase]; exact Bool.false_ne_true)
  case holding entry previous =>
      have working : active (db.phases session) = true := by rw [phase]; rfl
      obtain ⟨rfl,alone⟩ := agreed
      cases made : prepareEntry masking sha256 entry (getLastHash db.tables) now with
      | error error =>
        rw [made] at stepped
        cases stepped
        exact left_off invariant fun _ => alone
      | ok pair =>
        rw [made] at stepped
        cases stepped
        refine drew invariant working (fun _ => alone) (fun _ => rfl) (fun _ _ => by rw [phase]; rfl) ?_
        intro make taken
        obtain ⟨_,_,_,_,linked⟩ := columns_row taken 0
        rw [textColumn_optStr linked] at linked
        exact ⟨(drawn_follows invariant.chained taken linked).1,alone⟩
  case appending row => exact placed invariant stepped (by rw [phase]; rfl) (fun _ => agreed.2) rfl (fun _ => by rw [phase]; rfl) agreed
  case appended row =>
      cases stepped
      exact went_on invariant (by rw [phase]; rfl) rfl (fun _ => by rw [phase]; rfl) agreed
  case updated row =>
      cases stepped
      refine committed invariant (by rw [phase]; rfl) agreed.1 ?_
      rw [agreed.2]
      trivial
  all_goals cases appending

theorem import_statement (invariant : Invariant driver db) (calling : importsOne (db.phases session) = true)
    (paused : turnedAway driver db (db.phases session) = true → db.imports = [])
    (stepped : statement driver masking sha256 session now db = some next) : Invariant driver next := by
  have agreed := invariant.agrees session
  have working : active (db.phases session) = true := by rw [active,calling,Bool.or_true]
  unfold statement at stepped
  cases phase : db.phases session <;> rw [phase] at stepped calling paused agreed <;> dsimp only at stepped
  case checking entry =>
      split at stepped <;> cases stepped
      · rename_i skipped
        exact left_off invariant fun _ => paused (by simpa [turnedAway,or_assoc] using skipped)
      · exact went_on invariant working rfl (fun lie => absurd lie Bool.false_ne_true) agreed
  case absent entry =>
      cases stepped
      obtain ⟨linked,hash,hashed,continued⟩ := agreed
      refine drew invariant working (fun refused => paused ?_) (fun _ => rfl) (fun _ lie => absurd lie Bool.false_ne_true) ?_
      · rw [turnedAway,columns_of_turned refused]
        rfl
      · intro make taken
        obtain ⟨follows,held⟩ := drawn_follows invariant.chained taken linked
        cases hashed.symm.trans held
        exact ⟨follows,continued⟩
  case importing row => exact placed invariant stepped working paused rfl (fun lie => absurd lie Bool.false_ne_true) agreed
  case imported row =>
      split at stepped <;> cases stepped
      obtain ⟨follows,continued⟩ := agreed
      have advanced : upsertChainState row db.tables.chainState = ⟨row.hash,some row.id⟩ := by
        rw [invariant.chained.head]
        cases last : db.tables.entries.getLast? with
        | none => rfl
        | some held =>
          have above := follows.above held (List.mem_of_getLast? last)
          simp [upsertChainState,above]
      exact moved invariant invariant.chained rfl (fun _ _ held => held) (fun lie => absurd lie Bool.false_ne_true) (.inl (invariant.others working))
        ⟨follows,advanced,continued⟩ (fun lie _ => absurd lie.symm Bool.false_ne_true)
  case advanced row head =>
      cases stepped
      obtain ⟨follows,advanced,continued⟩ := agreed
      rw [advanced]
      exact committed invariant working follows continued
  all_goals cases calling

theorem step_invariant (action : Action) (invariant : Invariant driver db) (continuing : Continuing driver db action)
    (paused : Paused driver db action) (stepped : step driver masking sha256 db action = some next) : Invariant driver next := by
  cases action with
  | append session entry =>
    simp only [step] at stepped
    split at stepped <;> cases stepped
    have free := isIdle_eq ‹isIdle (db.phases session) = true›
    exact entered invariant (by rw [free]; rfl) rfl (fun lie => absurd lie Bool.false_ne_true)
  | startImport entries =>
    simp only [step] at stepped
    split at stepped <;> cases stepped
    obtain ⟨unread,calling⟩ := paused
    have quiet (session : Nat) : active (db.phases session) = false := by
      rw [active,unread session,Bool.false_or]
      by_contra working
      exact calling ⟨session,by simpa using working⟩
    exact ⟨invariant.chained,invariant.held,invariant.alone,fun session => agrees_inactive (quiet session),fun _ => continuing⟩
  | importNext session =>
    simp only [step] at stepped
    cases queued : db.imports with
    | nil =>
      rw [queued] at stepped
      cases stepped
    | cons entry rest =>
      rw [queued] at stepped
      dsimp only at stepped
      split at stepped <;> cases stepped
      have quiet (other : Nat) : active (db.phases other) = false := by
        rw [active,Bool.or_eq_false_iff]
        constructor
        · by_contra reading
          cases queued.symm.trans (reader_alone (invariant.agrees other) (by simpa using reading))
        · by_contra working
          exact paused ⟨other,by simpa using working⟩
      have continued := invariant.resting quiet
      rw [queued] at continued
      exact moved invariant invariant.chained rfl (fun _ _ held => held) (fun lie => absurd lie Bool.false_ne_true) (.inl fun other _ => quiet other)
        continued (fun lie _ => absurd lie.symm Bool.false_ne_true)
  | statement session now =>
    cases calling : importsOne (db.phases session) with
    | false => exact append_statement invariant calling paused.1 stepped
    | true => exact import_statement invariant calling paused.2 stepped
  | failure session =>
    simp only [step] at stepped
    split at stepped <;> cases stepped
    refine left_off invariant fun working => ?_
    rcases (Bool.or_eq_true _ _).mp working with reading | calling
    · exact reader_alone (invariant.agrees session) reading
    · exact paused calling

theorem start_invariant : Invariant driver {} where
  chained := ⟨.nil,.nil,nofun,rfl⟩
  held := nofun
  alone := nofun
  agrees := fun _ => trivial
  resting := fun _ => trivial

end Kept

section Frame
variable {driver : Driver} {masking : Masking} {sha256 : String → String} {db next : Database} {session : Nat} {now : String}

-- A statement changes the phase of its own session only; a call stays what it is until its end.
structure Within (session : Nat) (kind : Bool) (db next : Database) : Prop where
  imports : next.imports = db.imports
  phases : ∃ phase, next.phases = Function.update db.phases session phase ∧ (phase = .idle ∨ importsOne phase = kind)

theorem leave_within (kind : Bool) : Within session kind db (db.leave session) := ⟨rfl,.idle,rfl,.inl rfl⟩

variable {kind : Bool}

theorem enter_within (same : importsOne phase = kind) : Within session kind db (db.enter session phase) :=
  ⟨rfl,phase,rfl,.inr same⟩

theorem draw_within {requestId : String} {entry : Dict} {hash prevHash : Value} {following : Row → Phase}
    (same : ∀ row, importsOne (following row) = kind) :
    Within session kind db (draw driver session requestId entry hash prevHash following db) := by
  unfold draw
  cases columns driver requestId entry hash prevHash with
  | none => exact leave_within kind
  | some make => exact ⟨rfl,_,rfl,.inr (same _)⟩

theorem place_within (stepped : place session row phase db = some next) (same : importsOne phase = kind) : Within session kind db next := by
  unfold place at stepped
  split at stepped
  · cases stepped
  · split at stepped <;> cases stepped
    · exact leave_within kind
    · exact ⟨rfl,phase,rfl,.inr same⟩

theorem statement_within (stepped : statement driver masking sha256 session now db = some next) :
    Within session (importsOne (db.phases session)) db next := by
  unfold statement at stepped
  cases phase : db.phases session <;> rw [phase] at stepped <;> dsimp only at stepped
  case idle => cases stepped
  case waiting entry =>
      split at stepped <;> cases stepped
      exact ⟨rfl,_,rfl,.inr rfl⟩
  case locked entry =>
      split at stepped
      · cases stepped
        exact enter_within rfl
      · split at stepped <;> cases stepped
        exact ⟨rfl,_,rfl,.inr rfl⟩
  case unseen entry =>
      split at stepped
      · cases stepped
      · split at stepped <;> cases stepped
        · exact leave_within _
        · exact ⟨rfl,_,rfl,.inr rfl⟩
  case holding entry previous =>
      split at stepped <;> cases stepped
      · exact leave_within _
      · exact draw_within fun _ => rfl
  case appending row => exact place_within stepped rfl
  case appended row =>
      cases stepped
      exact enter_within rfl
  case updated row =>
      cases stepped
      exact ⟨rfl,.idle,rfl,.inl rfl⟩
  case checking entry =>
      split at stepped <;> cases stepped
      · exact leave_within _
      · exact enter_within rfl
  case absent entry =>
      cases stepped
      exact draw_within fun _ => rfl
  case importing row => exact place_within stepped rfl
  case imported row =>
      split at stepped <;> cases stepped
      exact ⟨rfl,_,rfl,.inr rfl⟩
  case advanced row head =>
      cases stepped
      exact ⟨rfl,.idle,rfl,.inl rfl⟩

end Frame

def appends : Action → Bool
  | .append .. | .statement .. | .failure _ => true
  | _ => false

def Unimported (db : Database) : Prop := db.imports = [] ∧ ∀ session, importsOne (db.phases session) = false

section Runs
variable {driver : Driver} {masking : Masking} {sha256 : String → String} {db next : Database} {action : Action}

theorem within_unimported (before : Unimported db) (inside : Within session false db next) : Unimported next := by
  obtain ⟨imports,phase,phases,ended⟩ := inside
  refine ⟨imports.trans before.1,fun other => ?_⟩
  rw [phases]
  by_cases same : other = session
  · rw [same,Function.update_self]
    rcases ended with rfl | plain
    · rfl
    · exact plain
  · rw [Function.update_of_ne same]
    exact before.2 other

theorem append_unimported (before : Unimported db) (alone : appends action = true) (stepped : step driver masking sha256 db action = some next) :
    Unimported next := by
  cases action with
  | append session entry =>
    simp only [step] at stepped
    split at stepped <;> cases stepped
    exact within_unimported before (enter_within rfl)
  | startImport entries => cases alone
  | importNext session => cases alone
  | statement session now =>
    have inside := statement_within stepped
    rw [before.2 session] at inside
    exact within_unimported before inside
  | failure session =>
    simp only [step] at stepped
    split at stepped <;> cases stepped
    exact within_unimported before (leave_within false)

theorem append_pauses (before : Unimported db) (alone : appends action = true) : Continuing driver db action ∧ Paused driver db action := by
  obtain ⟨queued,calls⟩ := before
  have quiet : ¬Importing db := by
    rintro (waiting | ⟨session,calling⟩)
    · exact waiting queued
    · cases (calls session).symm.trans calling
  cases action with
  | append session entry => exact ⟨trivial,trivial⟩
  | startImport entries => cases alone
  | importNext session => cases alone
  | statement session now => exact ⟨trivial,fun _ => quiet,fun _ => queued⟩
  | failure session => exact ⟨trivial,fun _ => queued⟩

theorem run_chain
    (paused : Schedule.Meets (step driver masking sha256) (fun db action => Continuing driver db action ∧ Paused driver db action) {} actions)
    (ran : Schedule.run (step driver masking sha256) {} actions = some db) : OneChain db.tables :=
  (Schedule.run_invariant (fun _ action _ invariant paused stepped => step_invariant action invariant paused.1 paused.2 stepped) start_invariant
    paused ran).chained.oneChain

theorem appends_chain (alone : ∀ action ∈ actions, appends action = true)
    (ran : Schedule.run (step driver masking sha256) {} actions = some db) : OneChain db.tables :=
  run_chain (Schedule.meets_of_invariant (fun _ _ before alone => append_pauses before alone)
    (fun _ _ _ before alone stepped => append_unimported before alone stepped) ⟨rfl,fun _ => rfl⟩ alone) ran

end Runs

def noDriver : Driver := ⟨fun _ => none⟩

def interleaved : List Action :=
  .append 0 (stepEntry 1) :: statements 0 "2026-01-01T00:00:00+00:00" 3 ++ (.append 1 (stepEntry 2) ::
    statements 0 "2026-01-01T00:00:00+00:00" 4) ++ statements 1 "2026-01-01T00:00:00+00:00" 6

theorem appends_chain_sample : ∃ db, Schedule.run (step noDriver plainMasking stepDigest) {} interleaved = some db ∧
    db.tables.entries.map Row.hash = [some firstDigest,some secondDigest] ∧ OneChain db.tables := by
  have rows : (Schedule.run (step noDriver plainMasking stepDigest) {} interleaved).map (fun db => db.tables.entries.map Row.hash) =
      some [some firstDigest,some secondDigest] := by
    decide +kernel
  obtain ⟨db,ran,listed⟩ := Option.map_eq_some_iff.mp rows
  exact ⟨db,ran,listed,appends_chain (by decide) ran⟩

def importedEntry : Dict := [(.str "step",.int 1),(.str "sha256_prev",.none),(.str "sha256",.str firstDigest)]

def importCalls : List Action := [.startImport [importedEntry],.importNext 0]

theorem importedEntry_continues : Continues noDriver none [importedEntry] := ⟨rfl,some firstDigest,by decide,trivial⟩

def LastCall (db : Database) : Prop := db.imports = [] ∧ ∀ session, isIdle (db.phases session) = true ∨ importsOne (db.phases session) = true

section LastCall
variable {driver : Driver} {masking : Masking} {sha256 : String → String} {db next : Database} {session : Nat} {now : String}

theorem lastCall_pauses (before : LastCall db) :
    Continuing driver db (.statement session now) ∧ Paused driver db (.statement session now) := by
  refine ⟨trivial,?_,fun _ => before.1⟩
  intro reading
  rcases before.2 session with idle | calling
  · rw [isIdle_eq idle] at reading
    cases reading
  · cases phase : db.phases session <;> rw [phase] at calling reading <;> first | cases reading | cases calling

theorem lastCall_kept (before : LastCall db) (stepped : statement driver masking sha256 session now db = some next) : LastCall next := by
  obtain ⟨imports,phase,phases,ended⟩ := statement_within stepped
  refine ⟨imports.trans before.1,fun other => ?_⟩
  rw [phases]
  by_cases same : other = session
  · rw [same,Function.update_self]
    rcases ended with rfl | kept
    · exact .inl rfl
    · rcases before.2 session with idle | calling
      · rw [statement,isIdle_eq idle] at stepped
        cases stepped
      · exact .inr (kept.trans calling)
  · rw [Function.update_of_ne same]
    exact before.2 other

theorem lastCall_meets (before : LastCall db) (count : Nat) :
    Schedule.Meets (step driver masking sha256) (fun db action => Continuing driver db action ∧ Paused driver db action) db (statements session now count) := by
  induction count generalizing db with
  | zero => trivial
  | succ count ih => exact ⟨lastCall_pauses before,fun next stepped => ih (lastCall_kept before stepped)⟩

end LastCall

def starts : Action → Bool
  | .startImport _ => true
  | _ => false

theorem unstarted_continues
    (unstarted : actions.any starts = false) : Schedule.Meets (step driver masking sha256) (Continuing driver) db actions := by
  induction actions generalizing db with
  | nil => trivial
  | cons action rest ih =>
    obtain ⟨first,others⟩ := Bool.or_eq_false_iff.mp unstarted
    refine ⟨?_,fun _ _ => ih others⟩
    cases action <;> trivial

-- The import has put its row in and not committed when an append begins, and commits last.
def overlap : List Action :=
  importCalls ++ statements 0 "" 3 ++ (.append 1 (stepEntry 2) :: statements 1 "2026-01-01T00:00:00+00:00" 7) ++ statements 0 "" 2

end VeritasOs.PostgresChain
