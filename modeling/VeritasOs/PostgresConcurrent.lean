import Mathlib.Data.List.Sort
import Mathlib.Logic.Function.Basic
import VeritasOs.PostgresLog
import VeritasOs.Schedule

namespace VeritasOs.PostgresConcurrent
open BindArtifacts TrustLog PostgresLog

-- Which statement of its call a session executes next.
inductive Phase where
  | idle
  -- append: the advisory lock, the head FOR UPDATE, the singleton row if there was none,
  -- prepare_entry, the INSERT, the UPDATE, the COMMIT
  | waiting (entry : Dict)
  | locked (entry : Dict)
  | unseen (entry : Dict)
  | holding (entry : Dict) (previous : Option String)
  | appending (row : Row)
  | appended (row : Row)
  | updated (row : Row)
  -- import_entry: the duplicate check, the INSERT, the upsert, the COMMIT
  | checking (entry : Dict)
  | absent (entry : Dict)
  | importing (row : Row)
  | imported (row : Row)
  | advanced (row : Row) (head : ChainState)

-- The tables are what has been committed. `pending` are the rows of open transactions,
-- which only the unique constraint sees; `claim` is the session whose open transaction has
-- locked the singleton row or put it there. `imports` are the calls an import has still to make.
structure Database where
  tables : Tables := {}
  advisory : Option Nat := none
  claim : Option Nat := none
  pending : List (Nat × Row) := []
  imports : List Dict := []
  phases : Nat → Phase := fun _ => .idle

inductive Action where
  | append (session : Nat) (entry : Dict)
  | startImport (entries : List Dict)
  | importNext (session : Nat)
  | statement (session : Nat) (now : String)
  | failure (session : Nat)

def Database.enter (db : Database) (session : Nat) (phase : Phase) : Database :=
  { db with phases := Function.update db.phases session phase }

def Database.leave (db : Database) (session : Nat) : Database :=
  { db with
    advisory := if db.advisory = some session then none else db.advisory
    claim := if db.claim = some session then none else db.claim
    pending := db.pending.filter fun row => row.1 ≠ session
    phases := Function.update db.phases session .idle }

def commit (row : Row) (head : ChainState) (tables : Tables) : Tables :=
  { tables with entries := tables.entries.orderedInsert (fun a b => a.id ≤ b.id) row,chainState := some head }

section Steps
variable (driver : Driver) (masking : Masking) (sha256 : String → String)

-- The number is drawn before the constraint is looked at.
def draw (session : Nat) (requestId : String) (entry : Dict) (hash prevHash : Value) (next : Row → Phase) (db : Database) : Database :=
  match columns driver requestId entry hash prevHash with
  | none => db.leave session
  | some make =>
    { db with tables := { db.tables with sequence := db.tables.sequence + 1 } }.enter session (next (make (db.tables.sequence + 1)))

-- A key in an open transaction is waited for.
def place (session : Nat) (row : Row) (next : Phase) (db : Database) : Option Database :=
  if db.pending.any fun other => other.2.requestId = row.requestId then none
  else if db.tables.keys.contains row.requestId then some (db.leave session)
  else some ({ db with pending := (session,row) :: db.pending }.enter session next)

def statement (session : Nat) (now : String) (db : Database) : Option Database :=
  match db.phases session with
  | .idle => none
  | .waiting entry => if db.advisory = none then some ({ db with advisory := some session }.enter session (.locked entry)) else none
  | .locked entry =>
    match db.tables.chainState with
    | none => some (db.enter session (.unseen entry))
    | some state => if db.claim = none then some ({ db with claim := some session }.enter session (.holding entry state.lastHash)) else none
  | .unseen entry =>
    -- Another transaction that puts the row there is waited for; then there are two of them.
    if db.claim ≠ none then none
    else if db.tables.chainState.isSome then some (db.leave session)
    else some ({ db with claim := some session }.enter session (.holding entry none))
  | .holding entry previous =>
    match prepareEntry masking sha256 entry previous now with
    | .error _ => some (db.leave session)
    | .ok (prepared,line) =>
      some (draw driver session (storedId prepared) line (prepared.get "sha256") (optStr previous) .appending db)
  | .appending row => place session row (.appended row) db
  | .appended row => some (db.enter session (.updated row))
  | .updated row => some ({ db with tables := commit row ⟨row.hash,some row.id⟩ db.tables }.leave session)
  | .checking entry =>
    if storedId entry = "" ∨ textTakes (storedId entry) = false ∨ storedId entry ∈ db.tables.keys then some (db.leave session)
    else some (db.enter session (.absent entry))
  | .absent entry => some (draw driver session (storedId entry) entry (entry.get "sha256") (entry.get "sha256_prev") .importing db)
  | .importing row => place session row (.imported row) db
  | .imported row =>
    if db.claim = none then some ({ db with claim := some session }.enter session (.advanced row (upsertChainState row db.tables.chainState)))
    else none
  | .advanced row head => some ({ db with tables := commit row head db.tables }.leave session)

def isIdle : Phase → Bool
  | .idle => true
  | _ => false

def step (db : Database) : Action → Option Database
  | .append session entry => if isIdle (db.phases session) then some (db.enter session (.waiting entry)) else none
  | .startImport entries => if db.imports = [] then some { db with imports := entries } else none
  | .importNext session =>
    match db.imports with
    | [] => none
    | entry :: rest => if isIdle (db.phases session) then some ({ db with imports := rest }.enter session (.checking entry)) else none
  | .statement session now => statement driver masking sha256 session now db
  | .failure session => if isIdle (db.phases session) then none else some (db.leave session)

end Steps

theorem commit_entries (head : ChainState) (above : ∀ earlier ∈ tables.entries, earlier.id < row.id) :
    (commit row head tables).entries = tables.entries ++ [row] := by
  unfold commit
  dsimp only
  generalize tables.entries = rows at above
  induction rows with
  | nil => rfl
  | cons first rest ih =>
    have below := above first List.mem_cons_self
    rw [List.orderedInsert_of_not_le _ _ (by omega),ih fun earlier listed => above earlier (List.mem_cons_of_mem _ listed)]
    rfl

theorem drawn_above {driver : Driver} {requestId : String} {entry : Dict} {hash prevHash : Value} {make : Nat → Row} {tables : Tables}
    (drawn : ∀ row ∈ tables.entries, row.id ≤ tables.sequence) (made : columns driver requestId entry hash prevHash = some make) :
    ∀ earlier ∈ tables.entries, earlier.id < (make (tables.sequence + 1)).id := by
  intro earlier listed
  have below := drawn earlier listed
  have numbered := (columns_row made (tables.sequence + 1)).1
  omega

-- The database while one call is under way and no other: whether it has the advisory lock
-- and the singleton row, and the rows it has put in.
def solo (tables : Tables) (session : Nat) (advised claimed : Bool) (rows : List Row) (phase : Phase) : Database :=
  { tables := tables
    advisory := if advised then some session else none
    claim := if claimed then some session else none
    pending := rows.map fun row => (session,row)
    phases := Function.update (fun _ => .idle) session phase }

section Alone
variable {driver : Driver} {masking : Masking} {sha256 : String → String} {tables : Tables} {session : Nat} {now : String}
  {advised claimed : Bool} {rows : List Row} {phase following : Phase} {entry : Dict} {row : Row} {head : ChainState}

theorem solo_leave (session : Nat) (advised claimed : Bool) (rows : List Row) (phase : Phase) :
    (solo tables session advised claimed rows phase).leave session = { tables := tables } := by
  cases advised <;> cases claimed <;> simp [solo,Database.leave]

theorem solo_known (known : row.requestId ∈ tables.keys) :
    place session row following (solo tables session advised claimed [] phase) = some { tables := tables } := by
  unfold place
  rw [solo_leave]
  simp [solo,known]

theorem solo_placed (new : row.requestId ∉ tables.keys) : place session row following (solo tables session advised claimed [] phase) =
    some (solo tables session advised claimed [row] following) := by
  simp [place,solo,Database.enter,new]

theorem solo_commit (session : Nat) (advised claimed : Bool) (rows : List Row) (phase : Phase)
    (above : ∀ earlier ∈ tables.entries, earlier.id < row.id) :
    { solo tables session advised claimed rows phase with tables := commit row head tables }.leave session =
      { tables := ⟨tables.entries ++ [row],some head,tables.sequence⟩ } := by
  have added : commit row head tables = ⟨tables.entries ++ [row],some head,tables.sequence⟩ := by
    rw [←commit_entries head above]
    rfl
  rw [added,←solo_leave session advised claimed rows phase]
  rfl

section Drawn
variable {requestId : String} {hash prevHash : Value} {next : Row → Phase}

theorem solo_refused (refused : columns driver requestId entry hash prevHash = none) :
    draw driver session requestId entry hash prevHash next (solo tables session advised claimed rows phase) = { tables := tables } := by
  rw [draw,refused]
  exact solo_leave ..

theorem solo_drawn (made : columns driver requestId entry hash prevHash = some make) :
    draw driver session requestId entry hash prevHash next (solo tables session advised claimed rows phase) =
      solo { tables with sequence := tables.sequence + 1 } session advised claimed rows (next (make (tables.sequence + 1))) := by
  rw [draw,made]
  simp [solo,Database.enter]

end Drawn

theorem checking_solo : statement driver masking sha256 session now (solo tables session false false [] (.checking entry)) =
    if storedId entry = "" ∨ textTakes (storedId entry) = false ∨ storedId entry ∈ tables.keys then some { tables := tables }
    else some (solo tables session false false [] (.absent entry)) := by
  simp [statement,solo,Database.enter,Database.leave]

theorem absent_solo : statement driver masking sha256 session now (solo tables session false false [] (.absent entry)) =
    some (draw driver session (storedId entry) entry (entry.get "sha256") (entry.get "sha256_prev") .importing
      (solo tables session false false [] (.absent entry))) := by
  simp [statement,solo]

theorem importing_solo : statement driver masking sha256 session now (solo tables session false false [] (.importing row)) =
    place session row (.imported row) (solo tables session false false [] (.importing row)) := by
  simp [statement,solo]

theorem imported_solo : statement driver masking sha256 session now (solo tables session false false [row] (.imported row)) =
    some (solo tables session false true [row] (.advanced row (upsertChainState row tables.chainState))) := by
  simp [statement,solo,Database.enter]

theorem advanced_solo (above : ∀ earlier ∈ tables.entries, earlier.id < row.id) :
    statement driver masking sha256 session now (solo tables session false true [row] (.advanced row head)) =
      some { tables := ⟨tables.entries ++ [row],some head,tables.sequence⟩ } := by
  rw [←solo_commit session false true [row] (.advanced row head) above]
  simp [statement,solo]

theorem waiting_solo : statement driver masking sha256 session now (solo tables session false false [] (.waiting entry)) =
    some (solo tables session true false [] (.locked entry)) := by
  simp [statement,solo,Database.enter]

theorem locked_solo : statement driver masking sha256 session now (solo tables session true false [] (.locked entry)) =
    some (if tables.chainState = none then solo tables session true false [] (.unseen entry)
      else solo tables session true true [] (.holding entry (getLastHash tables))) := by
  cases state : tables.chainState <;> simp [statement,solo,Database.enter,state,PostgresLog.getLastHash]

theorem unseen_solo (first : tables.chainState = none) :
    statement driver masking sha256 session now (solo tables session true false [] (.unseen entry)) =
      some (solo tables session true true [] (.holding entry (getLastHash tables))) := by
  simp [statement,solo,Database.enter,first,PostgresLog.getLastHash]

theorem holding_failed (failed : prepareEntry masking sha256 entry previous now = .error error) :
    statement driver masking sha256 session now (solo tables session true true [] (.holding entry previous)) = some { tables := tables } := by
  rw [←solo_leave session true true [] (.holding entry previous)]
  simp [statement,solo,failed]

theorem holding_made (made : prepareEntry masking sha256 entry previous now = .ok (prepared,line)) :
    statement driver masking sha256 session now (solo tables session true true [] (.holding entry previous)) =
      some (draw driver session (storedId prepared) line (prepared.get "sha256") (optStr previous) .appending
        (solo tables session true true [] (.holding entry previous))) := by
  simp [statement,solo,made]

theorem appending_solo : statement driver masking sha256 session now (solo tables session true true [] (.appending row)) =
    place session row (.appended row) (solo tables session true true [] (.appending row)) := by
  simp [statement,solo]

theorem appended_solo : statement driver masking sha256 session now (solo tables session true true [row] (.appended row)) =
    some (solo tables session true true [row] (.updated row)) := by
  simp [statement,solo,Database.enter]

theorem updated_solo (above : ∀ earlier ∈ tables.entries, earlier.id < row.id) :
    statement driver masking sha256 session now (solo tables session true true [row] (.updated row)) =
      some { tables := ⟨tables.entries ++ [row],some ⟨row.hash,some row.id⟩,tables.sequence⟩ } := by
  rw [←solo_commit session true true [row] (.updated row) above]
  simp [statement,solo]

def statements (session : Nat) (now : String) (count : Nat) : List Action := List.replicate count (.statement session now)

theorem statements_succ (db : Database) (count : Nat) : Schedule.run (step driver masking sha256) db (statements session now (count + 1)) =
      (statement driver masking sha256 session now db).bind (Schedule.run (step driver masking sha256) · (statements session now count)) := rfl

theorem import_alone (consistent : Consistent tables) (entry : Dict) :
    ∃ count, Schedule.run (step driver masking sha256) { tables := tables }
      (.startImport [entry] :: .importNext session :: statements session now count) =
        some { tables := (importEntry driver false entry tables).2 } := by
  have begun (rest : List Action) : Schedule.run (step driver masking sha256) { tables := tables } (.startImport [entry] :: .importNext session :: rest) =
      Schedule.run (step driver masking sha256) (solo tables session false false [] (.checking entry)) rest := by
    simp [Schedule.run,step,isIdle,Database.enter,solo]
  simp only [begun]
  unfold importEntry
  by_cases unnamed : storedId entry = ""
  · exact ⟨1,by rw [statements_succ,checking_solo,if_pos (.inl unnamed),if_pos unnamed]; rfl⟩
  by_cases refused : textTakes (storedId entry) = false
  · exact ⟨1,by rw [statements_succ,checking_solo,if_pos (.inr (.inl refused)),if_neg unnamed,if_pos refused]; rfl⟩
  by_cases known : storedId entry ∈ tables.keys
  · exact ⟨1,by rw [statements_succ,checking_solo,if_pos (.inr (.inr known)),if_neg unnamed,if_neg refused,if_pos (by simpa using known)]; rfl⟩
  have checked : statement driver masking sha256 session now (solo tables session false false [] (.checking entry)) =
      some (solo tables session false false [] (.absent entry)) := by
    rw [checking_solo,if_neg (by simp [unnamed,refused,known])]
  rw [if_neg unnamed,if_neg refused,if_neg (by simpa using known),if_neg (by decide),insertEntry]
  cases made : columns driver (storedId entry) entry (entry.get "sha256") (entry.get "sha256_prev") with
  | none =>
    refine ⟨2,?_⟩
    rw [statements_succ,checked,Option.bind_some,statements_succ,absent_solo,solo_refused made]
    rfl
  | some make =>
    have keyed := (columns_row made (tables.sequence + 1)).2.1
    have above := drawn_above consistent.drawn made
    refine ⟨5,?_⟩
    rw [statements_succ,checked,Option.bind_some,statements_succ,absent_solo,solo_drawn made,Option.bind_some,
      statements_succ,importing_solo,solo_placed (by rw [keyed]; exact known),Option.bind_some,
      statements_succ,imported_solo,Option.bind_some,statements_succ,advanced_solo (by exact above)]
    simp [statements,Schedule.run,known]

theorem append_alone (consistent : Consistent tables) (entry : Dict) :
    ∃ count, Schedule.run (step driver masking sha256) { tables := tables } (.append session entry :: statements session now count) =
      some { tables := (PostgresLog.append driver masking sha256 now entry tables).2 } := by
  have begun (rest : List Action) : Schedule.run (step driver masking sha256) { tables := tables } (.append session entry :: rest) =
      Schedule.run (step driver masking sha256) (solo tables session false false [] (.waiting entry)) rest := by
    simp [Schedule.run,step,isIdle,Database.enter,solo]
  have read : ∃ count, ∀ rest, Schedule.run (step driver masking sha256) (solo tables session false false [] (.waiting entry))
      (statements session now count ++ rest) =
        Schedule.run (step driver masking sha256) (solo tables session true true [] (.holding entry (getLastHash tables))) rest := by
    by_cases first : tables.chainState = none
    · refine ⟨3,fun rest => ?_⟩
      rw [Schedule.run_append,statements_succ,waiting_solo,Option.bind_some,statements_succ,locked_solo,if_pos first,Option.bind_some,
        statements_succ,unseen_solo first]
      rfl
    · refine ⟨2,fun rest => ?_⟩
      rw [Schedule.run_append,statements_succ,waiting_solo,Option.bind_some,statements_succ,locked_solo,if_neg first]
      rfl
  obtain ⟨count,read⟩ := read
  have finish (more : Nat) (last : Database) (ends : Schedule.run (step driver masking sha256)
      (solo tables session true true [] (.holding entry (getLastHash tables))) (statements session now more) = some last) :
      ∃ count, Schedule.run (step driver masking sha256) { tables := tables } (.append session entry :: statements session now count) = some last := by
    refine ⟨count + more,?_⟩
    rw [begun,statements,List.replicate_add]
    exact (read _).trans ends
  unfold PostgresLog.append
  dsimp only
  rw [show tables.chainState.bind ChainState.lastHash = getLastHash tables from rfl]
  cases made : prepareEntry masking sha256 entry (getLastHash tables) now with
  | error error =>
    refine finish 1 _ ?_
    rw [statements_succ,holding_failed made]
    rfl
  | ok pair =>
    obtain ⟨prepared,line⟩ := pair
    dsimp only
    rcases insertEntry_cases driver (storedId prepared) line (prepared.get "sha256") (optStr (getLastHash tables))
      { tables with chainState := some (tables.chainState.getD {}) } with ⟨refused,same⟩ | ⟨known,same⟩ | ⟨make,taken,new,same⟩ <;> rw [same]
    · refine finish 1 _ ?_
      rw [statements_succ,holding_made made,solo_refused refused]
      rfl
    · cases taken : columns driver (storedId prepared) line (prepared.get "sha256") (optStr (getLastHash tables)) with
      | none => simp [insertEntry,taken,dataError,uniqueViolation] at same
      | some make =>
        refine finish 2 _ ?_
        have keyed := (columns_row taken (tables.sequence + 1)).2.1
        rw [statements_succ,holding_made made,solo_drawn taken,Option.bind_some,statements_succ,appending_solo,
          solo_known (by rw [keyed]; exact known)]
        rfl
    · refine finish 4 _ ?_
      have keyed := (columns_row taken (tables.sequence + 1)).2.1
      have above := drawn_above consistent.drawn taken
      rw [statements_succ,holding_made made,solo_drawn taken,Option.bind_some,statements_succ,appending_solo,
        solo_placed (by rw [keyed]; exact new),Option.bind_some,statements_succ,appended_solo,Option.bind_some,
        statements_succ,updated_solo (by exact above)]
      rfl

end Alone

inductive Turn where
  | append (session : Nat) (now : String) (entry : Dict)
  | importing (session : Nat) (entry : Dict)

def Turn.actions : Turn → Nat → List Action
  | .append session now entry,count => .append session entry :: statements session now count
  | .importing session entry,count => .startImport [entry] :: .importNext session :: statements session "" count

section Serial
variable (driver : Driver) (masking : Masking) (sha256 : String → String)

def Turn.serve (tables : Tables) : Turn → Tables
  | .append _ now entry => (PostgresLog.append driver masking sha256 now entry tables).2
  | .importing _ entry => (importEntry driver false entry tables).2

theorem serve_consistent (consistent : Consistent tables) (turn : Turn) : Consistent (turn.serve driver masking sha256 tables) := by
  cases turn with
  | append session now entry => exact append_consistent driver consistent
  | importing session entry =>
    by_cases named : storedId entry = ""
    · simpa only [Turn.serve,importEntry,if_pos named] using consistent
    · exact importEntry_consistent driver consistent named

theorem serial_from (consistent : Consistent tables) (turns : List Turn) : ∃ counts : List Nat, counts.length = turns.length ∧
    Schedule.run (step driver masking sha256) { tables := tables } ((turns.zip counts).flatMap fun turn => turn.1.actions turn.2) =
      some { tables := turns.foldl (Turn.serve driver masking sha256) tables } := by
  induction turns generalizing tables with
  | nil => exact ⟨[],rfl,rfl⟩
  | cons turn turns ih =>
    obtain ⟨count,first⟩ : ∃ count, Schedule.run (step driver masking sha256) { tables := tables } (turn.actions count) =
        some { tables := turn.serve driver masking sha256 tables } := by
      cases turn with
      | append session now entry => exact append_alone consistent entry
      | importing session entry => exact import_alone consistent entry
    obtain ⟨counts,same,later⟩ := ih (serve_consistent driver masking sha256 consistent turn)
    refine ⟨count :: counts,congrArg Nat.succ same,?_⟩
    rw [List.zip_cons_cons,List.flatMap_cons,Schedule.run_append,first]
    exact later

-- Calls that do not overlap do statement by statement what the whole calls do one after the other.
theorem serial_refines (turns : List Turn) : ∃ counts : List Nat, counts.length = turns.length ∧
    Schedule.run (step driver masking sha256) {} ((turns.zip counts).flatMap fun turn => turn.1.actions turn.2) =
      some { tables := turns.foldl (Turn.serve driver masking sha256) {} } := serial_from driver masking sha256 start_consistent turns

end Serial

end VeritasOs.PostgresConcurrent
