import VeritasOs.TrustLog

namespace VeritasOs.PostgresLog
open BindArtifacts TrustLog

structure Row where
  id : Nat
  requestId : String
  entry : Dict
  hash : Option String
  prevHash : Option String

structure ChainState where
  lastHash : Option String := none
  lastId : Option Nat := none
deriving DecidableEq

-- The rows stand in the order of their ids. `sequence` is the last number drawn for the
-- BIGSERIAL column: a rollback does not give it back.
structure Tables where
  entries : List Row := []
  chainState : Option ChainState := none
  sequence : Nat := 0

def Tables.keys (tables : Tables) : List String := tables.entries.map Row.requestId
def Tables.documents (tables : Tables) : List Dict := tables.entries.map Row.entry

-- psycopg hands None on as NULL and a string as itself. What becomes of any other value
-- in a TEXT column, and whether it has a form there at all, is the driver's.
structure Driver where
  adapted : Value → Option String

-- A text is refused when it holds NUL.
def textTakes (s : String) : Bool := !s.toList.contains '\x00'

-- JSON has no NaN and no infinities; `object` is what json.dumps cannot encode.
mutual
def jsonbTakes : Value → Bool
  | .str s => textTakes s
  | .float (.finite _) => true
  | .float _ => false
  | .list items => jsonbTakesItems items
  | .tuple items => jsonbTakesItems items
  | .dict members => jsonbTakesMembers members
  | .object _ _ => false
  | _ => true
def jsonbTakesItems : List Value → Bool
  | [] => true
  | item :: rest => jsonbTakes item && jsonbTakesItems rest
def jsonbTakesMembers : List (Key × Value) → Bool
  | [] => true
  | (key,value) :: rest => textTakes ((keyText key).getD "") && jsonbTakes value && jsonbTakesMembers rest
end

def dataError : Exc := ⟨.other,"DataError"⟩
def uniqueViolation : Exc := ⟨.other,"duplicate key value violates unique constraint"⟩
def runtimeError (text : String) : Exc := ⟨.runtimeError,text⟩

section Statements
variable (driver : Driver)

def textColumn : Value → Option (Option String)
  | .none => some none
  | .str s => if textTakes s then some (some s) else none
  | value => (driver.adapted value).map some

def columns (requestId : String) (entry : Dict) (hash prevHash : Value) : Option (Nat → Row) := do
  let hash ← textColumn driver hash
  let prevHash ← textColumn driver prevHash
  if textTakes requestId && jsonbTakes (.dict entry) then some fun id => ⟨id,requestId,entry,hash,prevHash⟩ else none

-- INSERT INTO trustlog_entries ... RETURNING id: the constraint is checked after the
-- number is drawn.
def insertEntry (requestId : String) (entry : Dict) (hash prevHash : Value) (tables : Tables) : Except Exc Row × Tables :=
  match columns driver requestId entry hash prevHash with
  | none => (.error dataError,tables)
  | some row =>
    let drawn := { tables with sequence := tables.sequence + 1 }
    if tables.keys.contains requestId then (.error uniqueViolation,drawn)
    else (.ok (row drawn.sequence),{ drawn with entries := tables.entries ++ [row drawn.sequence] })

def rollback (before failed : Tables) : Tables := { before with sequence := failed.sequence }

-- The ON CONFLICT ... DO UPDATE ... WHERE of import_entry.
def upsertChainState (row : Row) : Option ChainState → ChainState
  | none => ⟨row.hash,some row.id⟩
  | some state => if (state.lastId.map fun last => decide (last < row.id)).getD true then ⟨row.hash,some row.id⟩ else state

def storedId (entry : Dict) : String := (entry.get "request_id").orStr ((entry.get "sha256").orStr "")

def appendFailed (error : Exc) : Exc := runtimeError ("PostgreSQL TrustLog append failed (fail-closed): " ++ error.text)
def importFailed (error : Exc) : Exc := runtimeError ("PostgreSQL TrustLog import_entry failed (fail-closed): " ++ error.text)

-- The JSONB column holds of the prepared entry what a reader of its line gets.
def append (masking : Masking) (sha256 : String → String) (now : String) (entry : Dict) (tables : Tables) : Except Exc String × Tables :=
  -- The first append ever puts the singleton row in its place.
  let begun := { tables with chainState := some (tables.chainState.getD {}) }
  let previousHash := tables.chainState.bind ChainState.lastHash
  match prepareEntry masking sha256 entry previousHash now with
  | .error error => (.error (appendFailed error),tables)
  | .ok (prepared,line) =>
    let requestId := storedId prepared
    match insertEntry driver requestId line (prepared.get "sha256") (optStr previousHash) begun with
    | (.error error,failed) => (.error (appendFailed error),rollback tables failed)
    | (.ok row,inserted) => (.ok requestId,{ inserted with chainState := some ⟨row.hash,some row.id⟩ })

def importEntry (dryRun : Bool) (entry : Dict) (tables : Tables) : Except Exc (String × Bool) × Tables :=
  let requestId := storedId entry
  if requestId = "" then (.error (valueError "Entry has no 'request_id' or 'sha256' field"),tables)
  else if textTakes requestId = false then (.error (importFailed dataError),tables)
  else if tables.keys.contains requestId then (.ok (requestId,false),tables)
  else if dryRun then (.ok (requestId,true),tables)
  else
    match insertEntry driver requestId entry (entry.get "sha256") (entry.get "sha256_prev") tables with
    | (.error error,failed) => (.error (importFailed error),rollback tables failed)
    | (.ok row,inserted) => (.ok (requestId,true),{ inserted with chainState := some (upsertChainState row tables.chainState) })

end Statements

def getById (requestId : String) (tables : Tables) : Except Exc (Option Dict) :=
  if textTakes requestId then .ok ((tables.entries.find? fun row => row.requestId = requestId).map Row.entry) else .error dataError

def iterEntries (limit offset : Int) (tables : Tables) : Except Exc (List Dict) :=
  if limit ≤ 0 then .ok []
  else if offset < 0 then .error ⟨.other,"OFFSET must not be negative"⟩
  else .ok ((tables.documents.drop offset.toNat).take limit.toNat)

def getLastHash (tables : Tables) : Option String := tables.chainState.bind ChainState.lastHash

-- The ids grow and none is above the last number drawn, no request_id comes twice, and
-- the head is the last row.
structure Consistent (tables : Tables) : Prop where
  ordered : tables.entries.Pairwise fun earlier later => earlier.id < later.id
  drawn : ∀ row ∈ tables.entries, row.id ≤ tables.sequence
  distinct : tables.keys.Nodup
  head : tables.chainState = tables.entries.getLast?.map fun row => ⟨row.hash,some row.id⟩

theorem start_consistent : Consistent {} where
  ordered := .nil
  drawn := fun _ listed => nomatch listed
  distinct := .nil
  head := rfl

section Inversion
variable {driver : Driver} {requestId : String} {entry : Dict} {hash prevHash : Value} {tables : Tables}

theorem columns_row (made : columns driver requestId entry hash prevHash = some make) (id : Nat) :
    (make id).id = id ∧ (make id).requestId = requestId ∧ (make id).entry = entry ∧
      textColumn driver hash = some (make id).hash ∧ textColumn driver prevHash = some (make id).prevHash := by
  unfold columns at made
  obtain ⟨held,hashed,made⟩ := Option.bind_eq_some_iff.mp made
  obtain ⟨heldPrev,linked,made⟩ := Option.bind_eq_some_iff.mp made
  split at made
  · cases made
    exact ⟨rfl,rfl,rfl,hashed,linked⟩
  · cases made

theorem insertEntry_cases (driver : Driver) (requestId : String) (entry : Dict) (hash prevHash : Value) (tables : Tables) :
    (columns driver requestId entry hash prevHash = none ∧
        insertEntry driver requestId entry hash prevHash tables = (.error dataError,tables)) ∨
      (requestId ∈ tables.keys ∧ insertEntry driver requestId entry hash prevHash tables =
        (.error uniqueViolation,{ tables with sequence := tables.sequence + 1 })) ∨
      ∃ make, columns driver requestId entry hash prevHash = some make ∧ requestId ∉ tables.keys ∧
        insertEntry driver requestId entry hash prevHash tables = (.ok (make (tables.sequence + 1)),
          { tables with sequence := tables.sequence + 1,entries := tables.entries ++ [make (tables.sequence + 1)] }) := by
  unfold insertEntry
  cases made : columns driver requestId entry hash prevHash with
  | none => exact .inl ⟨rfl,rfl⟩
  | some make =>
    by_cases known : requestId ∈ tables.keys
    · exact .inr (.inl ⟨known,by simp [known]⟩)
    · exact .inr (.inr ⟨make,rfl,known,by simp [known]⟩)

-- The number drawn is above every id, so the head moves on to the new row.
theorem upsertChainState_new (consistent : Consistent tables) (above : tables.sequence < row.id) :
    upsertChainState row tables.chainState = ⟨row.hash,some row.id⟩ := by
  rw [consistent.head]
  cases last : tables.entries.getLast? with
  | none => rfl
  | some held =>
    have below := consistent.drawn held (List.mem_of_getLast? last)
    have advanced : held.id < row.id := by omega
    simp [upsertChainState,advanced]

theorem added_consistent (consistent : Consistent tables)
    (made : columns driver requestId entry hash prevHash = some make) (new : requestId ∉ tables.keys) :
    Consistent ⟨tables.entries ++ [make (tables.sequence + 1)],
      some ⟨(make (tables.sequence + 1)).hash,some (make (tables.sequence + 1)).id⟩,tables.sequence + 1⟩ := by
  obtain ⟨numbered,keyed,_⟩ := columns_row made (tables.sequence + 1)
  constructor
  · refine List.pairwise_append.mpr ⟨consistent.ordered,.cons (fun _ listed => nomatch listed) .nil,?_⟩
    intro earlier listed later last
    have below := consistent.drawn earlier listed
    rw [List.mem_singleton.mp last,numbered]
    omega
  · intro row listed
    rcases List.mem_append.mp listed with old | last
    · exact Nat.le_succ_of_le (consistent.drawn row old)
    · rw [List.mem_singleton.mp last,numbered]
  · rw [Tables.keys,List.map_append,List.map_singleton,keyed]
    exact List.nodup_append.mpr ⟨consistent.distinct,List.nodup_singleton _,fun key known other last same => new (by
      rw [←List.mem_singleton.mp last,←same]
      exact known)⟩
  · simp

end Inversion

section Calls
variable (driver : Driver) {tables : Tables}

theorem append_cases (masking : Masking) (sha256 : String → String) (now : String) (entry : Dict) (tables : Tables) :
    (∃ error sequence, append driver masking sha256 now entry tables = (.error (appendFailed error),{ tables with sequence := sequence }) ∧
        tables.sequence ≤ sequence ∧ (prepareEntry masking sha256 entry (getLastHash tables) now = .error error ∨
          ∃ prepared line, prepareEntry masking sha256 entry (getLastHash tables) now = .ok (prepared,line) ∧
            (columns driver (storedId prepared) line (prepared.get "sha256") (optStr (getLastHash tables)) = none ∨
              storedId prepared ∈ tables.keys))) ∨
      ∃ prepared line make, prepareEntry masking sha256 entry (getLastHash tables) now = .ok (prepared,line) ∧
        columns driver (storedId prepared) line (prepared.get "sha256") (optStr (getLastHash tables)) = some make ∧
        storedId prepared ∉ tables.keys ∧
        append driver masking sha256 now entry tables = (.ok (storedId prepared),⟨tables.entries ++ [make (tables.sequence + 1)],
          some ⟨(make (tables.sequence + 1)).hash,some (make (tables.sequence + 1)).id⟩,tables.sequence + 1⟩) := by
  unfold append
  dsimp only
  rw [show tables.chainState.bind ChainState.lastHash = getLastHash tables from rfl]
  cases made : prepareEntry masking sha256 entry (getLastHash tables) now with
  | error error => exact .inl ⟨error,tables.sequence,rfl,Nat.le_refl _,.inl rfl⟩
  | ok pair =>
    obtain ⟨prepared,line⟩ := pair
    dsimp only
    rcases insertEntry_cases driver (storedId prepared) line (prepared.get "sha256") (optStr (getLastHash tables))
      { tables with chainState := some (tables.chainState.getD {}) } with ⟨refused,same⟩ | ⟨known,same⟩ | ⟨make,taken,new,same⟩ <;> rw [same]
    · exact .inl ⟨dataError,tables.sequence,rfl,Nat.le_refl _,.inr ⟨prepared,line,rfl,.inl refused⟩⟩
    · exact .inl ⟨uniqueViolation,tables.sequence + 1,rfl,Nat.le_succ _,.inr ⟨prepared,line,rfl,.inr known⟩⟩
    · exact .inr ⟨prepared,line,make,rfl,taken,new,rfl⟩

theorem append_consistent (consistent : Consistent tables) : Consistent (append driver masking sha256 now entry tables).2 := by
  rcases append_cases driver masking sha256 now entry tables with ⟨error,sequence,same,later,_⟩ | ⟨prepared,line,make,_,made,new,same⟩ <;> rw [same]
  · exact { consistent with drawn := fun row listed => Nat.le_trans (consistent.drawn row listed) later }
  · exact added_consistent consistent made new

-- Whether the columns have a form for every value of the entry.
def columnsTake (entry : Dict) : Bool :=
  (columns driver (storedId entry) entry (entry.get "sha256") (entry.get "sha256_prev")).isSome

theorem importEntry_cases (consistent : Consistent tables) (identified : storedId entry ≠ "") :
    ((importEntry driver false entry tables).2 = tables ∧ (storedId entry ∈ tables.keys ∨ columnsTake driver entry = false)) ∨
      ∃ make, columns driver (storedId entry) entry (entry.get "sha256") (entry.get "sha256_prev") = some make ∧
        storedId entry ∉ tables.keys ∧ (importEntry driver false entry tables).1 = .ok (storedId entry,true) ∧
        (importEntry driver false entry tables).2 = ⟨tables.entries ++ [make (tables.sequence + 1)],
          some ⟨(make (tables.sequence + 1)).hash,some (make (tables.sequence + 1)).id⟩,tables.sequence + 1⟩ := by
  unfold importEntry
  dsimp only
  rw [if_neg identified]
  by_cases plain : textTakes (storedId entry) = false
  · rw [if_pos plain]
    refine .inl ⟨rfl,.inr ?_⟩
    unfold columnsTake columns
    cases textColumn driver (entry.get "sha256") <;> cases textColumn driver (entry.get "sha256_prev") <;> simp [plain]
  · by_cases known : storedId entry ∈ tables.keys
    · rw [if_neg plain,if_pos (by simpa using known)]
      exact .inl ⟨rfl,.inl known⟩
    · rw [if_neg plain,if_neg (by simpa using known),if_neg (by decide)]
      rcases insertEntry_cases driver (storedId entry) entry (entry.get "sha256") (entry.get "sha256_prev") tables with
        ⟨refused,same⟩ | ⟨there,_⟩ | ⟨make,made,new,same⟩
      · rw [same]
        exact .inl ⟨rfl,.inr (by rw [columnsTake,refused]; rfl)⟩
      · exact absurd there known
      · have above : tables.sequence < (make (tables.sequence + 1)).id := by
          rw [(columns_row made _).1]
          exact Nat.lt_succ_self _
        rw [same]
        refine .inr ⟨make,made,new,rfl,?_⟩
        dsimp only
        rw [upsertChainState_new consistent above]

theorem importEntry_consistent (consistent : Consistent tables) (identified : storedId entry ≠ "") :
    Consistent (importEntry driver false entry tables).2 := by
  rcases importEntry_cases driver consistent identified with ⟨same,_⟩ | ⟨make,made,new,_,same⟩ <;> rw [same]
  · exact consistent
  · exact added_consistent consistent made new

end Calls

end VeritasOs.PostgresLog
