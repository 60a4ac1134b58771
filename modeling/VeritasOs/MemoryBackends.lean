import VeritasOs.CallRuns
import VeritasOs.MemoryRuns
import VeritasOs.PostgresLog

namespace VeritasOs.MemoryBackends
open Text BindArtifacts Interaction MemoryStore MemoryErase MemoryRuns CallRuns PostgresLog

inductive Call where
  | put (key : String) (value : Dict) (userId : String)
  | get (key : String)
  | search (query userId : String) (limit : Int)
  | delete (key userId : String)
  | listAll (userId : String)
  | eraseUserData (userId : String)

inductive Answer where
  | done
  | value (found : Option Dict)
  | hits (hits : List Dict)
  | deleted (removed : Bool)
  | records (records : List Dict)
  | erased (count : Int)

namespace Json
variable (setting : Setting)

def put (key : String) (value : Dict) (userId : String) : Memory Unit := do
  let _ ← MemoryStore.put setting.platform (.str userId) (.str key) (.dict value)
  return ()

def owner (record : Dict) : String := (record.getD "user_id" (.str "")).text

def get (key : String) : Memory (Option Dict) := do
  let records ← listAll setting none
  let matching := records.filter fun record => pyEq (record.get "key") (.str key)
  match matching with
  | [] => return none
  | first :: _ =>
    if (matching.map owner).dedup.length > 1 then return none
    else return (first.get "value").asDict?

def search (query userId : String) (limit : Int) : Memory (List Dict) := do
  let result ← searchRecords setting.platform { query := query,k := limit,userId := .str userId }
  match result with
  | .dict found =>
    match orList (Dict.get found "episodic") with
    | .list hits => return MemorySearch.dictsOf hits
    | _ => return []
  | _ => return []

def eraseUserData (userId : String) (clock : EraseClock) : Memory Int := do
  let report ← eraseUser ⟨userId,"api.erase_user_data","storage.json_kv"⟩ clock
  match report.getD "deleted" (.int 0) with
  | .int n => return n
  | _ => return 0

def program (clock : EraseClock) : Call → Memory Answer
  | .put key value userId => do let _ ← put setting key value userId; return .done
  | .get key => do let found ← get setting key; return .value found
  | .search query userId limit => do let hits ← search setting query userId limit; return .hits hits
  | .delete key userId => do let removed ← deleteRecord (.str userId) (.str key); return .deleted removed
  | .listAll userId => do let records ← listAll setting (some userId); return .records records
  | .eraseUserData userId => do let count ← eraseUserData userId clock; return .erased count

end Json

-- `erasedAt` is the clock as erase_user reads it, by the step the store is at.
def jsonServe (setting : Setting) (erasedAt : Nat → EraseClock) : Serve Store Call (Except Exc Answer) := fun store call =>
  run (handler setting.backend) (Json.program setting (erasedAt store.steps) call) store

structure MemoryRow where
  key : String
  userId : String
  value : Dict
  createdAt : Value

-- The rows stand in the order of their ids. `calls` is the number of calls before.
structure Table where
  rows : List MemoryRow := []
  calls : Nat := 0

-- What the database brings to the case of letters, what ->> makes of a member that is no
-- string, and the clock.
structure Engine where
  lower : String → String
  jsonText : Value → String
  now : Nat → Value

def like : List Char → List Char → Bool
  | [],text => text.isEmpty
  | '%' :: pattern,text => text.tails.any (like pattern)
  | '_' :: pattern,_ :: text => like pattern text
  | '\\' :: c :: pattern,d :: text => c == d && like pattern text
  | c :: pattern,d :: text => c == d && like pattern text
  | _ :: _,[] => false

namespace Postgres
variable (platform : Platform) (engine : Engine)

def column (name : String) (value : Dict) : String :=
  match value.get name with
  | .none => ""
  | .str s => s
  | other => engine.jsonText other

def holds (key userId : String) (row : MemoryRow) : Bool := row.key = key && row.userId = userId

-- The ON CONFLICT ... DO UPDATE of put.
def upsert (row : MemoryRow) : List MemoryRow → List MemoryRow
  | [] => [row]
  | old :: rest => if holds row.key row.userId old then { old with value := row.value } :: rest else old :: upsert row rest

def put (key : String) (value : Dict) (userId : String) (table : Table) : Except Exc Unit × List MemoryRow :=
  if textTakes key && textTakes userId && jsonbTakes (.dict value) then
    (.ok (),upsert ⟨key,userId,value,engine.now table.calls⟩ table.rows)
  else (.error dataError,table.rows)

def get (key : String) (rows : List MemoryRow) : Except Exc (Option Dict) :=
  if textTakes key = false then .error dataError
  else
    match rows.filter fun row => row.key = key with
    | [] => .ok none
    | first :: others => if ((first :: others).map MemoryRow.userId).dedup.length > 1 then .ok none else .ok (some first.value)

def extractSearchableText (value : Dict) : String := strip ((value.get "text").orStr ((value.get "query").orStr ""))

def patterns (query : String) : List String := (tokens (platform.lowerText (strip query))).map fun token => "%" ++ token ++ "%"

def likeAny (patterns : List String) (text : String) : Bool := patterns.any fun pattern => like pattern.toList text.toList

def selects (patterns : List String) (value : Dict) : Bool :=
  likeAny patterns (engine.lower (column engine "text" value)) || likeAny patterns (engine.lower (column engine "query" value))

def asDict (row : MemoryRow) : Dict :=
  [(.str "key",.str row.key),(.str "user_id",.str row.userId),(.str "value",.dict row.value),(.str "ts",row.createdAt)]

def rowHit (query : String) (row : MemoryRow) : Option (ℚ × Dict) :=
  let text := extractSearchableText row.value
  let score := simpleScore platform query text
  if text = "" ∨ score ≤ 0 then none
  else
    let tags := if (row.value.get "tags").truthy then row.value.get "tags" else .list []
    some (score,kvsHit platform (asDict row) text score tags (row.value.getD "kind" (.str "episodic")))

def search (query userId : String) (limit : Int) (rows : List MemoryRow) : Except Exc (List Dict) :=
  if strip query = "" ∨ limit ≤ 0 ∨ patterns platform query = [] then .ok []
  else if (userId :: patterns platform query).any fun text => !textTakes text then .error dataError
  else
    let found := rows.filter fun row => row.userId = userId && selects engine (patterns platform query) row.value
    let ordered := (found.filterMap (rowHit platform (strip query))).insertionSort fun a b => b.1 ≤ a.1
    .ok ((ordered.map Prod.snd).take limit.toNat)

def delete (key userId : String) (rows : List MemoryRow) : Except Exc Bool × List MemoryRow :=
  if textTakes key && textTakes userId then
    let kept := rows.filter fun row => !holds key userId row
    (.ok (decide (kept.length < rows.length)),kept)
  else (.error dataError,rows)

def listAll (userId : String) (rows : List MemoryRow) : Except Exc (List Dict) :=
  if textTakes userId then .ok ((rows.filter fun row => row.userId = userId).map asDict) else .error dataError

def eraseUserData (userId : String) (rows : List MemoryRow) : Except Exc Int × List MemoryRow :=
  if textTakes userId then
    (.ok (rows.countP fun row => row.userId = userId),rows.filter fun row => row.userId ≠ userId)
  else (.error dataError,rows)

def answer (table : Table) : Call → Except Exc Answer × List MemoryRow
  | .put key value userId =>
    let (stored,rows) := put engine key value userId table
    (stored.map fun _ => .done,rows)
  | .get key => ((get key table.rows).map .value,table.rows)
  | .search query userId limit => ((search platform engine query userId limit table.rows).map .hits,table.rows)
  | .delete key userId =>
    let (removed,rows) := delete key userId table.rows
    (removed.map .deleted,rows)
  | .listAll userId => ((listAll userId table.rows).map .records,table.rows)
  | .eraseUserData userId =>
    let (count,rows) := eraseUserData userId table.rows
    (count.map .erased,rows)

end Postgres

def postgresServe (platform : Platform) (engine : Engine) : Serve Table Call (Except Exc Answer) := fun table call =>
  let (answer,rows) := Postgres.answer platform engine table call
  (answer,⟨rows,table.calls + 1⟩)

end VeritasOs.MemoryBackends
