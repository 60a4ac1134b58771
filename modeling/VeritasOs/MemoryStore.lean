import Mathlib.Data.List.Dedup
import Mathlib.Data.Rat.Defs
import Mathlib.Algebra.Order.Ring.Rat
import VeritasOs.DateTime
import VeritasOs.Interaction
import VeritasOs.PolicyBundle

namespace VeritasOs.MemoryStore
open Text JsonText BindArtifacts Interaction PolicyBundle DateTime

-- What Python brings to floats and to the case of letters outside ASCII.
structure Platform where
  lowerText : String → String
  floatOf : ℚ → FloatValue
  floatInstant : FloatValue → Option Int

def samplePlatform : Platform where
  lowerText := lower
  floatOf := fun _ => .nan
  floatInstant := fun _ => none

def defaultRetentionClass : String := "standard"

def allowedRetentionClasses : List String := ["short","standard","long","regulated"]

def epochInstant : Int := daysBeforeYear 1970 * dayMicros

def isoUtc (instant : Int) : Option String :=
  (plusSecondsIso instant 0).toOption.map fun text => String.ofList text.toList.dropLast ++ "+00:00"

def secondsInstant (seconds : Int) : Option Int :=
  let instant := epochInstant + seconds * 1000000
  if 0 ≤ instant ∧ instant < maxInstant then some instant else none

def optionalText : Option String → Value
  | some text => .str text
  | none => .none

-- Only the move to UTC is outside the try, so only its overflow is raised.
def parseExpiresAt (platform : Platform) (expiresAt : Value) : Except Exc Value :=
  match expiresAt with
  | .int n => .ok (optionalText ((secondsInstant n).bind isoUtc))
  | .bool b => .ok (optionalText ((secondsInstant (if b then 1 else 0)).bind isoUtc))
  | .float x => .ok (optionalText ((platform.floatInstant x).bind isoUtc))
  | .str s =>
    if strip s = "" then .ok .none
    else
      match parseTimestamp (strip s) with
      | .ok instant => .ok (optionalText (isoUtc instant))
      | .error error => if error.kind = .overflowError then .error error else .ok .none
  | _ => .ok .none

def holdTexts : List String := ["true","1","yes"]

def legalHold (raw : Value) : Bool :=
  match raw with
  | .str s => holdTexts.contains (lower (strip s))
  | other => other.truthy

def lifecycleMeta (platform : Platform) (meta_ : Dict) : Except Exc Dict := do
  let retentionClass := lower (strip ((meta_.get "retention_class").orStr defaultRetentionClass))
  let retentionClass := if allowedRetentionClasses.contains retentionClass then retentionClass else defaultRetentionClass
  let hold := legalHold (meta_.getD "legal_hold" (.bool false))
  let expiresAt ← parseExpiresAt platform (meta_.get "expires_at")
  .ok (((meta_.set "retention_class" (.str retentionClass)).set "legal_hold" (.bool hold)).set "expires_at" expiresAt)

-- Only what looks like a document gets lifecycle fields.
def normalizeDocumentLifecycle (platform : Platform) (value : Value) : Except Exc Value :=
  match value with
  | .dict members =>
    if ["text","kind","tags","meta"].any (Dict.has members) then do
      let meta_ ← dictFrom (if (Dict.get members "meta").truthy then Dict.get members "meta" else .dict [])
      let changed ← lifecycleMeta platform meta_
      .ok (.dict (Dict.set members "meta" (.dict changed)))
    else .ok value
  | other => .ok other

-- A reading of the clock: time.time(), its int(), and the UTC stamp %Y%m%d_%H%M%S.
structure Clock where
  time : Value
  seconds : Int
  stamp : String

inductive Op where
  | loadAll (useCache : Bool)
  | saveAll (data : List Value)
  | clock
  | vectorAdd (kind text : String) (tags : Value) (meta_ : Dict)

-- A load that fails answers with no records, and what the vector index raises is logged.
@[reducible] def Ans : Op → Type
  | .loadAll _ => List Value
  | .saveAll _ => Bool
  | .clock => Clock
  | .vectorAdd .. => Unit

abbrev Memory := Prog Op Ans Exc

@[reducible] def loadAll (useCache : Bool) : Memory (List Value) := request (Op.loadAll useCache)
@[reducible] def saveAll (data : List Value) : Memory Bool := request (Op.saveAll data)
@[reducible] def clock : Memory Clock := request Op.clock
@[reducible] def vectorAdd (kind text : String) (tags : Value) (meta_ : Dict) : Memory Unit := request (Op.vectorAdd kind text tags meta_)

def asRecord : Value → Except Exc Dict
  | .dict members => .ok members
  | other => .error (attributeError (typeName other ++ " object has no attribute 'get'"))

def findRecord (userId key : Value) : List Value → Except Exc (Option Nat)
  | [] => .ok none
  | head :: rest => do
    let record ← asRecord head
    if pyEq (record.get "user_id") userId && pyEq (record.get "key") key then .ok (some 0)
    else (findRecord userId key rest).map fun place => place.map (· + 1)

def newRecord (userId key value time : Value) : Value :=
  .dict [(.str "user_id",userId),(.str "key",key),(.str "value",value),(.str "ts",time)]

def rewriteRecord (value time : Value) : Value → Value
  | .dict members => .dict ((Dict.set members "value" value).set "ts" time)
  | other => other

def putRecord (userId key value time : Value) (place : Option Nat) (data : List Value) : List Value :=
  match place with
  | some index => data.modify index (rewriteRecord value time)
  | none => data ++ [newRecord userId key value time]

def put (platform : Platform) (userId key value : Value) : Memory Bool := do
  let normalized ← lift (normalizeDocumentLifecycle platform value)
  let data ← loadAll true
  let place ← lift (findRecord userId key data)
  let now ← clock
  saveAll (putRecord userId key normalized now.time place data)

def putEpisodeRecord (platform : Platform) (text : String) (tags : Value) (meta_ : Dict) : Memory String := do
  let tags := if tags.truthy then tags else .list []
  let record : Dict := [(.str "text",.str text),(.str "tags",tags),(.str "meta",.dict meta_)]
  let userId := meta_.getD "user_id" (.str "episodic")
  let now ← clock
  let key := "episode_" ++ intStr now.seconds
  let _ ← put platform userId (.str key) (.dict record)
  vectorAdd "episodic" text tags meta_
  return key

def keepOthers (userId key : Value) : List Value → Except Exc (List Value)
  | [] => .ok []
  | head :: rest => do
    let record ← asRecord head
    let kept ← keepOthers userId key rest
    .ok (if pyEq (record.get "user_id") userId && pyEq (record.get "key") key then kept else head :: kept)

def deleteRecord (userId key : Value) : Memory Bool := do
  let records ← loadAll false
  let kept ← lift (keepOthers userId key records)
  if kept.length = records.length then return false
  else saveAll kept

-- What memory.json is: absent or empty (the lock opens it for appending, which creates it),
-- not readable as JSON, or a document. What the store writes are JSON values, which are read
-- back as they are.
inductive Content where
  | absent
  | garbled
  | json (raw : Value)
deriving DecidableEq

def migrateUser (time : Value) (member : Key × Value) : List Value :=
  match member.2 with
  | .dict entries => entries.map fun entry => newRecord (keyValue member.1) (keyValue entry.1) entry.2 time
  | _ => []

def normalize (time : Value) (raw : Value) : List Value :=
  match raw with
  | .list records => records
  | .dict members =>
    match Dict.get members "users" with
    | .dict users => users.flatMap (migrateUser time)
    | _ => []
  | _ => []

def Content.records (time : Value) : Content → List Value
  | .json raw => normalize time raw
  | _ => []

structure Store where
  content : Content := .absent
  cache : Option (List Value) := none
  steps : Nat := 0

-- What the surroundings do at each step: whether the cached copy is young enough and of
-- the file's mtime, whether the lock or the file fails, and what the clock reads.
structure Backend where
  cacheFresh : Nat → Bool
  loadFault : Nat → Bool
  saveFault : Nat → Bool
  clock : Nat → Clock

def calm : Backend where
  cacheFresh := fun _ => false
  loadFault := fun _ => false
  saveFault := fun _ => false
  clock := fun _ => ⟨.int 0,0,"19700101_000000"⟩

def Backend.load (backend : Backend) (store : Store) : List Value :=
  if backend.loadFault store.steps then [] else store.content.records (backend.clock store.steps).time

def handler (backend : Backend) : Handler Ans Store
  | .loadAll useCache,store =>
    match if useCache && backend.cacheFresh store.steps then store.cache else none with
    | some data => (data,{ store with steps := store.steps + 1 })
    | none => (backend.load store,{ store with cache := some (backend.load store),steps := store.steps + 1 })
  | .saveAll data,store =>
    if backend.saveFault store.steps then (false,{ store with steps := store.steps + 1 })
    else (true,{ content := .json (.list data),cache := none,steps := store.steps + 1 })
  | .clock,store => (backend.clock store.steps,{ store with steps := store.steps + 1 })
  | .vectorAdd ..,store => ((),{ store with steps := store.steps + 1 })

def Held (store : Store) (record : Value) : Prop :=
  (∃ time, record ∈ store.content.records time) ∨ ∃ cached, store.cache = some cached ∧ record ∈ cached

def OwnedBy (userId : Value) (record : Value) : Prop := ∃ members, record = .dict members ∧ pyEq (Dict.get members "user_id") userId = true

section Steps
variable {backend : Backend} {store : Store}

theorem load_held (listed : record ∈ backend.load store) : Held store record := by
  unfold Backend.load at listed
  split at listed
  · exact absurd listed List.not_mem_nil
  · exact .inl ⟨_,listed⟩

theorem loadAll_held (backend : Backend) (store : Store) (useCache : Bool) :
    (∀ record ∈ (handler backend (.loadAll useCache) store).1, Held store record) ∧
      (∀ record, Held (handler backend (.loadAll useCache) store).2 record → Held store record) := by
  unfold handler
  dsimp only
  split
  · rename_i data cached
    have there : store.cache = some data := by
      split at cached
      · exact cached
      · cases cached
    exact ⟨fun record listed => .inr ⟨data,there,listed⟩,fun record held => held⟩
  · refine ⟨fun record listed => load_held listed,fun record held => ?_⟩
    rcases held with file | ⟨cached,same,listed⟩
    · exact .inl file
    · cases same
      exact load_held listed

theorem clock_held (record : Value) : Held (handler backend .clock store).2 record ↔ Held store record := Iff.rfl

theorem saveAll_held (held : Held (handler backend (.saveAll data) store).2 record) : Held store record ∨ record ∈ data := by
  unfold handler at held
  dsimp only at held
  split at held
  · exact .inl held
  · rcases held with ⟨time,listed⟩ | ⟨cached,same,listed⟩
    · exact .inr listed
    · cases same

end Steps

theorem owned_newRecord (userId key value time : Value) (reflexive : pyEq userId userId = true) : OwnedBy userId (newRecord userId key value time) :=
  ⟨_,rfl,reflexive⟩

theorem findRecord_owned (found : findRecord userId key data = .ok (some index)) :
    ∃ members, data[index]? = some (.dict members) ∧ pyEq (Dict.get members "user_id") userId = true ∧ pyEq (Dict.get members "key") key = true := by
  induction data generalizing index with
  | nil => cases found
  | cons head rest ih =>
    obtain ⟨record,read,found⟩ := bind_ok.mp found
    have same : head = .dict record := by
      cases head <;> simp_all [asRecord]
    split at found
    · rename_i match_
      cases found
      rw [Bool.and_eq_true] at match_
      exact ⟨record,by rw [same]; rfl,match_⟩
    · cases place : findRecord userId key rest with
      | error error => rw [place] at found; cases found
      | ok where_ =>
        rw [place] at found
        cases where_ with
        | none => cases found
        | some inner =>
          cases found
          obtain ⟨members,there,owned⟩ := ih place
          exact ⟨members,there,owned⟩

theorem owned_rewrite {userId value time : Value} {members : Dict} (owned : pyEq (members.get "user_id") userId = true) :
    OwnedBy userId (rewriteRecord value time (.dict members)) := by
  refine ⟨_,rfl,?_⟩
  rw [get_set_other (by decide),get_set_other (by decide)]
  exact owned

theorem putRecord_owned {userId key value time : Value} {data : List Value} {place : Option Nat} (reflexive : pyEq userId userId = true)
    (found : findRecord userId key data = .ok place) {record : Value} (listed : record ∈ putRecord userId key value time place data) :
    record ∈ data ∨ OwnedBy userId record := by
  cases place with
  | none =>
    rcases List.mem_append.mp listed with old | new
    · exact .inl old
    · rw [List.mem_singleton.mp new]
      exact .inr (owned_newRecord userId key value time reflexive)
  | some index =>
    obtain ⟨members,there,owned,_⟩ := findRecord_owned found
    obtain ⟨position,at_⟩ := List.mem_iff_getElem?.mp listed
    rw [putRecord,List.getElem?_modify] at at_
    by_cases same : index = position
    · subst same
      simp only [if_true,there,Option.map_eq_map,Option.map_some] at at_
      cases at_
      exact .inr (owned_rewrite owned)
    · simp only [same,if_false,Option.map_eq_map,Option.map_id'] at at_
      exact .inl (List.mem_of_getElem? at_)

theorem run_put (platform : Platform) (userId key value : Value) (backend : Backend) (store : Store) :
    run (handler backend) (put platform userId key value) store = match normalizeDocumentLifecycle platform value with
      | .error error => (.error error,store)
      | .ok normalized =>
        match findRecord userId key (handler backend (.loadAll true) store).1 with
        | .error error => (.error error,(handler backend (.loadAll true) store).2)
        | .ok place =>
          let loaded := handler backend (.loadAll true) store
          let timed := handler backend .clock loaded.2
          let saved := handler backend (.saveAll (putRecord userId key normalized timed.1.time place loaded.1)) timed.2
          (.ok saved.1,saved.2) := by
  unfold put
  cases normalizeDocumentLifecycle platform value with
  | error error => rfl
  | ok normalized =>
    simp only [lift_ok,bind_pure,loadAll,bind_request,run]
    cases findRecord userId key (handler backend (.loadAll true) store).1 with
    | error error => rfl
    | ok place => rfl

theorem put_keeps (platform : Platform) (userId key value : Value) (backend : Backend) {before : Value → Prop}
    (reflexive : pyEq userId userId = true) :
    Keeps (handler backend) (fun store => ∀ record, Held store record → before record ∨ OwnedBy userId record) (put platform userId key value) := by
  intro store good record
  rw [run_put]
  cases normalizeDocumentLifecycle platform value with
  | error error => exact good record
  | ok normalized =>
    obtain ⟨read,kept⟩ := loadAll_held backend store true
    cases found : findRecord userId key (handler backend (.loadAll true) store).1 with
    | error error => exact fun held => good record (kept record held)
    | ok place =>
      intro held
      rcases saveAll_held held with old | written
      · exact good record (kept record ((clock_held record).mp old))
      · rcases putRecord_owned reflexive found written with listed | owned
        · exact good record (read record listed)
        · exact .inr owned

def tokens (text : String) : List String :=
  ((text.toList.splitOnP isSpace).filter (· ≠ [])).map String.ofList

def simpleScore (platform : Platform) (query text : String) : ℚ :=
  let normalizedQuery := platform.lowerText (strip query)
  let normalizedText := platform.lowerText (strip text)
  if normalizedQuery = "" ∨ normalizedText = "" then 0
  else
    let base : ℚ := if hasSub normalizedQuery normalizedText || hasSub normalizedText normalizedQuery then 1 / 2 else 0
    let queryTokens := (tokens normalizedQuery).dedup
    let textTokens := tokens normalizedText
    let shared := (queryTokens.filter fun token => textTokens.contains token).length
    let tokenScore : ℚ := if queryTokens = [] ∨ textTokens = [] then 0 else shared / queryTokens.length
    min 1 (base + 1 / 2 * tokenScore)

structure Query where
  query : String
  k : Int
  kinds : Option (List Value) := none
  -- A threshold that is no number counts as 1.1.
  minSim : Option ℚ := some 0
  userId : Value := .none

def kvsHit (platform : Platform) (record : Dict) (text : String) (score : ℚ) (tags kind : Value) : Dict :=
  [(.str "id",record.get "key"),(.str "text",.str text),(.str "score",.float (platform.floatOf score)),(.str "tags",tags),
   (.str "ts",record.get "ts"),
   (.str "meta",.dict [(.str "user_id",record.get "user_id"),(.str "created_at",record.get "ts"),(.str "kind",kind)])]

def recordHit (platform : Platform) (search : Query) (value : Value) : Except Exc (Option (ℚ × Dict)) := do
  let record ← asRecord value
  if search.userId ≠ .none ∧ pyEq (record.get "user_id") search.userId = false then .ok none
  else
    match if (record.get "value").truthy then record.get "value" else .dict [] with
    | .dict document =>
      let text := strip ((Dict.get document "text").orStr ((Dict.get document "query").orStr ""))
      let score := simpleScore platform (strip search.query) text
      let kind := Dict.getD document "kind" (.str "episodic")
      let tags := if (Dict.get document "tags").truthy then Dict.get document "tags" else .list []
      if text = "" ∨ score < search.minSim.getD (11 / 10) then .ok none
      else if (search.kinds.map fun kinds => !kinds.isEmpty && !(kinds.any (pyEq kind))).getD false then .ok none
      else .ok (some (score,kvsHit platform record text score tags kind))
    | _ => .ok none

def buildKvsSearchHits (platform : Platform) (search : Query) (records : List Value) : Except Exc (List Dict) := do
  if strip search.query = "" ∨ search.k ≤ 0 then .ok []
  else
    let scored ← records.mapM (recordHit platform search)
    let ordered := scored.reduceOption.insertionSort fun a b => b.1 ≤ a.1
    .ok ((ordered.map Prod.snd).take search.k.toNat)

-- MemoryStore.search: what it found stands under "episodic".
def searchRecords (platform : Platform) (search : Query) : Memory Value := do
  let data ← loadAll true
  let episodic ← lift (buildKvsSearchHits platform search data)
  return .dict (if episodic = [] then [] else [(.str "episodic",.list (episodic.map .dict))])

end VeritasOs.MemoryStore
