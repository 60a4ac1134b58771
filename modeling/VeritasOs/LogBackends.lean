import Mathlib.Data.List.Find
import VeritasOs.CallRuns
import VeritasOs.LogVerify
import VeritasOs.PolicyBundle
import VeritasOs.PostgresLog

namespace VeritasOs.LogBackends
open Text TextLines TrustLog LogFiles LogRuns CallRuns PostgresLog

-- The bounds of items[start:stop].
def sliceIndex (length : Nat) (index : Int) : Nat := if index < 0 then (index + length).toNat else min index.toNat length

def sliceOf (start stop : Int) (items : List α) : List α :=
  (items.take (sliceIndex items.length stop)).drop (sliceIndex items.length start)

namespace Jsonl
variable (cipher : Cipher)

-- iter_trust_log(reverse=True): the lines are those of the bytes.
def iterTrustLogReversed (files : Files) : List Value :=
  (splitLines (files.active.getD [])).reverse.filterMap (decodeLine cipher)

def findEntry (requestId : String) : List Value → Except Exc (Option Value)
  | [] => .ok none
  | .dict members :: rest =>
    if pyEq (Dict.get members "request_id") (.str requestId) then .ok (some (.dict members)) else findEntry requestId rest
  | other :: _ => .error (PolicyBundle.attributeError (PolicyBundle.typeName other ++ " object has no attribute 'get'"))

def append (storage : Storage) (entry : Dict) (files : Files) : Except Exc String × Files :=
  let (saved,after) := LogFiles.appendTrustLog cipher storage entry files
  (saved.map storedId,after)

def getById (requestId : String) (files : Files) : Except Exc (Option Value) :=
  if requestId = "" then .ok none else findEntry requestId (iterTrustLogReversed cipher files)

def iterEntries (limit offset : Int) (files : Files) : List Value :=
  if limit ≤ 0 then [] else sliceOf offset (offset + limit) (iterTrustLogReversed cipher files)

def getLastHash (files : Files) : Option String := getLastHashUnlocked cipher files

end Jsonl

-- The file system answers; `createdAt` is the clock, read once for each append.
structure Setting where
  masking : Masking
  sha256 : String → String
  hex : ∀ text, isSha256Hex (sha256 text) = true
  maxLines : Nat
  positive : 1 ≤ maxLines
  createdAt : Nat → String

def Setting.storage (setting : Setting) : Storage where
  masking := setting.masking
  sha256 := setting.sha256
  maxLines := setting.maxLines
  createdAt := setting.createdAt
  appendFault _ := .none
  readFault _ := false

structure Entry where
  members : Dict
  distinct : (members.map Prod.fst).Nodup

def jsonlAppend (cipher : Cipher) (setting : Setting) : Serve Files Entry (Except Exc String) := fun files entry =>
  Jsonl.append cipher setting.storage entry.members files

-- The state is the number of appends before, and the tables.
def postgresAppend (driver : Driver) (setting : Setting) : Serve (Nat × Tables) Entry (Except Exc String) := fun state entry =>
  let (answer,tables) := PostgresLog.append driver setting.masking setting.sha256 (setting.createdAt state.1) entry.members state.2
  (answer,state.1 + 1,tables)

def savedLines (cipher : Cipher) (setting : Setting) : Files → List Entry → List Dict
  | _,[] => []
  | files,entry :: rest =>
    let (saved,after) := LogFiles.appendTrustLog cipher setting.storage entry.members files
    match saved with
    | .ok prepared => lineOf prepared :: savedLines cipher setting after rest
    | .error _ => savedLines cipher setting after rest

-- What the protocol says of limit and offset.
def page (limit offset : Int) (entries : List α) : List α :=
  if limit ≤ 0 then [] else (entries.drop offset.toNat).take limit.toNat

theorem sliceOf_page (positive : 0 < limit) (inside : 0 ≤ offset) (items : List α) :
    sliceOf offset (offset + limit) items = page limit offset items := by
  have sum : (offset + limit).toNat = offset.toNat + limit.toNat := by omega
  rw [sliceOf,page,if_neg (by omega),sliceIndex,sliceIndex,if_neg (by omega),if_neg (by omega),sum]
  apply List.ext_getElem?
  intro i
  rw [List.getElem?_drop,List.getElem?_take,List.getElem?_take,List.getElem?_drop]
  by_cases room : i < limit.toNat
  · by_cases there : offset.toNat + i < items.length
    · rw [if_pos (by omega),if_pos room,Nat.min_eq_left (by omega)]
    · rw [if_neg (by omega),if_pos room,List.getElem?_eq_none (by omega)]
  · rw [if_neg room,if_neg (by omega)]

def logAfter (setting : Setting) (log : Log) (calls : List Entry) : Log :=
  calls.foldl (fun log entry => (TrustLog.appendTrustLog setting.storage entry.members log).2) log

structure Stored (cipher : Cipher) (files : Files) (log : Log) (lines : List Dict) : Prop where
  holds : Holds cipher files log
  active : log.active = lines
  unrotated : log.rotated = []
  unmarked : log.marker = none
  hashed : ∀ line ∈ lines, ∃ hash, line.get "sha256" = .str hash ∧ isSha256Hex hash = true

theorem canonical_hash {line : Dict} {hash : String} (hashed : line.get "sha256" = .str hash) (canonical : isSha256Hex hash = true) :
    entryHash line = some hash := by
  rw [entryHash,hashed]
  exact if_neg (hex_plain canonical).2

section File
variable {cipher : Cipher} {setting : Setting} {files : Files} {log : Log} {lines : List Dict}

theorem start_stored : Stored cipher {} {} [] where
  holds := (start_tracked cipher).holds
  active := rfl
  unrotated := rfl
  unmarked := rfl
  hashed := fun _ listed => nomatch listed

theorem stored_hash (stored : Stored cipher files log lines) : TrustLog.getLastHash log = lines.getLast?.bind entryHash := by
  rw [TrustLog.getLastHash,stored.active]
  rcases List.eq_nil_or_concat lines with rfl | ⟨before,last,rfl⟩
  · rw [if_pos rfl,stored.unmarked,stored.unrotated]
    rfl
  · obtain ⟨hash,hashed,canonical⟩ := stored.hashed last (by simp)
    rw [if_neg (by simp)]
    simp [lastSha256,canonical_hash hashed canonical,canonical]

theorem append_log (setting : Setting) (entry : Dict) (log : Log) :
    (∃ error, prepareEntry setting.masking setting.sha256 entry (TrustLog.getLastHash log) (setting.createdAt log.appends) = .error error ∧
        TrustLog.appendTrustLog setting.storage entry log = (.error error,{ log with appends := log.appends + 1 })) ∨
      ∃ prepared line, prepareEntry setting.masking setting.sha256 entry (TrustLog.getLastHash log) (setting.createdAt log.appends) =
          .ok (prepared,line) ∧ TrustLog.appendTrustLog setting.storage entry log =
          (.ok prepared,writeLine setting.maxLines line { log with appends := log.appends + 1 }) := by
  cases made : prepareEntry setting.masking setting.sha256 entry (TrustLog.getLastHash log) (setting.createdAt log.appends) with
  | error error =>
    refine .inl ⟨error,rfl,?_⟩
    unfold TrustLog.appendTrustLog
    simp only [Setting.storage,made]
  | ok pair => exact .inr ⟨pair.1,pair.2,rfl,appendTrustLog_written rfl made⟩

theorem rotated_append (setting : Setting) (entry : Dict) (rotated : log.rotated ≠ []) : (TrustLog.appendTrustLog setting.storage entry log).2.rotated ≠ [] := by
  rcases append_log setting entry log with ⟨error,_,same⟩ | ⟨prepared,line,_,same⟩ <;> rw [same]
  · exact rotated
  · rw [writeLine,TrustLog.rotateIfNeeded]
    split
    · exact rotated
    · rename_i full
      have positive := setting.positive
      intro empty
      have none_ : log.active = [] := empty
      simp only [none_,List.length_nil] at full
      omega

variable (sound : Sound cipher)
include sound

theorem jsonl_holds (setting : Setting) (entry : Entry) (holds : Holds cipher files log) :
    (LogFiles.appendTrustLog cipher setting.storage entry.members files).1 = (TrustLog.appendTrustLog setting.storage entry.members log).1 ∧
      Holds cipher (LogFiles.appendTrustLog cipher setting.storage entry.members files).2
        (TrustLog.appendTrustLog setting.storage entry.members log).2 :=
  appendTrustLog_holds sound setting.storage setting.hex setting.positive entry.distinct holds

theorem unrotated_before (calls : List Entry) (holds : Holds cipher files log)
    (unrotated : (after (jsonlAppend cipher setting) files calls).rotated = none) : log.rotated = [] := by
  induction calls generalizing files log with
  | nil =>
    obtain ⟨lines,held,same⟩ := holds.rotated
    rw [show files.rotated = none from unrotated] at held
    rw [same,(content_nil.mp held.symm).1]
    rfl
  | cons entry rest ih =>
    have later := ih (jsonl_holds sound setting entry holds).2 unrotated
    by_contra rotated
    exact rotated_append setting entry.members rotated later

theorem jsonl_step (entry : Entry) (stored : Stored cipher files log lines)
    (room : (TrustLog.appendTrustLog setting.storage entry.members log).2.rotated = []) :
    Stored cipher (jsonlAppend cipher setting files entry).2 (TrustLog.appendTrustLog setting.storage entry.members log).2
      (lines ++ savedLines cipher setting files [entry]) := by
  obtain ⟨answer,holds⟩ := jsonl_holds sound setting entry stored.holds
  rcases append_log setting entry.members log with ⟨error,_,same⟩ | ⟨prepared,line,made,same⟩
  · rw [same] at answer holds ⊢
    have none_ : savedLines cipher setting files [entry] = [] := by
      rw [savedLines]
      simp only [answer]
      rfl
    rw [none_,List.append_nil]
    exact { stored with holds := holds }
  · have copied : lineOf prepared = line := by
      rw [lineOf,(prepareEntry_prepared entry.distinct made).copied]
      rfl
    obtain ⟨text,_,hashed⟩ := (prepareEntry_prepared entry.distinct made).hashed
    rw [same] at answer holds room ⊢
    have one : savedLines cipher setting files [entry] = [line] := by
      rw [savedLines]
      simp only [answer,copied]
      rfl
    have below : log.active.length < setting.maxLines := by
      by_contra full
      have positive := setting.positive
      rw [writeLine,TrustLog.rotateIfNeeded,if_neg full] at room
      have none_ : log.active = [] := room
      rw [none_,List.length_nil] at full
      omega
    have kept : writeLine setting.maxLines line { log with appends := log.appends + 1 } =
        { log with appends := log.appends + 1,active := log.active ++ [line] } := by
      rw [writeLine,TrustLog.rotateIfNeeded,if_pos below]
    rw [kept] at holds ⊢
    rw [one]
    refine ⟨holds,by rw [←stored.active],stored.unrotated,stored.unmarked,?_⟩
    exact List.forall_mem_append.mpr ⟨stored.hashed,List.forall_mem_singleton.mpr ⟨_,hashed,setting.hex text⟩⟩

omit sound in
theorem savedLines_cons (entry : Entry) (rest : List Entry) : savedLines cipher setting files (entry :: rest) =
    savedLines cipher setting files [entry] ++ savedLines cipher setting (jsonlAppend cipher setting files entry).2 rest := by
  rw [savedLines,savedLines]
  unfold jsonlAppend Jsonl.append
  dsimp only
  split <;> rfl

theorem jsonl_run (calls : List Entry) (stored : Stored cipher files log lines)
    (unrotated : (after (jsonlAppend cipher setting) files calls).rotated = none) :
    Stored cipher (after (jsonlAppend cipher setting) files calls) (logAfter setting log calls) (lines ++ savedLines cipher setting files calls) := by
  induction calls generalizing files log lines with
  | nil =>
    rw [savedLines,List.append_nil]
    exact stored
  | cons entry rest ih =>
    have room := unrotated_before sound rest (jsonl_holds sound setting entry stored.holds).2 unrotated
    have kept := ih (jsonl_step sound entry stored room) unrotated
    rw [savedLines_cons,←List.append_assoc]
    exact kept

theorem reversed_stored (stored : Stored cipher files log lines) :
    Jsonl.iterTrustLogReversed cipher files = lines.reverse.map Value.dict := by
  obtain ⟨written,held,active⟩ := stored.holds.active
  have split : splitLines (content written []) = written.map Line.chars := by
    rw [content,splitLines_file (lines_unbroken sound written) List.not_mem_nil,tail,if_pos rfl,List.append_nil]
  have read : ∀ chars ∈ (written.map Line.chars).reverse, ∃ line ∈ written, chars = line.chars := by
    intro chars listed
    obtain ⟨line,there,same⟩ := List.mem_map.mp (List.mem_reverse.mp listed)
    exact ⟨line,there,same.symm⟩
  rw [Jsonl.iterTrustLogReversed,held,split,←stored.active,active,←List.map_reverse,←List.map_reverse,List.filterMap_map,List.map_map,
    ←List.filterMap_eq_map]
  exact List.filterMap_congr fun line _ => decodeLine_line sound line

end File

structure Kept (row : Row) : Prop where
  hash : entryHash row.entry = row.hash
  named : ∀ id, id ≠ "" → row.entry.get "request_id" = .str id → row.requestId = id

structure Ledger (tables : Tables) : Prop where
  consistent : Consistent tables
  kept : ∀ row ∈ tables.entries, Kept row

theorem start_ledger : Ledger {} := ⟨start_consistent,fun _ listed => nomatch listed⟩

theorem ledger_hash (ledger : Ledger tables) : PostgresLog.getLastHash tables = tables.documents.getLast?.bind entryHash := by
  rw [PostgresLog.getLastHash,ledger.consistent.head,Tables.documents,List.getLast?_map]
  cases last : tables.entries.getLast? with
  | none => rfl
  | some row => exact (ledger.kept row (List.mem_of_getLast? last)).hash.symm

section Tables
variable {driver : Driver} {setting : Setting} {tables : Tables} {previous : Option String} {now : String} {raw prepared line : Dict}

theorem line_text (distinct : (raw.map Prod.fst).Nodup)
    (made : prepareEntry setting.masking setting.sha256 raw previous now = .ok (prepared,line)) {name id : String}
    (given : line.get name = .str id) : prepared.get name = .str id := by
  obtain ⟨text,_,shape,copied⟩ := prepareEntry_parts made
  have record : Record prepared := by
    rw [shape]
    exact (stampEntry_record ⟨prepareEntry_named made,distinct⟩ previous now).set _ _
  obtain ⟨fields,same,members⟩ := jsonCopy_fields record copied
  cases same
  rw [Dict.get,members] at given
  cases found : lookup (.str name) prepared with
  | none => rw [found] at given; cases given
  | some value =>
    rw [found,Option.bind_some] at given
    cases copy : jsonCopy value with
    | none => rw [copy] at given; cases given
    | some part =>
      rw [copy,Option.getD_some] at given
      subst given
      obtain ⟨json,written,read⟩ := Option.map_eq_some_iff.mp copy
      have text : json = .str id := by
        cases json with
        | str s => cases read; rfl
        | atom a => cases a <;> cases read
        | arr items => cases read
        | obj members => cases read
      rw [Dict.get,found,Option.getD_some]
      exact toJson_str_exact.mp (text ▸ written)

theorem made_kept (distinct : (raw.map Prod.fst).Nodup)
    (made : prepareEntry setting.masking setting.sha256 raw previous now = .ok (prepared,line)) {make : Nat → Row}
    (taken : columns driver (storedId prepared) line (prepared.get "sha256") (BindArtifacts.optStr previous) = some make) (id : Nat) : Kept (make id) := by
  obtain ⟨_,keyed,entered,hashed,_⟩ := columns_row taken id
  obtain ⟨text,preparedHash,lineHash⟩ := (prepareEntry_prepared distinct made).hashed
  constructor
  · rw [entered,canonical_hash lineHash (setting.hex text)]
    rw [preparedHash,textColumn] at hashed
    split at hashed
    · exact Option.some.inj hashed
    · cases hashed
  · intro name some_ given
    rw [entered] at given
    rw [keyed,storedId,line_text distinct made given,Value.orStr,if_pos (by simpa [Value.truthy] using some_)]
    rfl

theorem postgres_ledger (driver : Driver) (setting : Setting) (entry : Entry) (state : Nat × Tables) (ledger : Ledger state.2) :
    Ledger (postgresAppend driver setting state entry).2.2 := by
  refine ⟨append_consistent driver ledger.consistent,?_⟩
  intro row listed
  rcases append_cases driver setting.masking setting.sha256 (setting.createdAt state.1) entry.members state.2 with
    ⟨error,sequence,same,_⟩ | ⟨prepared,line,make,made,taken,_,same⟩
  · rw [postgresAppend,same] at listed
    exact ledger.kept row listed
  · rw [postgresAppend,same] at listed
    rcases List.mem_append.mp listed with old | last
    · exact ledger.kept row old
    · rw [List.mem_singleton.mp last]
      exact made_kept entry.distinct made taken _

theorem postgres_run (calls : List Entry) (ledger : Ledger state.2) : Ledger (after (postgresAppend driver setting) state calls).2 := by
  induction calls generalizing state with
  | nil => exact ledger
  | cons entry rest ih => exact ih (postgres_ledger driver setting entry state ledger)

end Tables

section Contract
variable (cipher : Cipher) (driver : Driver) (setting : Setting) (calls : List Entry)

-- If the entry can be prepared at all, its id is new and the columns have a form for it.
def Meets (state : Nat × Tables) (entry : Entry) : Prop :=
  ∀ prepared line,
    prepareEntry setting.masking setting.sha256 entry.members (PostgresLog.getLastHash state.2) (setting.createdAt state.1) = .ok (prepared,line) →
    storedId prepared ∉ state.2.keys ∧
      columns driver (storedId prepared) line (prepared.get "sha256") (BindArtifacts.optStr (PostgresLog.getLastHash state.2)) ≠ none

def Unrefused : Prop :=
  ∀ before entry rest, calls = before ++ entry :: rest → Meets driver setting (after (postgresAppend driver setting) (0,{}) before) entry

def jsonlFiles : Files := after (jsonlAppend cipher setting) {} calls
def postgresTables : Tables := (after (postgresAppend driver setting) (0,{}) calls).2
def savedEntries : List Dict := savedLines cipher setting {} calls

structure Alike : Prop where
  answers : (answers (jsonlAppend cipher setting) {} calls).map Except.toOption =
    (answers (postgresAppend driver setting) (0,{}) calls).map Except.toOption
  entries : (postgresTables driver setting calls).documents = savedEntries cipher setting calls
  lastHash : Jsonl.getLastHash cipher (jsonlFiles cipher setting calls) = PostgresLog.getLastHash (postgresTables driver setting calls)
  byId : (∀ line ∈ savedEntries cipher setting calls, ∃ id, id ≠ "" ∧ line.get "request_id" = .str id) →
    ∀ id, textTakes id = true → ∃ found, PostgresLog.getById id (postgresTables driver setting calls) = .ok found ∧
      Jsonl.getById cipher id (jsonlFiles cipher setting calls) = .ok (found.map Value.dict)

structure Obeys : Prop where
  newestFirst : ∀ limit offset, 0 ≤ offset → Jsonl.iterEntries cipher limit offset (jsonlFiles cipher setting calls) =
    (page limit offset (savedEntries cipher setting calls).reverse).map Value.dict
  jsonlHash : Jsonl.getLastHash cipher (jsonlFiles cipher setting calls) = (savedEntries cipher setting calls).getLast?.bind entryHash
  distinct : (postgresTables driver setting calls).keys.Nodup
  ordered : (postgresTables driver setting calls).entries.Pairwise fun earlier later => earlier.id < later.id
  oldestFirst : ∀ limit offset, 0 ≤ offset → PostgresLog.iterEntries limit offset (postgresTables driver setting calls) =
    .ok (page limit offset (postgresTables driver setting calls).documents)
  postgresHash : PostgresLog.getLastHash (postgresTables driver setting calls) =
    (postgresTables driver setting calls).documents.getLast?.bind entryHash
  repeated : ∀ before entry rest prepared line, calls = before ++ entry :: rest →
    prepareEntry setting.masking setting.sha256 entry.members (PostgresLog.getLastHash (postgresTables driver setting before))
      (setting.createdAt before.length) = .ok (prepared,line) → storedId prepared ∈ (postgresTables driver setting before).keys →
      ∃ error, (postgresAppend driver setting (before.length,postgresTables driver setting before) entry).1 = .error error ∧
        error.kind = .runtimeError ∧
        (postgresTables driver setting (before ++ [entry])).documents = (postgresTables driver setting before).documents
  alike : Unrefused driver setting calls → Alike cipher driver setting calls

end Contract

theorem find_reverse {α κ : Type} [DecidableEq κ] {key : α → κ} {items : List α} (distinct : (items.map key).Nodup) (wanted : κ) :
    items.reverse.find? (fun item => key item = wanted) = items.find? fun item => key item = wanted := by
  refine List.find?_eq_find?_of_perm (List.reverse_perm items) fun first one second other => ?_
  have left : key first = wanted := of_decide_eq_true one.2
  have right : key second = wanted := of_decide_eq_true other.2
  exact List.inj_on_of_nodup_map distinct (List.mem_reverse.mp one.1) (List.mem_reverse.mp other.1) (left.trans right.symm)

theorem findEntry_documents (id : String) (lines : List Dict) : Jsonl.findEntry id (lines.map Value.dict) =
    .ok ((lines.find? fun line => line.get "request_id" = .str id).map Value.dict) := by
  induction lines with
  | nil => rfl
  | cons line rest ih =>
    rw [List.map_cons,Jsonl.findEntry,ih]
    by_cases here : line.get "request_id" = .str id
    · rw [if_pos ((pyEq_str _ _).mpr here),List.find?_cons_of_pos (by simpa using here)]
      rfl
    · rw [if_neg fun same => here ((pyEq_str _ _).mp same),List.find?_cons_of_neg (by simpa using here)]

structure Together (cipher : Cipher) (files : Files) (log : Log) (lines : List Dict) (state : Nat × Tables) : Prop where
  stored : Stored cipher files log lines
  ledger : Ledger state.2
  entries : state.2.documents = lines
  count : log.appends = state.1

section Together
variable {cipher : Cipher} {driver : Driver} {setting : Setting} {files : Files} {log : Log} {lines : List Dict} {state : Nat × Tables}

theorem together_hash (together : Together cipher files log lines state) : TrustLog.getLastHash log = PostgresLog.getLastHash state.2 := by
  rw [stored_hash together.stored,ledger_hash together.ledger,together.entries]

variable (sound : Sound cipher)
include sound

theorem together_step (entry : Entry) (together : Together cipher files log lines state)
    (room : (TrustLog.appendTrustLog setting.storage entry.members log).2.rotated = []) (meets : Meets driver setting state entry) :
    (jsonlAppend cipher setting files entry).1.toOption = (postgresAppend driver setting state entry).1.toOption ∧
      Together cipher (jsonlAppend cipher setting files entry).2 (TrustLog.appendTrustLog setting.storage entry.members log).2
        (lines ++ savedLines cipher setting files [entry]) (postgresAppend driver setting state entry).2 := by
  have stored := jsonl_step sound entry together.stored room
  have ledger := postgres_ledger driver setting entry state together.ledger
  obtain ⟨answer,_⟩ := jsonl_holds sound setting entry together.stored.holds
  have counted : (TrustLog.appendTrustLog setting.storage entry.members log).2.appends = log.appends + 1 := by
    rcases append_log setting entry.members log with ⟨error,_,same⟩ | ⟨prepared,line,_,same⟩ <;> rw [same]
    rw [writeLine,TrustLog.rotateIfNeeded]
    split <;> rfl
  have answered : (jsonlAppend cipher setting files entry).1 = (TrustLog.appendTrustLog setting.storage entry.members log).1.map storedId := by
    rw [←answer]
    rfl
  unfold Meets at meets
  have cases_ := append_cases driver setting.masking setting.sha256 (setting.createdAt state.1) entry.members state.2
  rw [←together_hash together,←together.count] at meets cases_
  have pair : postgresAppend driver setting state entry =
      ((PostgresLog.append driver setting.masking setting.sha256 (setting.createdAt log.appends) entry.members state.2).1,
        state.1 + 1,(PostgresLog.append driver setting.masking setting.sha256 (setting.createdAt log.appends) entry.members state.2).2) := by
    rw [together.count]
    rfl
  rcases append_log setting entry.members log with ⟨error,refused,same⟩ | ⟨prepared,line,made,same⟩
  · have none_ : savedLines cipher setting files [entry] = [] := by
      rw [savedLines]
      simp only [answer,same]
      rfl
    rcases cases_ with ⟨failure,sequence,left,_⟩ | ⟨prepared,line,make,made,_⟩
    · rw [answered,same,pair,left]
      refine ⟨rfl,?_⟩
      rw [none_,List.append_nil] at stored ⊢
      rw [same] at stored counted
      rw [pair,left] at ledger
      exact ⟨stored,ledger,together.entries,by rw [counted,together.count]⟩
    · rw [refused] at made
      cases made
  · obtain ⟨new,taken⟩ := meets prepared line made
    have copied : lineOf prepared = line := by
      rw [lineOf,(prepareEntry_prepared entry.distinct made).copied]
      rfl
    have one : savedLines cipher setting files [entry] = [line] := by
      rw [savedLines]
      simp only [answer,same,copied]
      rfl
    rcases cases_ with ⟨failure,sequence,_,_,why⟩ | ⟨other,copy,make,again,made_,_,left⟩
    · rcases why with refused | ⟨other,copy,again,refused⟩
      · rw [made] at refused
        cases refused
      · rw [made] at again
        cases again
        rcases refused with refused | known
        · exact absurd refused taken
        · exact absurd known new
    · rw [made] at again
      cases again
      rw [answered,same,pair,left]
      refine ⟨rfl,?_⟩
      rw [one] at stored ⊢
      rw [same] at stored counted
      rw [pair,left] at ledger
      refine ⟨stored,ledger,?_,by rw [counted,together.count]⟩
      rw [Tables.documents,List.map_append,List.map_singleton,(columns_row made_ _).2.2.1,←together.entries]
      rfl

theorem together_run (calls : List Entry) (together : Together cipher files log lines state)
    (unrotated : (after (jsonlAppend cipher setting) files calls).rotated = none)
    (unrefused : ∀ before entry rest, calls = before ++ entry :: rest →
      Meets driver setting (after (postgresAppend driver setting) state before) entry) :
    (answers (jsonlAppend cipher setting) files calls).map Except.toOption =
        (answers (postgresAppend driver setting) state calls).map Except.toOption ∧
      Together cipher (after (jsonlAppend cipher setting) files calls) (logAfter setting log calls)
        (lines ++ savedLines cipher setting files calls) (after (postgresAppend driver setting) state calls) := by
  induction calls generalizing files log lines state with
  | nil =>
    rw [savedLines,List.append_nil]
    exact ⟨rfl,together⟩
  | cons entry rest ih =>
    have room := unrotated_before sound rest (jsonl_holds sound setting entry together.stored.holds).2 unrotated
    obtain ⟨same,onward⟩ := together_step sound entry together room (unrefused [] entry rest rfl)
    obtain ⟨later,final⟩ := ih onward unrotated fun before other more split => unrefused (entry :: before) other more (by rw [split]; rfl)
    rw [savedLines_cons,←List.append_assoc,answers,answers,List.map_cons,List.map_cons,same,later]
    exact ⟨rfl,final⟩

end Together

theorem after_count (driver : Driver) (setting : Setting) (calls : List Entry) (state : Nat × Tables) :
    (after (postgresAppend driver setting) state calls).1 = state.1 + calls.length := by
  induction calls generalizing state with
  | nil => rfl
  | cons entry rest ih =>
    rw [after,List.foldl_cons,←after,ih,List.length_cons]
    change state.1 + 1 + rest.length = _
    omega

theorem page_documents (inside : 0 ≤ offset) (tables : Tables) :
    PostgresLog.iterEntries limit offset tables = .ok (page limit offset tables.documents) := by
  rw [PostgresLog.iterEntries,page]
  split
  · rfl
  · rw [if_neg (by omega)]

theorem page_reversed (sound : Sound cipher) (stored : Stored cipher files log lines) (inside : 0 ≤ offset) :
    Jsonl.iterEntries cipher limit offset files = (page limit offset lines.reverse).map Value.dict := by
  rw [Jsonl.iterEntries,reversed_stored sound stored]
  by_cases none_ : limit ≤ 0
  · rw [if_pos none_,page,if_pos none_]
    rfl
  · rw [if_neg none_,sliceOf_page (by omega) inside,page,page,if_neg none_,if_neg none_,List.map_take,List.map_drop]

theorem together_lookup {cipher : Cipher} (sound : Sound cipher) {files : Files} {log : Log} {lines : List Dict} {state : Nat × Tables}
    (together : Together cipher files log lines state) (named : ∀ line ∈ lines, ∃ id, id ≠ "" ∧ line.get "request_id" = .str id)
    {id : String} (plain : textTakes id = true) :
    ∃ found, PostgresLog.getById id state.2 = .ok found ∧ Jsonl.getById cipher id files = .ok (found.map Value.dict) := by
  have keyed : ∀ line ∈ lines, ∀ wanted, line.get "request_id" = .str wanted ↔ storedId line = wanted := by
    intro line listed wanted
    obtain ⟨given,some_,same⟩ := named line listed
    rw [storedId,same,Value.orStr,if_pos (by simpa [Value.truthy] using some_)]
    exact ⟨fun eq => Value.str.inj eq,fun eq => congrArg Value.str eq⟩
  have rows : ∀ row ∈ state.2.entries, row.requestId = storedId row.entry := by
    intro row listed
    have there : row.entry ∈ lines := together.entries ▸ List.mem_map_of_mem listed
    obtain ⟨given,some_,same⟩ := named row.entry there
    rw [(together.ledger.kept row listed).named given some_ same,((keyed row.entry there given).mp same)]
  have distinct : (lines.map storedId).Nodup := by
    have keys := together.ledger.consistent.distinct
    rw [Tables.keys,List.map_congr_left rows] at keys
    rw [←together.entries,Tables.documents,List.map_map]
    exact keys
  have searched : state.2.entries.find? (fun row => row.requestId = id) =
      state.2.entries.find? ((fun line => decide (storedId line = id)) ∘ Row.entry) :=
    List.find?_congr fun row listed => by rw [rows row listed]; rfl
  refine ⟨lines.find? fun line => storedId line = id,?_,?_⟩
  · rw [PostgresLog.getById,if_pos plain,searched,←List.find?_map,←together.entries]
    rfl
  · rw [Jsonl.getById]
    by_cases blank : id = ""
    · have none_ : lines.find? (fun line => storedId line = id) = none := by
        refine List.find?_eq_none.mpr fun line listed same => ?_
        obtain ⟨given,some_,read⟩ := named line listed
        rw [(keyed line listed given).mp read,blank] at same
        exact some_ (of_decide_eq_true same)
      rw [if_pos blank,none_]
      rfl
    · rw [if_neg blank,reversed_stored sound together.stored,findEntry_documents,←find_reverse distinct]
      have searched : lines.reverse.find? (fun line => line.get "request_id" = .str id) =
          lines.reverse.find? fun line => storedId line = id :=
        List.find?_congr fun line listed => by simp only [keyed line (List.mem_reverse.mp listed) id]
      rw [searched]

theorem stepSetting_positive : 1 ≤ 5000 := by decide
theorem stepEntry_distinct (step : Int) : ((stepEntry step).map Prod.fst).Nodup := by simp [stepEntry]

def stepSetting : Setting := ⟨plainMasking,stepDigest,stepDigest_hex,5000,stepSetting_positive,fun _ => "2026-01-01T00:00:00+00:00"⟩

def stepOf (step : Int) : Entry := ⟨stepEntry step,stepEntry_distinct step⟩

def textDriver : Driver := ⟨fun _ => none⟩

def stepRead : Value → Value
  | .dict entry => Dict.get entry "step"
  | _ => .none

theorem stepOf_log (step : Int) (log : Log) (room : log.active.length < 5000) : ∃ line, line.get "step" = .int step ∧
    (TrustLog.appendTrustLog stepSetting.storage (stepOf step).members log).2 =
      { log with appends := log.appends + 1,active := log.active ++ [line] } := by
  obtain ⟨prepared,line,made,_,named⟩ := stepEntry_prepared log step
  refine ⟨line,named,?_⟩
  have free : stepSetting.storage.appendFault log.appends = .none := rfl
  rw [show (stepOf step).members = stepEntry step from rfl,appendTrustLog_written free made]
  simp only [writeLine,TrustLog.rotateIfNeeded]
  exact congrArg (fun open_ : Log => { open_ with active := open_.active ++ [line] }) (if_pos room)

end VeritasOs.LogBackends
