import VeritasOs.MemoryBackends

namespace VeritasOs.MemoryParity
open Text BindArtifacts Interaction MemoryStore MemoryErase MemoryRuns CallRuns PostgresLog MemoryBackends

section Relation
variable (platform : Platform)

-- The value with the lifecycle metadata the JSON store adds.
def lifecycle (value : Dict) : Dict :=
  match normalizeDocumentLifecycle platform (.dict value) with
  | .ok (.dict changed) => changed
  | _ => value

def recordOf (row : MemoryRow) (time : Value) : Dict :=
  [(.str "user_id",.str row.userId),(.str "key",.str row.key),(.str "value",.dict (lifecycle platform row.value)),(.str "ts",time)]

def auditUser : String := "__audit__"

-- The JSON store has a record for each row, in the same order, and those of its erasures.
inductive Alike : List MemoryRow → List Value → Prop where
  | nil : Alike [] []
  | row {row rows records} (time : Value) (plain : row.userId ≠ auditUser) (rest : Alike rows records) :
      Alike (row :: rows) (.dict (recordOf platform row time) :: records)
  | audit {rows records} (request : EraseRequest) (clock : EraseClock) (report : Dict) (rest : Alike rows records) :
      Alike rows (auditRecord request clock report :: records)

end Relation

-- What the file holds, and the cached copy if there is one.
structure Holding (store : Store) (records : List Value) : Prop where
  content : ∀ time, store.content.records time = records
  cached : ∀ copy, store.cache = some copy → copy = records

def Reliable (backend : Backend) : Prop := ∀ step, backend.loadFault step = false ∧ backend.saveFault step = false

section Holding
variable {backend : Backend} {store : Store} {records : List Value}

theorem start_holding : Holding {} [] := ⟨fun _ => rfl,fun _ given => by cases given⟩

theorem load_holding (reliable : Reliable backend) (holding : Holding store records) (useCache : Bool) :
    (handler backend (.loadAll useCache) store).1 = records ∧ Holding (handler backend (.loadAll useCache) store).2 records := by
  have loaded : backend.load store = records := by
    rw [Backend.load,(reliable store.steps).1]
    exact holding.content _
  simp only [handler]
  split
  · rename_i copy given
    split at given
    · exact ⟨holding.cached copy given,holding.content,holding.cached⟩
    · cases given
  · exact ⟨loaded,holding.content,fun copy given => (Option.some.inj given).symm.trans loaded⟩

theorem clock_holding (holding : Holding store records) : Holding (handler backend .clock store).2 records := ⟨holding.content,holding.cached⟩

theorem save_holding (reliable : Reliable backend) (store : Store) (data : List Value) :
    (handler backend (.saveAll data) store).1 = true ∧ Holding (handler backend (.saveAll data) store).2 data := by
  simp only [handler,(reliable store.steps).2,Bool.false_eq_true,if_false]
  exact ⟨trivial,fun _ => rfl,fun _ given => by cases given⟩

-- The program returns, and what it returns and leaves in the file is as told.
def Gives (backend : Backend) (program : Memory α) (store : Store) (post : α → List Value → Prop) : Prop :=
  ∃ value next records, run (handler backend) program store = (.ok value,next) ∧ Holding next records ∧ post value records

section Rules
variable {post : α → List Value → Prop} {first : Memory β}

theorem gives_pure (holding : Holding store records) (fine : post value records) : Gives backend (.pure value) store post :=
  ⟨value,store,records,rfl,holding,fine⟩

theorem gives_bind (between : β → List Value → Prop) (here : Gives backend first store between)
    (later : ∀ value next records, Holding next records → between value records → Gives backend (rest value) next post) :
    Gives backend (first >>= rest) store post := by
  obtain ⟨value,next,records,ran,holding,told⟩ := here
  obtain ⟨result,final,last,finished,held,fine⟩ := later value next records holding told
  exact ⟨result,final,last,run_bind_ok.mpr ⟨value,next,ran,finished⟩,held,fine⟩

theorem gives_lift (done : outcome = .ok value)
    (later : Gives backend (rest value) store post) : Gives backend (lift outcome >>= rest) store post := by
  rw [done]
  exact later

theorem gives_load (reliable : Reliable backend) (holding : Holding store records)
    (later : ∀ next, Holding next records → Gives backend (rest records) next post) : Gives backend (loadAll useCache >>= rest) store post := by
  obtain ⟨read,held⟩ := load_holding reliable holding useCache
  refine gives_bind (fun data after => data = records ∧ after = records) ⟨_,_,records,rfl,held,read,rfl⟩ ?_
  intro data next after kept told
  obtain ⟨rfl,rfl⟩ := told
  exact later next kept

theorem gives_clock (holding : Holding store records)
    (later : ∀ step next, Holding next records → Gives backend (rest (backend.clock step)) next post) :
    Gives backend (clock >>= rest) store post := later store.steps _ (clock_holding holding)

theorem gives_save {post : Bool → List Value → Prop} (reliable : Reliable backend) {data : List Value} (fine : post true data) :
    Gives backend (saveAll data) store post := by
  obtain ⟨saved,held⟩ := save_holding reliable store data
  refine ⟨_,_,data,rfl,held,?_⟩
  rw [saved]
  exact fine

end Rules

end Holding

section Records
variable {platform : Platform} {rows : List MemoryRow} {records : List Value} {key userId : String}

@[simp] theorem pyEq_strs (a b : String) : pyEq (.str a) (.str b) = decide (a = b) := by
  rw [Bool.eq_iff_iff,pyEq_str,decide_eq_true_iff,Value.str.injEq]

theorem lifecycle_normalized (done : normalizeDocumentLifecycle platform (.dict value) = .ok changed) :
    changed = .dict (lifecycle platform value) := by
  rw [lifecycle,done]
  unfold normalizeDocumentLifecycle at done
  dsimp only at done
  split at done
  · obtain ⟨_,_,done⟩ := bind_ok.mp done
    obtain ⟨_,_,done⟩ := bind_ok.mp done
    cases done
    rfl
  · cases done
    rfl

section RecordOf
variable (platform) (row : MemoryRow) (time : Value)

@[simp] theorem recordOf_user : (recordOf platform row time).get "user_id" = .str row.userId := rfl
@[simp] theorem recordOf_key : (recordOf platform row time).get "key" = .str row.key := rfl
@[simp] theorem recordOf_value : (recordOf platform row time).get "value" = .dict (lifecycle platform row.value) := rfl

end RecordOf

def auditKey (userId : String) (clock : EraseClock) : String := "erase_" ++ userId ++ "_" ++ intStr clock.seconds

theorem audit_dict (request : EraseRequest) (clock : EraseClock) (report : Dict) :
    ∃ members : Dict, auditRecord request clock report = .dict members ∧ members.get "user_id" = .str auditUser ∧
      members.get "key" = .str (auditKey request.userId clock) ∧ (∀ setting time, isRecordExpired setting members time = .ok false) ∧
      (∀ userId keys, shouldCascadeDeleteSemantic members userId keys = false) ∧ ∃ document, members.get "value" = .dict document :=
  ⟨_,rfl,rfl,rfl,fun _ _ => rfl,fun userId keys => by
    unfold shouldCascadeDeleteSemantic
    split
    · rfl
    · rfl,_,rfl⟩

def names (key userId : String) (members : Dict) : Bool := pyEq (members.get "user_id") (.str userId) && pyEq (members.get "key") (.str key)

theorem recordOf_names (row : MemoryRow) (time : Value) : names key userId (recordOf platform row time) = Postgres.holds key userId row := by
  rw [names,recordOf_user,recordOf_key,pyEq_strs,pyEq_strs,Bool.and_comm]
  rfl

theorem foreign_names (plain : userId ≠ auditUser) (owner : members.get "user_id" = .str auditUser) : names key userId members = false := by
  rw [names,owner,pyEq_strs,decide_eq_false (Ne.symm plain),Bool.false_and]

theorem findRecord_dict (members : Dict) : findRecord (.str userId) (.str key) (.dict members :: records) =
    if names key userId members then .ok (some 0) else (findRecord (.str userId) (.str key) records).map fun place => place.map (· + 1) := rfl

theorem keepOthers_dict (members : Dict) (found : keepOthers (.str userId) (.str key) records = .ok kept) :
    keepOthers (.str userId) (.str key) (.dict members :: records) =
      .ok (if names key userId members then kept else .dict members :: kept) := by
  rw [keepOthers,found]
  rfl

theorem putRecord_cons (value time record : Value) (place : Option Nat) :
    putRecord (.str userId) (.str key) value time (place.map (· + 1)) (record :: records) =
      record :: putRecord (.str userId) (.str key) value time place records := by
  cases place <;> rfl

theorem put_alike (key : String) (plain : userId ≠ auditUser) (alike : Alike platform rows records) :
    ∃ place, findRecord (.str userId) (.str key) records = .ok place ∧ ∀ value createdAt time,
      Alike platform (Postgres.upsert ⟨key,userId,value,createdAt⟩ rows)
        (putRecord (.str userId) (.str key) (.dict (lifecycle platform value)) time place records) := by
  induction alike with
  | nil => exact ⟨none,rfl,fun value createdAt time => .row time plain .nil⟩
  | @row old rows records oldTime oldPlain rest ih =>
    obtain ⟨place,found,written⟩ := ih
    cases same : Postgres.holds key userId old with
    | true =>
      obtain ⟨sameKey,sameUser⟩ : old.key = key ∧ old.userId = userId := by simpa [Postgres.holds] using same
      refine ⟨some 0,?_,fun value createdAt time => ?_⟩
      · rw [findRecord_dict,recordOf_names,same]
        rfl
      · rw [Postgres.upsert,if_pos same,←sameKey,←sameUser]
        exact Alike.row time (show ({ old with value := value } : MemoryRow).userId ≠ auditUser from oldPlain) rest
    | false =>
      refine ⟨place.map (· + 1),?_,fun value createdAt time => ?_⟩
      · rw [findRecord_dict,recordOf_names,same,found]
        rfl
      · rw [Postgres.upsert,if_neg (by simp [same]),putRecord_cons]
        exact .row oldTime oldPlain (written value createdAt time)
  | audit request clock report rest ih =>
    obtain ⟨place,found,written⟩ := ih
    obtain ⟨members,same,owner,_⟩ := audit_dict request clock report
    refine ⟨place.map (· + 1),?_,fun value createdAt time => ?_⟩
    · rw [same,findRecord_dict,foreign_names plain owner,found]
      rfl
    · rw [putRecord_cons]
      exact .audit request clock report (written value createdAt time)

theorem keepOthers_alike (key : String) (plain : userId ≠ auditUser) (alike : Alike platform rows records) :
    ∃ kept, keepOthers (.str userId) (.str key) records = .ok kept ∧
      Alike platform (rows.filter fun row => !Postgres.holds key userId row) kept ∧
      kept.length + rows.length = records.length + (rows.filter fun row => !Postgres.holds key userId row).length := by
  induction alike with
  | nil => exact ⟨[],rfl,.nil,rfl⟩
  | @row old rows records time oldPlain rest ih =>
    obtain ⟨kept,found,others,count⟩ := ih
    refine ⟨_,keepOthers_dict _ found,?_⟩
    rw [recordOf_names,List.filter_cons]
    cases same : Postgres.holds key userId old with
    | true =>
      simp only [Bool.not_true,Bool.false_eq_true,if_false,if_true,List.length_cons]
      exact ⟨others,by omega⟩
    | false =>
      simp only [Bool.not_false,Bool.false_eq_true,if_false,if_true,List.length_cons]
      exact ⟨.row time oldPlain others,by omega⟩
  | audit request clock report rest ih =>
    obtain ⟨kept,found,others,count⟩ := ih
    obtain ⟨members,same,owner,_⟩ := audit_dict request clock report
    refine ⟨auditRecord request clock report :: kept,?_,.audit request clock report others,?_⟩
    · rw [same,keepOthers_dict members found,foreign_names plain owner]
      rfl
    · rw [List.length_cons,List.length_cons]
      omega

def Shows (platform : Platform) : List Dict → List MemoryRow → Prop :=
  List.Forall₂ fun members row => ∃ time, members = recordOf platform row time

theorem filter_shows (alike : Alike platform rows records) (agree : ∀ row time, wanted (recordOf platform row time) = chosen row)
    (unlisted : ∀ members : Dict, members.get "user_id" = .str auditUser → ∀ userId clock, members.get "key" = .str (auditKey userId clock) →
      wanted members = false) : Shows platform ((MemorySearch.dictsOf records).filter wanted) (rows.filter chosen) := by
  induction alike with
  | nil => exact .nil
  | @row old rows records time oldPlain rest ih =>
    change Shows platform ((recordOf platform old time :: MemorySearch.dictsOf records).filter wanted) _
    rw [List.filter_cons,List.filter_cons,agree]
    cases chosen old with
    | true => exact .cons ⟨time,rfl⟩ ih
    | false => exact ih
  | audit request clock report rest ih =>
    obtain ⟨members,same,owner,keyed,_⟩ := audit_dict request clock report
    rw [same]
    change Shows platform ((members :: MemorySearch.dictsOf _).filter wanted) _
    rw [List.filter_cons,unlisted members owner _ _ keyed]
    exact ih

theorem shows_map (same : ∀ row time, f (recordOf platform row time) = g row)
    (shows : Shows platform listed rows) : listed.map f = rows.map g := by
  induction shows with
  | nil => rfl
  | cons first _ ih =>
    obtain ⟨time,rfl⟩ := first
    rw [List.map_cons,List.map_cons,same,ih]

end Records

-- No reading of the clock finds the value expired.
def Lasting (setting : Setting) (row : MemoryRow) : Prop :=
  ∀ step, isRecordExpired setting (recordOf setting.platform row .none) (setting.backend.clock step).time = .ok false

section Calls
variable {setting : Setting} {engine : Engine} {store : Store} {rows : List MemoryRow} {records : List Value} {key userId : String}

theorem put_gives (reliable : Reliable setting.backend) (holding : Holding store records) (alike : Alike setting.platform rows records)
    (plain : userId ≠ auditUser) (done : normalizeDocumentLifecycle setting.platform (.dict value) = .ok changed) (createdAt : Value) :
    Gives setting.backend (Json.put setting key value userId) store fun _ after =>
      Alike setting.platform (Postgres.upsert ⟨key,userId,value,createdAt⟩ rows) after := by
  obtain ⟨place,found,written⟩ := put_alike key plain alike
  cases lifecycle_normalized done
  refine gives_bind (fun _ after => Alike setting.platform (Postgres.upsert ⟨key,userId,value,createdAt⟩ rows) after) ?_
    fun saved next after holding told => gives_pure holding told
  refine gives_lift done (gives_load reliable holding fun loaded holding => gives_lift found (gives_clock holding fun step timed holding => ?_))
  exact gives_save reliable (written value createdAt _)

theorem delete_gives (key : String) (reliable : Reliable setting.backend) (holding : Holding store records) (alike : Alike setting.platform rows records)
    (plain : userId ≠ auditUser) : Gives setting.backend (deleteRecord (.str userId) (.str key)) store fun removed after =>
      removed = decide ((rows.filter fun row => !Postgres.holds key userId row).length < rows.length) ∧
        Alike setting.platform (rows.filter fun row => !Postgres.holds key userId row) after := by
  obtain ⟨kept,found,others,count⟩ := keepOthers_alike key plain alike
  have fewer : (rows.filter fun row => !Postgres.holds key userId row).length ≤ rows.length := List.length_filter_le ..
  refine gives_load reliable holding fun loaded holding => gives_lift found ?_
  by_cases none_ : kept.length = records.length
  · rw [if_pos none_]
    refine gives_pure holding ⟨(decide_eq_false (by omega)).symm,?_⟩
    have all : (rows.filter fun row => !Postgres.holds key userId row) = rows :=
      List.filter_sublist.eq_of_length (by omega)
    rw [all]
    exact alike
  · rw [if_neg none_]
    exact gives_save reliable ⟨(decide_eq_true (by omega)).symm,others⟩

theorem current_gives (holding : Holding store records) (lasting : ∀ record ∈ data, ∃ members, record = .dict members ∧
      ∀ step, isRecordExpired setting members (setting.backend.clock step).time = .ok false) :
    Gives setting.backend (current setting data) store fun listed after => listed = MemorySearch.dictsOf data ∧ after = records := by
  induction data generalizing store with
  | nil => exact gives_pure holding ⟨rfl,rfl⟩
  | cons head rest ih =>
    obtain ⟨⟨members,rfl,fresh⟩,others⟩ := List.forall_mem_cons.mp lasting
    refine gives_lift (show asRecord (.dict members) = .ok members from rfl) (gives_clock holding fun step next holding =>
      gives_lift (fresh step) (gives_bind _ (ih holding others) ?_))
    intro listed next after holding told
    exact gives_pure holding ⟨congrArg (members :: ·) told.1,told.2⟩

theorem alike_lasting (alike : Alike setting.platform rows records) (lasting : ∀ row ∈ rows, Lasting setting row) :
    ∀ record ∈ records, ∃ members, record = .dict members ∧
      ∀ step, isRecordExpired setting members (setting.backend.clock step).time = .ok false := by
  induction alike with
  | nil => exact fun _ listed => nomatch listed
  | @row old rows records time oldPlain rest ih =>
    obtain ⟨first,others⟩ := List.forall_mem_cons.mp lasting
    exact List.forall_mem_cons.mpr ⟨⟨_,rfl,first⟩,ih others⟩
  | audit request clock report rest ih =>
    obtain ⟨members,same,_,_,fresh,_⟩ := audit_dict request clock report
    exact List.forall_mem_cons.mpr ⟨⟨members,same,fun step => fresh setting _⟩,ih lasting⟩

theorem listAll_gives (reliable : Reliable setting.backend) (holding : Holding store records) (alike : Alike setting.platform rows records)
    (lasting : ∀ row ∈ rows, Lasting setting row) (plain : userId ≠ auditUser) :
    Gives setting.backend (listAll setting (some userId)) store fun listed after =>
      Shows setting.platform listed (rows.filter fun row => row.userId = userId) ∧ after = records := by
  refine gives_load reliable holding fun loaded holding => gives_bind _ (current_gives holding (alike_lasting alike lasting)) ?_
  intro listed next after held told
  obtain ⟨rfl,rfl⟩ := told
  refine gives_pure held ⟨filter_shows alike ?_ ?_,rfl⟩
  · intro row time
    rw [ownedBy,recordOf_user,pyEq_strs]
  · intro members owner _ _ _
    rw [ownedBy,owner,pyEq_strs,decide_eq_false (Ne.symm plain)]

theorem auditKey_starts (userId : String) (clock : EraseClock) : startsWith "erase_" (auditKey userId clock) = true := by
  rw [startsWith,auditKey,String.toList_append,String.toList_append,String.toList_append,List.append_assoc,List.append_assoc]
  exact List.isPrefixOf_iff_prefix.mpr (List.prefix_append _ _)

theorem get_gives (reliable : Reliable setting.backend) (holding : Holding store records) (alike : Alike setting.platform rows records)
    (lasting : ∀ row ∈ rows, Lasting setting row) (plain : startsWith "erase_" key = false) (taken : textTakes key = true) :
    Gives setting.backend (Json.get setting key) store fun found after =>
      (∃ value, Postgres.get key rows = .ok value ∧ found = value.map (lifecycle setting.platform)) ∧ after = records := by
  have listed : Gives setting.backend (listAll setting none) store fun listed after => listed = MemorySearch.dictsOf records ∧ after = records := by
    refine gives_load reliable holding fun loaded holding => gives_bind _ (current_gives holding (alike_lasting alike lasting)) ?_
    intro listed next after held told
    exact gives_pure held told
  refine gives_bind _ listed ?_
  intro listed next after held told
  obtain ⟨rfl,rfl⟩ := told
  have shows : Shows setting.platform ((MemorySearch.dictsOf after).filter fun record => pyEq (record.get "key") (.str key))
      (rows.filter fun row => row.key = key) := by
    refine filter_shows alike (fun row time => by rw [recordOf_key,pyEq_strs]) ?_
    intro members _ userId clock keyed
    rw [keyed,pyEq_strs]
    refine decide_eq_false fun same => ?_
    rw [←same,auditKey_starts] at plain
    cases plain
  have owners := shows_map (fun row time => show Json.owner (recordOf setting.platform row time) = row.userId from rfl) shows
  rw [Postgres.get,if_neg (by simp [taken])]
  dsimp only
  generalize (MemorySearch.dictsOf after).filter (fun record => pyEq (record.get "key") (.str key)) = matching at shows owners ⊢
  generalize rows.filter (fun row => row.key = key) = chosen at shows owners ⊢
  cases shows with
  | nil => exact gives_pure held ⟨⟨none,rfl,rfl⟩,rfl⟩
  | @cons first row others rest shown _ =>
    obtain ⟨time,rfl⟩ := shown
    dsimp only
    rw [owners]
    by_cases several : ((row :: rest).map MemoryRow.userId).dedup.length > 1
    · rw [if_pos several,if_pos several]
      exact gives_pure held ⟨⟨none,rfl,rfl⟩,rfl⟩
    · rw [if_neg several,if_neg several]
      exact gives_pure held ⟨⟨some row.value,rfl,rfl⟩,rfl⟩

end Calls

def withoutTimes (hit : Dict) : Dict :=
  match hit.get "meta" with
  | .dict meta_ => (hit.set "ts" .none).set "meta" (.dict (Dict.set meta_ "created_at" .none))
  | _ => hit.set "ts" .none

def timeless (found : ℚ × Dict) : ℚ × Dict := (found.1,withoutTimes found.2)

def queryOf (query userId : String) (limit : Int) : Query := { query := query,k := limit,userId := .str userId }

-- A row with a text is selected by its words, and scores.
def Matched (platform : Platform) (engine : Engine) (query : String) (row : MemoryRow) : Prop :=
  Postgres.extractSearchableText row.value ≠ "" → Postgres.selects engine (Postgres.patterns platform query) row.value = true ∧
      0 < simpleScore platform (strip query) (Postgres.extractSearchableText row.value)

section Search
variable {platform : Platform} {engine : Engine} {rows : List MemoryRow} {records : List Value} {query userId : String} {limit : Int}

theorem lifecycle_lookup (other : name ≠ "meta") : lookup (.str name) (lifecycle platform value) = lookup (.str name) value := by
  unfold lifecycle
  cases done : normalizeDocumentLifecycle platform (.dict value) with
  | error error => rfl
  | ok changed =>
    cases lifecycle_normalized done
    unfold normalizeDocumentLifecycle at done
    dsimp only at done
    split at done
    · obtain ⟨_,_,done⟩ := bind_ok.mp done
      obtain ⟨_,_,done⟩ := bind_ok.mp done
      dsimp only
      rw [←Value.dict.inj (Except.ok.inj done),Dict.set,lookup_store,if_neg fun same => other (Key.str.inj same).symm]
    · rw [←Value.dict.inj (Except.ok.inj done)]

theorem lifecycle_get (other : name ≠ "meta") : (lifecycle platform value).get name = value.get name := by
  rw [Dict.get,Dict.get,lifecycle_lookup other]

theorem lifecycle_getD (other : name ≠ "meta") (absent : Value) : (lifecycle platform value).getD name absent = value.getD name absent := by
  rw [Dict.getD,Dict.getD,lifecycle_lookup other]

theorem kvsHit_timeless (row : MemoryRow) (time tags kind : Value) (text : String) (score : ℚ) :
    withoutTimes (kvsHit platform (recordOf platform row time) text score tags kind) =
      withoutTimes (kvsHit platform (Postgres.asDict row) text score tags kind) := rfl

theorem dict_orEmpty (members : Dict) : (if (Value.dict members).truthy then Value.dict members else .dict []) = .dict members := by
  cases members <;> rfl

theorem recordHit_dict {members document : Dict} (held : members.get "value" = .dict document) :
    recordHit platform (queryOf query userId limit) (.dict members) = if pyEq (members.get "user_id") (.str userId) = false then .ok none
      else if Postgres.extractSearchableText document = "" ∨
          simpleScore platform (strip query) (Postgres.extractSearchableText document) < 0 then .ok none
      else .ok (some (simpleScore platform (strip query) (Postgres.extractSearchableText document),
        kvsHit platform members (Postgres.extractSearchableText document)
          (simpleScore platform (strip query) (Postgres.extractSearchableText document))
          (if (document.get "tags").truthy then document.get "tags" else .list []) (document.getD "kind" (.str "episodic")))) := by
  have searched : (Value.str userId ≠ .none ∧ pyEq (members.get "user_id") (.str userId) = false) =
      (pyEq (members.get "user_id") (.str userId) = false) := by simp
  unfold recordHit
  simp only [asRecord,bind,Except.bind,queryOf,searched,held,dict_orEmpty]
  rfl

theorem recordHit_row (limit : Int) (row : MemoryRow) (time : Value) (matched : row.userId = userId → Matched platform engine query row) :
    ∃ hit, recordHit platform (queryOf query userId limit) (.dict (recordOf platform row time)) = .ok hit ∧
      hit.map timeless = (if row.userId = userId && Postgres.selects engine (Postgres.patterns platform query) row.value
        then Postgres.rowHit platform (strip query) row else none).map timeless := by
  have text : Postgres.extractSearchableText (lifecycle platform row.value) = Postgres.extractSearchableText row.value := by
    rw [Postgres.extractSearchableText,lifecycle_get (by decide),lifecycle_get (by decide)]
    rfl
  rw [recordHit_dict (recordOf_value platform row time),recordOf_user,pyEq_strs,text,lifecycle_getD (by decide),lifecycle_get (by decide)]
  by_cases mine : row.userId = userId
  · rw [if_neg (by simp [mine])]
    by_cases blank : Postgres.extractSearchableText row.value = ""
    · refine ⟨none,if_pos (.inl blank),?_⟩
      simp [Postgres.rowHit,blank]
    · obtain ⟨selected,positive⟩ := matched mine blank
      have found : Postgres.rowHit platform (strip query) row = some (simpleScore platform (strip query) (Postgres.extractSearchableText row.value),
          kvsHit platform (Postgres.asDict row) (Postgres.extractSearchableText row.value)
            (simpleScore platform (strip query) (Postgres.extractSearchableText row.value))
            (if (row.value.get "tags").truthy then row.value.get "tags" else .list []) (row.value.getD "kind" (.str "episodic"))) :=
        if_neg (by simp [blank,not_le.mpr positive])
      refine ⟨_,if_neg (by simp [blank,not_lt.mpr positive.le]),?_⟩
      simp only [mine,selected,decide_true,Bool.and_self,if_true,found]
      exact congrArg (fun hit => some (_,hit)) (kvsHit_timeless row time ..)
  · refine ⟨none,if_pos (by simp [mine]),?_⟩
    rw [if_neg (by simp [mine])]

def ranked (platform : Platform) (engine : Engine) (query userId : String) (rows : List MemoryRow) : List (ℚ × Dict) :=
  rows.filterMap fun row =>
    if row.userId = userId && Postgres.selects engine (Postgres.patterns platform query) row.value then Postgres.rowHit platform (strip query) row
    else none

theorem recordHits (limit : Int) (plain : userId ≠ auditUser) (alike : Alike platform rows records)
    (matched : ∀ row ∈ rows, row.userId = userId → Matched platform engine query row) :
    ∃ scored, records.mapM (recordHit platform (queryOf query userId limit)) = .ok scored ∧
      scored.reduceOption.map timeless = (ranked platform engine query userId rows).map timeless := by
  induction alike with
  | nil => exact ⟨[],rfl,rfl⟩
  | @row old rows records time oldPlain rest ih =>
    obtain ⟨first,others⟩ := List.forall_mem_cons.mp matched
    obtain ⟨scored,made,same⟩ := ih others
    obtain ⟨hit,here,alike⟩ := recordHit_row limit old time first
    refine ⟨hit :: scored,?_,?_⟩
    · rw [List.mapM_cons,here,made]
      rfl
    · rw [ranked,List.filterMap_cons]
      generalize (if old.userId = userId && Postgres.selects engine (Postgres.patterns platform query) old.value
        then Postgres.rowHit platform (strip query) old else none) = found at alike ⊢
      cases hit with
      | none =>
        cases found with
        | none => exact same
        | some theirs => cases alike
      | some ours =>
        cases found with
        | none => cases alike
        | some theirs => exact congrArg₂ List.cons (Option.some.inj alike) same
  | audit request clock report rest ih =>
    obtain ⟨scored,made,same⟩ := ih matched
    obtain ⟨members,audit,owner,_,_,_,document,held⟩ := audit_dict request clock report
    refine ⟨none :: scored,?_,?_⟩
    · rw [List.mapM_cons,audit,recordHit_dict held,owner,pyEq_strs,if_pos (decide_eq_false (Ne.symm plain)),made]
      rfl
    · rw [List.reduceOption_cons_of_none]
      exact same

theorem map_ranking (scored : List (ℚ × Dict)) : (scored.insertionSort fun a b => b.1 ≤ a.1).map timeless =
    (scored.map timeless).insertionSort fun a b => b.1 ≤ a.1 :=
  List.map_insertionSort _ _ timeless scored fun _ _ _ _ => Iff.rfl

-- Cut to the limit, both show the same hits in the same order.
def firstHits (limit : Int) (scored : List (ℚ × Dict)) : List Dict :=
  ((scored.insertionSort fun a b => b.1 ≤ a.1).map Prod.snd).take limit.toNat

theorem firstHits_timeless (same : ours.map timeless = theirs.map timeless) :
    (firstHits limit ours).map withoutTimes = (firstHits limit theirs).map withoutTimes := by
  have each (scored : List (ℚ × Dict)) : (firstHits limit scored).map withoutTimes =
      (((scored.map timeless).insertionSort fun a b => b.1 ≤ a.1).map Prod.snd).take limit.toNat := by
    rw [firstHits,List.map_take,List.map_map,←map_ranking,List.map_map]
    rfl
  rw [each,each,same]

theorem ranked_wordless (wordless : Postgres.patterns platform query = []) : ranked platform engine query userId rows = [] := by
  refine List.filterMap_eq_nil_iff.mpr fun row _ => ?_
  rw [wordless,show Postgres.selects engine [] row.value = false from rfl,Bool.and_false]
  rfl

theorem search_hits (taken : (userId :: Postgres.patterns platform query).all textTakes = true) :
    Postgres.search platform engine query userId limit rows =
      .ok (if strip query = "" ∨ limit ≤ 0 then [] else firstHits limit (ranked platform engine query userId rows)) := by
  unfold Postgres.search
  by_cases blank : strip query = "" ∨ limit ≤ 0
  · rw [if_pos blank,if_pos (blank.elim .inl fun none_ => .inr (.inl none_))]
  · rw [if_neg blank]
    by_cases wordless : Postgres.patterns platform query = []
    · rw [if_pos (.inr (.inr wordless)),ranked_wordless wordless,firstHits,List.insertionSort_nil,List.map_nil,List.take_nil]
    · have readable : ((userId :: Postgres.patterns platform query).any fun text => !textTakes text) = false := by
        rw [List.any_eq_not_all_not]
        simpa using taken
      rw [if_neg fun given => blank (given.imp_right fun rest => rest.resolve_right wordless),readable,if_neg Bool.false_ne_true]
      dsimp only
      rw [List.filterMap_filter]
      rfl

theorem buildKvsSearchHits_ranked (made : records.mapM (recordHit platform (queryOf query userId limit)) = .ok scored) :
    buildKvsSearchHits platform (queryOf query userId limit) records =
      .ok (if strip query = "" ∨ limit ≤ 0 then [] else firstHits limit scored.reduceOption) := by
  unfold buildKvsSearchHits
  by_cases blank : strip query = "" ∨ limit ≤ 0
  · rw [if_pos blank]
    exact if_pos blank
  · rw [if_neg blank,made]
    exact if_neg blank

theorem episodic_hits (episodic : List Dict) :
    orList (Dict.get (if episodic = [] then [] else [(.str "episodic",.list (episodic.map .dict))]) "episodic") = .list (episodic.map .dict) := by
  cases episodic <;> rfl

theorem search_gives (limit : Int) {setting : Setting} {store : Store} (reliable : Reliable setting.backend) (holding : Holding store records)
    (plain : userId ≠ auditUser) (alike : Alike setting.platform rows records)
    (matched : ∀ row ∈ rows, row.userId = userId → Matched setting.platform engine query row) :
    Gives setting.backend (Json.search setting query userId limit) store fun hits after =>
      hits.map withoutTimes = (if strip query = "" ∨ limit ≤ 0 then [] else
        firstHits limit (ranked setting.platform engine query userId rows)).map withoutTimes ∧ after = records := by
  obtain ⟨scored,made,same⟩ := recordHits limit plain alike matched
  have built := buildKvsSearchHits_ranked made
  refine gives_bind (fun result after => result = .dict (if (if strip query = "" ∨ limit ≤ 0 then [] else firstHits limit scored.reduceOption) = []
      then [] else [(.str "episodic",.list ((if strip query = "" ∨ limit ≤ 0 then [] else firstHits limit scored.reduceOption).map .dict))]) ∧
        after = records) ?_ ?_
  · exact gives_load reliable holding fun loaded holding => gives_lift built (gives_pure holding ⟨rfl,rfl⟩)
  · intro result next after held told
    obtain ⟨rfl,rfl⟩ := told
    dsimp only
    rw [episodic_hits]
    dsimp only
    refine gives_pure held ⟨?_,rfl⟩
    rw [MemorySearch.dictsOf_dicts]
    by_cases blank : strip query = "" ∨ limit ≤ 0
    · rw [if_pos blank,if_pos blank]
    · rw [if_neg blank,if_neg blank]
      exact firstHits_timeless same

end Search

def keysOf (userId : String) (rows : List MemoryRow) : List String := (rows.filter fun row => row.userId = userId).map MemoryRow.key

def Plain (platform : Platform) (row : MemoryRow) : Prop :=
  isRecordLegalHold (recordOf platform row .none) = false ∧ listsSources (recordOf platform row .none) = .ok false

section Erasure
variable {platform : Platform} {rows : List MemoryRow} {records : List Value} {userId : String}

theorem recordOf_owned (row : MemoryRow) (time : Value) : ownedBy userId (recordOf platform row time) = decide (row.userId = userId) := by
  rw [ownedBy,recordOf_user,pyEq_strs]

theorem foreign_owned (plain : userId ≠ auditUser) (owner : members.get "user_id" = .str auditUser) : ownedBy userId members = false := by
  rw [ownedBy,owner,pyEq_strs,decide_eq_false (Ne.symm plain)]

theorem recordOf_keyText (row : MemoryRow) (time : Value) : MemoryErase.keyText (recordOf platform row time) = row.key := by
  rw [MemoryErase.keyText,recordOf_key]
  by_cases blank : row.key = ""
  · rw [blank]
    rfl
  · exact str_orStr blank ""

theorem collectKeys_dict (members : Dict) : collectKeys userId (.dict members :: records) =
    if !ownedBy userId members then collectKeys userId records
    else if isRecordLegalHold members then (collectKeys userId records >>= fun found => .ok (found.1,found.2 + 1))
    else (listsSources members >>= fun derived => collectKeys userId records >>= fun found =>
      .ok (if derived then found.1 else MemoryErase.keyText members :: found.1,found.2)) := rfl

theorem keysOf_cons (row : MemoryRow) : keysOf userId (row :: rows) =
    if row.userId = userId then row.key :: keysOf userId rows else keysOf userId rows := by
  unfold keysOf
  by_cases mine : row.userId = userId <;> simp [mine]

theorem collectKeys_alike (plain : userId ≠ auditUser) (alike : Alike platform rows records)
    (unheld : ∀ row ∈ rows, row.userId = userId → Plain platform row) : collectKeys userId records = .ok (keysOf userId rows,0) := by
  induction alike with
  | nil => rfl
  | @row old rows records time oldPlain rest ih =>
    obtain ⟨first,others⟩ := List.forall_mem_cons.mp unheld
    rw [collectKeys_dict,recordOf_owned,ih others,keysOf_cons]
    by_cases mine : old.userId = userId
    · obtain ⟨free,sourceless⟩ := first mine
      have free : isRecordLegalHold (recordOf platform old time) = false := free
      have sourceless : listsSources (recordOf platform old time) = .ok false := sourceless
      rw [free,sourceless,recordOf_keyText,decide_eq_true mine,if_pos mine]
      rfl
    · rw [decide_eq_false mine,if_neg mine]
      rfl
  | audit request clock report rest ih =>
    obtain ⟨members,audit,owner,_⟩ := audit_dict request clock report
    rw [audit,collectKeys_dict,foreign_owned plain owner]
    exact ih unheld

theorem fate_alike (plain : userId ≠ auditUser) (alike : Alike platform rows records)
    (listed : ∀ row ∈ rows, row.userId = userId → row.key ∈ keys)
    (apart : ∀ row ∈ rows, row.userId ≠ userId → shouldCascadeDeleteSemantic (recordOf platform row .none) userId keys = false) :
    Alike platform (rows.filter fun row => row.userId ≠ userId) (records.filter fun record => fate userId keys record = .kept) := by
  induction alike with
  | nil => exact .nil
  | @row old rows records time oldPlain rest ih =>
    obtain ⟨firstListed,othersListed⟩ := List.forall_mem_cons.mp listed
    obtain ⟨firstApart,othersApart⟩ := List.forall_mem_cons.mp apart
    have others := ih othersListed othersApart
    rw [List.filter_cons,List.filter_cons,fate,recordOf_owned,recordOf_keyText]
    by_cases mine : old.userId = userId
    · have there : keys.contains old.key = true := by simpa using firstListed mine
      rw [decide_eq_true mine,there]
      simpa [mine] using others
    · have stays : shouldCascadeDeleteSemantic (recordOf platform old time) userId keys = false := firstApart mine
      rw [decide_eq_false mine,stays]
      simpa [mine] using Alike.row time oldPlain others
  | audit request clock report rest ih =>
    obtain ⟨members,audit,owner,_,_,uncascaded,_⟩ := audit_dict request clock report
    rw [List.filter_cons]
    have kept : fate userId keys (auditRecord request clock report) = .kept := by
      rw [audit,fate,foreign_owned plain owner,uncascaded]
      rfl
    rw [if_pos (decide_eq_true kept)]
    exact .audit request clock report (ih listed apart)

theorem append_audit (alike : Alike platform rows records) (request : EraseRequest) (clock : EraseClock) (report : Dict) :
    Alike platform rows (records ++ [auditRecord request clock report]) := by
  induction alike with
  | nil => exact .audit request clock report .nil
  | row time plain _ ih => exact .row time plain ih
  | audit other time told _ ih => exact .audit other time told ih

theorem erase_gives {setting : Setting} {store : Store} (reliable : Reliable setting.backend) (holding : Holding store records)
    (plain : userId ≠ auditUser) (alike : Alike setting.platform rows records)
    (unheld : ∀ row ∈ rows, row.userId = userId → Plain setting.platform row)
    (apart : ∀ row ∈ rows, row.userId ≠ userId →
      shouldCascadeDeleteSemantic (recordOf setting.platform row .none) userId (keysOf userId rows) = false) (clock : EraseClock) :
    Gives setting.backend (Json.eraseUserData userId clock) store fun count after =>
      count = 0 ∧ Alike setting.platform (rows.filter fun row => row.userId ≠ userId) after := by
  have listed : ∀ row ∈ rows, row.userId = userId → row.key ∈ keysOf userId rows := fun row inside mine =>
    List.mem_map_of_mem (List.mem_filter.mpr ⟨inside,decide_eq_true mine⟩)
  have erased : ∃ kept report, MemoryErase.eraseUserData records ⟨userId,"api.erase_user_data","storage.json_kv"⟩ clock = .ok (kept,report) ∧
      report.getD "deleted" (.int 0) = .int 0 ∧ Alike setting.platform (rows.filter fun row => row.userId ≠ userId) kept := by
    rw [MemoryErase.eraseUserData,collectKeys_alike plain alike unheld]
    exact ⟨_,_,rfl,rfl,append_audit (fate_alike plain alike listed apart) ..⟩
  obtain ⟨kept,report,done,uncounted,others⟩ := erased
  refine gives_bind (fun told after => told.getD "deleted" (.int 0) = .int 0 ∧ after = kept) ?_ ?_
  · refine gives_load reliable holding fun loaded holding => gives_lift done ?_
    refine gives_bind (fun saved after => after = kept) (gives_save reliable rfl) fun saved next after held told => ?_
    refine gives_pure held ⟨?_,told⟩
    rw [Dict.getD,Dict.set,lookup_store,if_neg (by decide)]
    exact uncounted
  · intro told next after held given
    obtain ⟨none_,rfl⟩ := given
    rw [none_]
    exact gives_pure held ⟨rfl,others⟩

end Erasure

def Related (platform : Platform) (store : Store) (table : Table) : Prop := ∃ records, Holding store records ∧ Alike platform table.rows records

-- PostgreSQL takes the texts and the value, and the JSON store the metadata; nobody is called
-- as the erasures are, nor looks for their keys. No record read is expired, the words of
-- a search are in every text, and what is erased is on no hold and distilled from nothing
-- or into nothing.
def Comparable (setting : Setting) (engine : Engine) (table : Table) : Call → Prop
  | .put key value userId =>
    userId ≠ auditUser ∧ (textTakes key && textTakes userId && jsonbTakes (.dict value)) = true ∧
      ∃ changed, normalizeDocumentLifecycle setting.platform (.dict value) = .ok changed
  | .get key => textTakes key = true ∧ startsWith "erase_" key = false ∧ ∀ row ∈ table.rows, Lasting setting row
  | .search query userId _ =>
    userId ≠ auditUser ∧ (userId :: Postgres.patterns setting.platform query).all textTakes = true ∧
      ∀ row ∈ table.rows, row.userId = userId → Matched setting.platform engine query row
  | .delete key userId => userId ≠ auditUser ∧ (textTakes key && textTakes userId) = true
  | .listAll userId => userId ≠ auditUser ∧ textTakes userId = true ∧ ∀ row ∈ table.rows, Lasting setting row
  | .eraseUserData userId =>
    userId ≠ auditUser ∧ textTakes userId = true ∧ (∀ row ∈ table.rows, row.userId = userId → Plain setting.platform row) ∧
      ∀ row ∈ table.rows, row.userId ≠ userId →
        shouldCascadeDeleteSemantic (recordOf setting.platform row .none) userId (keysOf userId table.rows) = false

-- But for the times.
structure SameRecord (platform : Platform) (ours theirs : Dict) : Prop where
  user : ours.get "user_id" = theirs.get "user_id"
  key : ours.get "key" = theirs.get "key"
  value : ∃ value, theirs.get "value" = .dict value ∧ ours.get "value" = .dict (lifecycle platform value)

def NothingOf (userId : String) (store : Store) (table : Table) : Prop :=
  (∀ row ∈ table.rows, row.userId ≠ userId) ∧
    ∀ time, ∀ record ∈ MemorySearch.dictsOf (store.content.records time), ownedBy userId record = false

-- The answers of the JSON store and of PostgreSQL, but for times and lifecycle metadata; the
-- JSON store counts no erasures.
inductive Same (platform : Platform) : Except Exc Answer → Except Exc Answer → Prop where
  | done : Same platform (.ok .done) (.ok .done)
  | value (found : Option Dict) : Same platform (.ok (.value (found.map (lifecycle platform)))) (.ok (.value found))
  | hits {ours theirs} (same : ours.map withoutTimes = theirs.map withoutTimes) : Same platform (.ok (.hits ours)) (.ok (.hits theirs))
  | deleted (removed) : Same platform (.ok (.deleted removed)) (.ok (.deleted removed))
  | records {ours theirs} (same : List.Forall₂ (SameRecord platform) ours theirs) : Same platform (.ok (.records ours)) (.ok (.records theirs))
  | erased (count) : Same platform (.ok (.erased 0)) (.ok (.erased count))

section Together
variable {setting : Setting} {engine : Engine} {store : Store} {table : Table} {call : Call} {calls : List Call}

theorem shows_same (shows : Shows platform listed rows) : List.Forall₂ (SameRecord platform) listed (rows.map Postgres.asDict) := by
  induction shows with
  | nil => exact .nil
  | cons first _ ih =>
    obtain ⟨time,rfl⟩ := first
    exact .cons ⟨rfl,rfl,_,rfl,rfl⟩ ih

theorem gives_answer (f : α → Answer) (gives : Gives backend program store post) : ∃ value records, post value records ∧
      (run (handler backend) (program >>= fun value => .pure (f value)) store).1 = .ok (f value) ∧
      Holding (run (handler backend) (program >>= fun value => .pure (f value)) store).2 records := by
  obtain ⟨value,next,records,ran,held,told⟩ := gives
  have answered : run (handler backend) (program >>= fun value => .pure (f value)) store = (.ok (f value),next) :=
    run_bind_ok.mpr ⟨value,next,ran,rfl⟩
  rw [answered]
  exact ⟨value,records,told,rfl,held⟩

theorem call_together (erasedAt : Nat → EraseClock) (reliable : Reliable setting.backend) (related : Related setting.platform store table)
    (comparable : Comparable setting engine table call) :
    Same setting.platform (jsonServe setting erasedAt store call).1 (postgresServe setting.platform engine table call).1 ∧
      Related setting.platform (jsonServe setting erasedAt store call).2 (postgresServe setting.platform engine table call).2 := by
  obtain ⟨records,holding,alike⟩ := related
  cases call with
  | put key value userId =>
    obtain ⟨plain,taken,changed,done⟩ := comparable
    obtain ⟨_,after,told,answered,held⟩ := gives_answer (fun _ => .done) (put_gives reliable holding alike plain done (engine.now table.calls))
    have stored : Postgres.put engine key value userId table = (.ok (),Postgres.upsert ⟨key,userId,value,engine.now table.calls⟩ table.rows) := if_pos taken
    simp only [postgresServe,Postgres.answer,stored]
    exact ⟨answered ▸ .done,after,held,told⟩
  | get key =>
    obtain ⟨taken,plain,lasting⟩ := comparable
    obtain ⟨found,after,⟨⟨value,read,rfl⟩,rfl⟩,answered,held⟩ := gives_answer .value (get_gives reliable holding alike lasting plain taken)
    simp only [postgresServe,Postgres.answer,read]
    exact ⟨answered ▸ .value value,after,held,alike⟩
  | search query userId limit =>
    obtain ⟨plain,taken,matched⟩ := comparable
    obtain ⟨hits,after,⟨same,rfl⟩,answered,held⟩ := gives_answer .hits (search_gives limit reliable holding plain alike matched)
    simp only [postgresServe,Postgres.answer,search_hits taken]
    exact ⟨answered ▸ .hits same,after,held,alike⟩
  | delete key userId =>
    obtain ⟨plain,taken⟩ := comparable
    obtain ⟨removed,after,⟨rfl,others⟩,answered,held⟩ := gives_answer .deleted (delete_gives key reliable holding alike plain)
    have deleted := show Postgres.delete key userId table.rows = _ from if_pos taken
    simp only [postgresServe,Postgres.answer,deleted]
    exact ⟨answered ▸ .deleted _,after,held,others⟩
  | listAll userId =>
    obtain ⟨plain,taken,lasting⟩ := comparable
    obtain ⟨listed,after,⟨shows,rfl⟩,answered,held⟩ := gives_answer .records (listAll_gives reliable holding alike lasting plain)
    have read := show Postgres.listAll userId table.rows = _ from if_pos taken
    simp only [postgresServe,Postgres.answer,read]
    exact ⟨answered ▸ .records (shows_same shows),after,held,alike⟩
  | eraseUserData userId =>
    obtain ⟨plain,taken,unheld,apart⟩ := comparable
    obtain ⟨count,after,⟨rfl,others⟩,answered,held⟩ :=
      gives_answer .erased (erase_gives reliable holding plain alike unheld apart (erasedAt store.steps))
    have erased := show Postgres.eraseUserData userId table.rows = _ from if_pos taken
    simp only [postgresServe,Postgres.answer,erased]
    exact ⟨answered ▸ .erased _,after,held,others⟩

theorem unlisted_records (plain : userId ≠ auditUser) (alike : Alike platform rows records) (none_ : ∀ row ∈ rows, row.userId ≠ userId) :
    ∀ record ∈ MemorySearch.dictsOf records, ownedBy userId record = false := by
  have shows : Shows platform ((MemorySearch.dictsOf records).filter (ownedBy userId)) (rows.filter fun row => row.userId = userId) :=
    filter_shows alike recordOf_owned fun members owner _ _ _ => foreign_owned plain owner
  have empty : rows.filter (fun row => row.userId = userId) = [] := List.filter_eq_nil_iff.mpr fun row listed => by simpa using none_ row listed
  rw [empty] at shows
  intro record listed
  by_contra owned
  have there : record ∈ (MemorySearch.dictsOf records).filter (ownedBy userId) := List.mem_filter.mpr ⟨listed,by simpa using owned⟩
  rw [List.forall₂_nil_right_iff.mp shows] at there
  cases there

theorem calls_together (erasedAt : Nat → EraseClock) (reliable : Reliable setting.backend)
    (comparable : Throughout (postgresServe setting.platform engine) (Comparable setting engine) {} calls) :
    List.Forall₂ (Same setting.platform) (answers (jsonServe setting erasedAt) {} calls) (answers (postgresServe setting.platform engine) {} calls) ∧
      Related setting.platform (after (jsonServe setting erasedAt) {} calls) (after (postgresServe setting.platform engine) {} calls) :=
  have kept (store : Store) (table : Table) (call : Call) (related : Related setting.platform store table)
      (comparable : Comparable setting engine table call) := call_together erasedAt reliable related comparable
  answers_together kept ⟨[],start_holding,.nil⟩ comparable

end Together

def sampleEngine : Engine := ⟨lower,fun _ => "",fun _ => .int 0⟩

def greeting : Dict := [(.str "text",.str "hello world")]

def sampleErasedAt (_ : Nat) : EraseClock := sampleClock

def sampleCalls : List Call := [.put "k1" greeting "u1",.search "hello" "u1" 10,.get "k1",.delete "k2" "u1",.listAll "u1",.eraseUserData "u1"]

def greetingRow : MemoryRow := ⟨"k1","u1",greeting,.int 0⟩

theorem greeting_plain : Plain sampleSetting.platform greetingRow := ⟨rfl,rfl⟩
theorem greeting_lasting : Lasting sampleSetting greetingRow := fun _ => rfl
theorem greeting_matched : Matched sampleSetting.platform sampleEngine "hello" greetingRow := fun _ => by decide +kernel

theorem sampleCalls_comparable :
    Throughout (postgresServe sampleSetting.platform sampleEngine) (Comparable sampleSetting sampleEngine) {} sampleCalls := by
  have user : "u1" ≠ auditUser := by decide
  have only {p : MemoryRow → Prop} (holds : p greetingRow) : ∀ row ∈ [greetingRow], p row := List.forall_mem_singleton.mpr holds
  refine ⟨⟨user,by decide,_,rfl⟩,⟨user,by decide,only fun _ => greeting_matched⟩,⟨by decide,by decide,only greeting_lasting⟩,
    ⟨user,by decide⟩,⟨user,by decide,only greeting_lasting⟩,⟨user,by decide,only fun _ => greeting_plain,only fun other => absurd rfl other⟩,trivial⟩

end VeritasOs.MemoryParity
