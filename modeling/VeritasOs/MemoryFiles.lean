import VeritasOs.MemoryStore

namespace VeritasOs.MemoryFiles
open Text BindArtifacts Interaction PolicyBundle MemoryStore

-- The records are read from the file, not from the cached copy, and the read fails.
structure LoadFails (backend : Backend) (store : Store) (useCache : Bool) : Prop where
  uncached : (if useCache && backend.cacheFresh store.steps then store.cache else none) = none
  failed : backend.loadFault store.steps = true ∨ store.content = .garbled

variable {backend : Backend} {store : Store} {data : List Value} {userId key : String} {value now : Value} {place : Option Nat}
variable {platform : Platform} {normalized : Value} {call : Call}

theorem LoadFails.answer (fails : LoadFails backend store useCache) :
    handler backend (.loadAll useCache) store = ([],{ store with cache := some [],steps := store.steps + 1 }) := by
  have nothing : backend.load store = [] := by
    unfold Backend.load
    rcases fails.failed with fault | garbled
    · rw [if_pos fault]
    · rw [garbled]
      exact ite_self []
  unfold handler
  dsimp only
  rw [fails.uncached,nothing]

-- The file is as it was, or the whole of it was readable and the mutation was made on it.
def Intact (mutated : List Value → List Value → Prop) (before after : Content) : Prop :=
  after = before ∨ before ≠ .garbled ∧ ∃ time records, mutated (before.records time) records ∧ after = .json (.list records)

def PutOn (platform : Platform) (userId key : String) (value : Value) (before after : List Value) : Prop :=
  ∃ normalized now place, normalizeDocumentLifecycle platform value = .ok normalized ∧ findRecord (.str userId) (.str key) before = .ok place ∧
    after = putRecord (.str userId) (.str key) normalized now place before

def DeleteOn (userId key : String) (before after : List Value) : Prop := keepOthers (.str userId) (.str key) before = .ok after

def PutKeepsFile (platform : Platform) (backend : Backend) (userId key : String) (value : Value) (store : Store) : Prop :=
  Intact (PutOn platform userId key value) store.content (run (handler backend) (put platform (.str userId) (.str key) value) store).2.content

def DeleteKeepsFile (backend : Backend) (userId key : String) (store : Store) : Prop :=
  Intact (DeleteOn userId key) store.content (run (handler backend) (deleteRecord (.str userId) (.str key)) store).2.content

-- No record, or just the one that the put writes anew, with no member that a new record lacks.
def NothingToLose (userId key : String) (value now : Value) (records : List Value) : Prop :=
  records = [] ∨ ∃ record, records = [record] ∧ findRecord (.str userId) (.str key) [record] = .ok (some 0) ∧
    rewriteRecord value now record = newRecord (.str userId) (.str key) value now

def PutHarmless (platform : Platform) (backend : Backend) (userId key : String) (value : Value) (store : Store) : Prop :=
  (∃ error, normalizeDocumentLifecycle platform value = .error error) ∨ backend.saveFault (store.steps + 2) = true ∨
    store.content ≠ .garbled ∧ ∃ time normalized, normalizeDocumentLifecycle platform value = .ok normalized ∧
      NothingToLose userId key normalized (backend.clock (store.steps + 1)).time (store.content.records time)

theorem findRecord_range {userId key : Value} {index : Nat} (found : findRecord userId key data = .ok (some index)) :
    index < data.length := by
  obtain ⟨members,there,_⟩ := findRecord_owned found
  exact (List.getElem?_eq_some_iff.mp there).1

theorem findRecord_new (userId key : String) (value now : Value) :
    findRecord (.str userId) (.str key) [newRecord (.str userId) (.str key) value now] = .ok (some 0) := by
  have owner : pyEq (.str userId) (.str userId) = true := (pyEq_str _ _).mpr rfl
  have name : pyEq (.str key) (.str key) = true := (pyEq_str _ _).mpr rfl
  show (if pyEq (.str userId) (.str userId) && pyEq (.str key) (.str key) then _ else _) = _
  rw [owner,name]
  rfl

theorem putRecord_single {later : Value} {records : List Value} (found : findRecord (.str userId) (.str key) records = .ok place)
    (single : [newRecord (.str userId) (.str key) value now] = putRecord (.str userId) (.str key) value later place records) :
    NothingToLose userId key value now records := by
  cases place with
  | none =>
    have short := congrArg List.length single
    rw [putRecord,List.length_append] at short
    exact .inl (List.length_eq_zero_iff.mp (by simpa using short))
  | some index =>
    have inside := findRecord_range found
    have short := congrArg List.length single
    rw [putRecord,List.length_modify,List.length_singleton] at short
    obtain ⟨record,rfl⟩ := List.length_eq_one_iff.mp short.symm
    obtain rfl : index = 0 := by simpa using inside
    have same : newRecord (.str userId) (.str key) value now = rewriteRecord value later record := by simpa [putRecord] using single
    obtain ⟨members,there,_⟩ := findRecord_owned found
    cases there
    have times : now = later := by
      have stamped := congrArg (fun shown => shown.asDict?.map fun members => Dict.get members "ts") same
      simpa [newRecord,rewriteRecord,Dict.get,Dict.set,Value.asDict?,lookup_store,lookup] using stamped
    subst times
    exact .inr ⟨_,rfl,found,same.symm⟩

theorem putRecord_nothingToLose (free : NothingToLose userId key value now records) :
    ∃ place, findRecord (.str userId) (.str key) records = .ok place ∧
      putRecord (.str userId) (.str key) value now place records = [newRecord (.str userId) (.str key) value now] := by
  rcases free with rfl | ⟨record,rfl,found,same⟩
  · exact ⟨none,rfl,rfl⟩
  · refine ⟨some 0,found,?_⟩
    rw [putRecord,List.modify_zero_cons,same]

theorem put_after_failed_load (fails : LoadFails backend store true)
    (accepted : normalizeDocumentLifecycle platform value = .ok normalized) (saves : backend.saveFault (store.steps + 2) = false) :
    (run (handler backend) (put platform (.str userId) (.str key) value) store).2.content =
      .json (.list [newRecord (.str userId) (.str key) normalized (backend.clock (store.steps + 1)).time]) := by
  rw [run_put,accepted,fails.answer]
  simp only [findRecord,handler,saves]
  rfl

theorem put_after_failed_save (fails : LoadFails backend store true) (fault : backend.saveFault (store.steps + 2) = true) :
    (run (handler backend) (put platform (.str userId) (.str key) value) store).2.content = store.content := by
  rw [run_put,fails.answer]
  cases normalizeDocumentLifecycle platform value with
  | error error => rfl
  | ok normalized =>
    simp only [findRecord,handler,fault]
    rfl

theorem delete_after_failed_load (fails : LoadFails backend store false) :
    run (handler backend) (deleteRecord (.str userId) (.str key)) store = (.ok false,{ store with cache := some [],steps := store.steps + 1 }) := by
  unfold deleteRecord
  simp only [loadAll,bind_request,run]
  rw [fails.answer]
  rfl

theorem failed_load_exact (platform : Platform) (backend : Backend) (userId key : String) (value : Value) (store : Store) :
    (LoadFails backend store true →
      (PutKeepsFile platform backend userId key value store ↔ PutHarmless platform backend userId key value store)) ∧
    (LoadFails backend store false → DeleteKeepsFile backend userId key store) := by
  refine ⟨fun fails => ⟨fun kept => ?_,fun harmless => ?_⟩,fun fails => ?_⟩
  · cases accepted : normalizeDocumentLifecycle platform value with
    | error error => exact .inl ⟨error,accepted⟩
    | ok normalized =>
      cases saves : backend.saveFault (store.steps + 2) with
      | true => exact .inr (.inl saves)
      | false =>
        unfold PutKeepsFile at kept
        rw [put_after_failed_load fails accepted saves] at kept
        rcases kept with same | ⟨readable,time,records,⟨accepted',now,place,ok,found,rfl⟩,same⟩
        · refine .inr (.inr ⟨by rw [← same]; exact Content.noConfusion,.none,normalized,accepted,?_⟩)
          rw [← same]
          exact .inr ⟨_,rfl,findRecord_new _ _ _ _,rfl⟩
        · cases accepted.symm.trans ok
          refine .inr (.inr ⟨readable,time,normalized,accepted,?_⟩)
          exact putRecord_single found (Value.list.inj (Content.json.inj same))
  · rcases harmless with ⟨error,refused⟩ | fault | ⟨readable,time,normalized,accepted,free⟩
    · refine .inl ?_
      rw [run_put,refused]
    · exact .inl (put_after_failed_save fails fault)
    · cases saves : backend.saveFault (store.steps + 2) with
      | true => exact .inl (put_after_failed_save fails saves)
      | false =>
        obtain ⟨place,found,single⟩ := putRecord_nothingToLose free
        refine .inr ⟨readable,time,_,⟨normalized,(backend.clock (store.steps + 1)).time,place,accepted,found,rfl⟩,?_⟩
        rw [put_after_failed_load fails accepted saves,single]
  · refine .inl ?_
    rw [delete_after_failed_load fails]

-- The lock times out under the load and is free again for the save.
def busyOnce : Backend := { calm with loadFault := fun _ => true }

def noteOf (userId key text : String) : Value := newRecord (.str userId) (.str key) (.str text) (.int 0)

theorem failed_load_overwrites : ¬∀ platform backend userId key value store,
    (LoadFails backend store true → PutKeepsFile platform backend userId key value store) ∧
      (LoadFails backend store false → DeleteKeepsFile backend userId key store) := by
  intro kept
  have fails : LoadFails busyOnce ⟨.json (.list [noteOf "u1" "k1" "old"]),none,0⟩ true := ⟨rfl,.inl rfl⟩
  have file := kept samplePlatform busyOnce "u2" "k2" (.str "new") _ |>.1 fails
  unfold PutKeepsFile at file
  rw [put_after_failed_load fails rfl rfl] at file
  rcases file with same | ⟨_,time,records,⟨normalized,now,place,_,found,rfl⟩,same⟩
  · exact absurd same (by decide +kernel)
  · cases found
    have lengths : 1 = 2 := congrArg List.length (Value.list.inj (Content.json.inj same))
    exact absurd lengths (by decide)

theorem failed_load_exact_sample :
    PutKeepsFile samplePlatform busyOnce "u1" "k1" (.str "new") ⟨.json (.list [noteOf "u1" "k1" "old"]),none,0⟩ ∧
      DeleteKeepsFile busyOnce "u1" "k1" ⟨.json (.list [noteOf "u1" "k1" "old"]),none,0⟩ := by
  have exact_ := failed_load_exact samplePlatform busyOnce "u1" "k1" (.str "new") ⟨.json (.list [noteOf "u1" "k1" "old"]),none,0⟩
  refine ⟨(exact_.1 ⟨rfl,.inl rfl⟩).mpr ?_,exact_.2 ⟨rfl,.inl rfl⟩⟩
  refine .inr (.inr ⟨Content.noConfusion,.none,.str "new",rfl,.inr ⟨noteOf "u1" "k1" "old",rfl,?_,rfl⟩⟩)
  exact findRecord_new "u1" "k1" (.str "old") (.int 0)

structure Call where
  userId : String
  key : String
  value : Value

def Call.program (platform : Platform) (call : Call) : Memory Bool := put platform (.str call.userId) (.str call.key) call.value

structure Written (call : Call) (normalized : Value) (members : Dict) : Prop where
  owner : Dict.get members "user_id" = .str call.userId
  name : Dict.get members "key" = .str call.key
  value : Dict.get members "value" = normalized

def Stored (platform : Platform) (call : Call) (content : Content) : Prop :=
  ∃ normalized records members, normalizeDocumentLifecycle platform call.value = .ok normalized ∧ content = .json (.list records) ∧
    .dict members ∈ records ∧ Written call normalized members

theorem putRecord_written (call : Call) (normalized now : Value) (found : findRecord (.str call.userId) (.str call.key) data = .ok place) :
    ∃ members, .dict members ∈ putRecord (.str call.userId) (.str call.key) normalized now place data ∧ Written call normalized members := by
  cases place with
  | none => exact ⟨_,List.mem_append_right _ (List.mem_singleton_self _),rfl,rfl,rfl⟩
  | some index =>
    obtain ⟨members,there,owner,name⟩ := findRecord_owned found
    refine ⟨Dict.set (Dict.set members "value" normalized) "ts" now,List.mem_iff_getElem?.mpr ⟨index,?_⟩,?_,?_,?_⟩
    · rw [putRecord,List.getElem?_modify_eq,there]
      rfl
    · rw [get_set_other (by decide),get_set_other (by decide)]
      exact (pyEq_str _ _).mp owner
    · rw [get_set_other (by decide),get_set_other (by decide)]
      exact (pyEq_str _ _).mp name
    · rw [get_set_other (by decide),get_set]

theorem putRecord_others (found : findRecord (.str call.userId) (.str call.key) data = .ok place) (listed : .dict members ∈ data)
    (theirs : Written other written members) (distinct : (other.userId,other.key) ≠ (call.userId,call.key)) :
    .dict members ∈ putRecord (.str call.userId) (.str call.key) normalized now place data := by
  cases place with
  | none => exact List.mem_append_left _ listed
  | some index =>
    obtain ⟨mine,there,owner,name⟩ := findRecord_owned found
    obtain ⟨position,at_⟩ := List.mem_iff_getElem?.mp listed
    have apart : index ≠ position := by
      intro same
      subst same
      cases there.symm.trans at_
      have users := theirs.owner.symm.trans ((pyEq_str _ _).mp owner)
      have keys := theirs.name.symm.trans ((pyEq_str _ _).mp name)
      exact distinct (by rw [Value.str.inj users,Value.str.inj keys])
    refine List.mem_iff_getElem?.mpr ⟨position,?_⟩
    rw [putRecord,List.getElem?_modify_ne _ _ apart,at_]

theorem stored_other
    (found : findRecord (.str call.userId) (.str call.key) (content.records time) = .ok place) (stored : Stored platform other content)
    (distinct : (other.userId,other.key) ≠ (call.userId,call.key)) :
    Stored platform other (.json (.list (putRecord (.str call.userId) (.str call.key) normalized now place (content.records time)))) := by
  obtain ⟨written,records,members,accepted,rfl,listed,theirs⟩ := stored
  exact ⟨written,_,members,accepted,rfl,putRecord_others found listed theirs distinct,theirs⟩

inductive Stage (platform : Platform) (call : Call) : List (Event Ans) → Memory Bool → Prop
  | refused (trace : List (Event Ans)) (error : Exc) : Stage platform call trace (.fail error)
  | load (next : List Value → Memory Bool) : Stage platform call [] (.ask (.loadAll true) next)
  | clock (loaded : List Value) (next : Clock → Memory Bool) : Stage platform call [⟨.loadAll true,loaded⟩] (.ask .clock next)
  | save (loaded : List Value) (now : Clock) (normalized : Value) (place : Option Nat)
      (accepted : normalizeDocumentLifecycle platform call.value = .ok normalized)
      (found : findRecord (.str call.userId) (.str call.key) loaded = .ok place) : Stage platform call [⟨.loadAll true,loaded⟩,⟨.clock,now⟩]
        (.ask (.saveAll (putRecord (.str call.userId) (.str call.key) normalized now.time place loaded)) .pure)
  | done (loaded : List Value) (now : Clock) (data : List Value) (saved : Bool) :
      Stage platform call [⟨.loadAll true,loaded⟩,⟨.clock,now⟩,⟨.saveAll data,saved⟩] (.pure saved)

theorem put_stage (path : Leads (call.program platform) trace program) : Stage platform call trace program := by
  unfold Call.program put at path
  cases accepted : normalizeDocumentLifecycle platform call.value with
  | error error =>
    rw [accepted] at path
    obtain ⟨rfl,rfl⟩ := leads_fail.mp path
    exact .refused [] error
  | ok normalized =>
    simp only [accepted,lift_ok,bind_pure,loadAll,clock,saveAll,bind_request] at path
    rcases leads_ask.mp path with ⟨rfl,rfl⟩ | ⟨loaded,rest,rfl,afterLoad⟩
    · exact .load _
    · cases found : findRecord (.str call.userId) (.str call.key) loaded with
      | error error =>
        rw [found] at afterLoad
        obtain ⟨rfl,rfl⟩ := leads_fail.mp afterLoad
        exact .refused _ error
      | ok place =>
        rw [found] at afterLoad
        rcases leads_ask.mp afterLoad with ⟨rfl,rfl⟩ | ⟨now,rest,rfl,afterClock⟩
        · exact .clock loaded _
        · rcases leads_ask.mp afterClock with ⟨rfl,rfl⟩ | ⟨saved,rest,rfl,afterSave⟩
          · exact .save loaded now normalized place accepted found
          · obtain ⟨rfl,rfl⟩ := leads_pure.mp afterSave
            exact .done loaded now _ saved

section Threads
variable {ι : Type} [DecidableEq ι]

abbrev Puts (ι : Type) := System Op Ans Exc Bool Store ι

def puts (platform : Platform) (calls : ι → Call) (store : Store) : Puts ι := launch (fun i => (calls i).program platform) store

def NoneLost (platform : Platform) (calls : ι → Call) (system : Puts ι) : Prop :=
  ∀ i, (system.threads i).program = .pure true → Stored platform (calls i) system.shared.content

def SavesCurrent (system : Puts ι) (i : ι) (op : Op) : Prop :=
  ∀ data, op = .saveAll data → ∀ loaded, ⟨.loadAll true,loaded⟩ ∈ (system.threads i).history →
    ∃ time, loaded = system.shared.content.records time

theorem handler_content (reads : ∀ data, op ≠ .saveAll data) : (handler backend op store).2.content = store.content := by
  cases op with
  | loadAll useCache =>
    unfold handler
    dsimp only
    split <;> rfl
  | saveAll data => exact absurd rfl (reads data)
  | clock => rfl
  | vectorAdd kind text tags meta_ => rfl

theorem ended_by_save (stage : Stage platform call (trace ++ [event]) (.pure saved)) : ∃ data, event = ⟨.saveAll data,saved⟩ := by
  generalize whole : trace ++ [event] = events at stage
  cases stage with
  | done loaded now data =>
    have last := congrArg List.getLast? whole
    rw [List.getLast?_append_of_ne_nil _ (List.cons_ne_nil _ _)] at last
    exact ⟨data,Option.some.inj last⟩

theorem none_lost_step {platform : Platform} {backends : ι → Backend} {calls : ι → Call}
    (distinct : ∀ i j, i ≠ j → ((calls i).userId,(calls i).key) ≠ ((calls j).userId,(calls j).key)) {store : Store} {system : Puts ι}
    (path : Runs (fun i => handler (backends i)) SavesCurrent (puts platform calls store) system) (kept : NoneLost platform calls system)
    (i : ι) (op : Op) (next : Ans op → Memory Bool) (pending : (system.threads i).program = .ask op next) (current : SavesCurrent system i op) :
    NoneLost platform calls (system.advance i ⟨op,(handler (backends i) op system.shared).1⟩ (next (handler (backends i) op system.shared).1)
      (handler (backends i) op system.shared).2) := by
  have taken := path.step i op next pending current
  intro j returned
  by_cases save : ∃ data, op = .saveAll data
  · obtain ⟨data,rfl⟩ := save
    have stage := put_stage (history_leads path i)
    rw [pending] at stage
    generalize events : (system.threads i).history = trace at stage
    cases stage with
    | save loaded now normalized place accepted found =>
      obtain ⟨time,rfl⟩ := current _ rfl loaded (by rw [events]; exact List.mem_cons_self)
      cases fault : (backends i).saveFault system.shared.steps with
      | true =>
        simp only [handler,fault,if_true] at returned ⊢
        by_cases same : j = i
        · subst same
          rw [advance_self] at returned
          cases returned
        · rw [advance_other _ _ _ _ _ same] at returned
          exact kept j returned
      | false =>
        simp only [handler,fault] at returned ⊢
        by_cases same : j = i
        · subst same
          obtain ⟨members,listed,written⟩ := putRecord_written (calls j) normalized now.time found
          exact ⟨normalized,_,members,accepted,rfl,listed,written⟩
        · rw [advance_other _ _ _ _ _ same] at returned
          exact stored_other found (kept j returned) (distinct j i same)
  · have content : (handler (backends i) op system.shared).2.content = system.shared.content :=
      handler_content fun data same => save ⟨data,same⟩
    rw [advance_shared,content]
    by_cases same : j = i
    · subst same
      have stage := put_stage (history_leads taken j)
      rw [returned,advance_self] at stage
      obtain ⟨data,ended⟩ := ended_by_save stage
      exact absurd ⟨data,congrArg Sigma.fst ended⟩ save
    · rw [advance_other _ _ _ _ _ same] at returned
      exact kept j returned

theorem no_update_lost {platform : Platform} {backends : ι → Backend} {calls : ι → Call}
    (distinct : ∀ i j, i ≠ j → ((calls i).userId,(calls i).key) ≠ ((calls j).userId,(calls j).key)) {store : Store} {system : Puts ι}
    (path : Runs (fun i => handler (backends i)) SavesCurrent (puts platform calls store) system) : NoneLost platform calls system := by
  induction path with
  | start =>
    intro i returned
    have stage := put_stage (.done ((calls i).program platform))
    rw [show (calls i).program platform = .pure true from returned] at stage
    cases stage
  | step path i op next pending current ih => exact none_lost_step distinct path ih i op next pending current

end Threads

def twoCalls : Bool → Call
  | false => ⟨"u1","k1",.str "first"⟩
  | true => ⟨"u2","k2",.str "second"⟩

theorem twoCalls_distinct (i j : Bool) (other : i ≠ j) : ((twoCalls i).userId,(twoCalls i).key) ≠ ((twoCalls j).userId,(twoCalls j).key) := by
  cases i <;> cases j <;> first | exact absurd rfl other | decide

theorem second_save_overwrites : ¬∀ system : Puts Bool, Runs (fun _ => handler calm) (fun _ _ _ => True) (puts samplePlatform twoCalls {}) system →
    (∀ i, (system.threads i).program = .pure true) → ∀ i, Stored samplePlatform (twoCalls i) system.shared.content := by
  intro kept
  have before : Runs (fun _ => handler calm) (fun _ _ _ => True) (puts samplePlatform twoCalls {}) (puts samplePlatform twoCalls {}) := .start
  have loaded := (before.step false (.loadAll true) _ rfl trivial).step true (.loadAll true) _ rfl trivial
  have first := (loaded.step false .clock _ rfl trivial).step false (.saveAll _) _ rfl trivial
  have second := (first.step true .clock _ rfl trivial).step true (.saveAll _) _ rfl trivial
  obtain ⟨normalized,records,members,_,file,listed,written⟩ := kept _ second (by intro i; cases i <;> rfl) false
  obtain rfl : records = [noteOf "u2" "k2" "second"] := Value.list.inj (Content.json.inj file.symm)
  cases List.mem_singleton.mp listed
  exact absurd written.owner (by decide +kernel)

theorem no_update_lost_sample : ∃ system : Puts Bool, (∀ i, (system.threads i).program = .pure true) ∧ NoneLost samplePlatform twoCalls system := by
  have before : Runs (fun _ => handler calm) SavesCurrent (puts samplePlatform twoCalls {}) (puts samplePlatform twoCalls {}) := .start
  have current : ∀ (system : Puts Bool) (i : Bool) (op : Op) (loaded : List Value) (now : Clock),
      (system.threads i).history = [⟨.loadAll true,loaded⟩,⟨.clock,now⟩] → loaded = system.shared.content.records .none → SavesCurrent system i op := by
    intro system i op loaded now history same data _ other listed
    rw [history] at listed
    rcases List.mem_cons.mp listed with here | there
    · cases here
      exact ⟨.none,same⟩
    · cases List.mem_singleton.mp there
  have first := ((before.step false (.loadAll true) _ rfl fun data same => nomatch same).step false .clock _ rfl fun data same => nomatch same).step
    false (.saveAll _) _ rfl (current _ _ _ _ _ rfl rfl)
  have second := ((first.step true (.loadAll true) _ rfl fun data same => nomatch same).step true .clock _ rfl fun data same => nomatch same).step
    true (.saveAll _) _ rfl (current _ _ _ _ _ rfl rfl)
  exact ⟨_,by intro i; cases i <;> rfl,no_update_lost twoCalls_distinct second⟩

end VeritasOs.MemoryFiles
