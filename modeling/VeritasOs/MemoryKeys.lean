import VeritasOs.MemoryRuns

namespace VeritasOs.MemoryKeys
open BindArtifacts Interaction MemoryStore MemorySearch MemoryErase MemoryRuns

inductive Call where
  | putEpisode (text : String) (tags : Value) (meta_ : Dict)
  | putDocument (kind : String) (document : Dict)

def metaOf (document : Dict) : Dict :=
  match orEmpty (document.get "meta") with
  | .dict meta_ => meta_
  | _ => []

def Call.kind : Call → String
  | .putEpisode .. => "episode"
  | .putDocument kind _ => if kind = "" then "semantic" else kind

def Call.owner : Call → Value
  | .putEpisode _ _ meta_ => meta_.getD "user_id" (.str "episodic")
  | .putDocument kind document => (metaOf document).getD "user_id" (.str (if kind = "" then "semantic" else kind))

section Calls
variable (setting : Setting)

def Call.program : Call → Memory Unit
  | .putEpisode text tags meta_ => do
    let _ ← putEpisodeRecord setting.platform text tags meta_
    return ()
  | .putDocument kind document => do
    let _ ← MemoryRuns.putDocument setting kind document
    return ()

-- What the call has to store, if it gets so far.
def Call.stored : Call → Except Exc Value
  | .putEpisode text tags meta_ =>
    normalizeDocumentLifecycle setting.platform
      (.dict [(.str "text",.str text),(.str "tags",if tags.truthy then tags else .list []),(.str "meta",.dict meta_)])
  | .putDocument _ document => do
    let _ ← strippedText document
    let _ ← asRecord (orEmpty (document.get "meta"))
    if document = [] then .error (valueError "an empty document is not stored")
    else normalizeDocumentLifecycle setting.platform (.dict document)

-- How often the surroundings are asked before the clock is read for the key.
def Call.before : Call → Nat
  | .putEpisode .. => 0
  | .putDocument _ document =>
    match strippedText document with
    | .ok text => if (indexedText text document).isSome then 1 else 0
    | .error _ => 0

-- A call and its surroundings: any clock, any age of the cache, and no I/O error.
structure Timed where
  call : Call
  backend : Backend
  loads : ∀ step, backend.loadFault step = false
  saves : ∀ step, backend.saveFault step = false

def Timed.key (timed : Timed) : String := timed.call.kind ++ "_" ++ intStr (timed.backend.clock timed.call.before).seconds

def after (timed : Timed) (store : Store) : Store := (run (handler timed.backend) (timed.call.program setting) { store with steps := 0 }).2

def afterAll (run : List Timed) : Store := run.foldl (fun store timed => after setting timed store) {}

def recordsOf (store : Store) : List Value := store.content.records .none

-- Nothing is lost: each call appends a record of its own, and the store returns it.
def Kept (run : List Timed) : Prop :=
  ∀ earlier timed later, run = earlier ++ timed :: later → ∃ value time, timed.call.stored setting = .ok value ∧
    findRecord timed.call.owner (.str timed.key) (recordsOf (afterAll setting earlier)) = .ok none ∧
    recordsOf (afterAll setting (earlier ++ [timed])) =
      recordsOf (afterAll setting earlier) ++ [newRecord timed.call.owner (.str timed.key) value time] ∧
    ∀ backend : Backend, (∀ step, backend.loadFault step = false) →
      (∀ now, isRecordExpired setting [(.str "user_id",timed.call.owner),(.str "key",.str timed.key),(.str "value",value),(.str "ts",time)] now = .ok false) →
      (Interaction.run (handler backend) (get setting timed.call.owner (.str timed.key)) (afterAll setting run)).1 = .ok value

-- Two calls of one user, one kind and one second.
def SamePair (first second : Timed) : Prop := pyEq first.call.owner second.call.owner = true ∧ first.key = second.key

structure Storable (timed : Timed) : Prop where
  stored : ∃ value, timed.call.stored setting = .ok value
  owner : pyEq timed.call.owner timed.call.owner = true
end Calls

-- The records of the file, whatever the time it is read, and of the cache.
structure Holds (store : Store) (records : List Value) : Prop where
  file : ∀ time, store.content.records time = records
  cache : ∀ cached, store.cache = some cached → cached = records

section Steps
variable {setting : Setting} {backend : Backend} {store : Store} {records : List Value} {userId key value normalized : Value}

theorem Holds.load (holds : Holds store records) (loads : ∀ step, backend.loadFault step = false) (useCache : Bool) :
    (handler backend (.loadAll useCache) store).1 = records := by
  have read : backend.load store = records := by
    rw [Backend.load,loads,if_neg Bool.false_ne_true]
    exact holds.file _
  unfold handler
  dsimp only
  split
  · rename_i data cached
    split at cached
    · exact holds.cache data cached
    · cases cached
  · exact read

theorem Holds.step (holds : Holds store records) (steps : Nat) : Holds { store with steps } records := ⟨holds.file,holds.cache⟩

theorem put_appends (holds : Holds store records) (loads : ∀ step, backend.loadFault step = false) (saves : ∀ step, backend.saveFault step = false)
    (stored : normalizeDocumentLifecycle setting.platform value = .ok normalized) (new : findRecord userId key records = .ok none) :
    ∃ time final, run (handler backend) (put setting.platform userId key value) store = (.ok true,final) ∧
      Holds final (records ++ [newRecord userId key normalized time]) := by
  have ran := run_put setting.platform userId key value backend store
  rw [stored] at ran
  dsimp only at ran
  rw [holds.load loads,new] at ran
  dsimp only at ran
  generalize handler backend .clock (handler backend (.loadAll true) store).2 = timed at ran
  simp only [handler,saves,putRecord] at ran
  exact ⟨timed.1.time,_,ran,fun _ => rfl,fun cached none_ => by cases none_⟩

theorem Holds.asked (holds : Holds store records) (backend : Backend) (aside : (∃ kind text tags meta_, op = .vectorAdd kind text tags meta_) ∨ op = .clock) :
    Holds (handler backend op store).2 records := by
  rcases aside with ⟨kind,text,tags,meta_,rfl⟩ | rfl <;> exact holds.step _

theorem episode_runs (holds : Holds store records)
    (loads : ∀ step, backend.loadFault step = false) (saves : ∀ step, backend.saveFault step = false)
    (stored : (Call.putEpisode text tags meta_).stored setting = .ok value)
    (new : findRecord (Call.putEpisode text tags meta_).owner (.str ("episode_" ++ intStr (backend.clock store.steps).seconds)) records = .ok none) :
    ∃ time, Holds (run (handler backend) ((Call.putEpisode text tags meta_).program setting) store).2
      (records ++ [newRecord (Call.putEpisode text tags meta_).owner (.str ("episode_" ++ intStr (backend.clock store.steps).seconds)) value time]) := by
  unfold Call.stored at stored
  unfold Call.owner at new ⊢
  dsimp only at stored new ⊢
  obtain ⟨time,final,ran,held⟩ := put_appends (holds.asked backend (.inr rfl)) loads saves stored new
  refine ⟨time,?_⟩
  have written : (run (handler backend) ((Call.putEpisode text tags meta_).program setting) store).2 =
      (handler backend (.vectorAdd "episodic" text (if tags.truthy then tags else .list []) meta_) final).2 := by
    have seconds : (handler backend .clock store).1 = backend.clock store.steps := rfl
    rw [Call.program,run_bind,putEpisodeRecord]
    simp only [bind_request,clock,run,seconds]
    rw [run_bind,ran]
    rfl
  rw [written]
  exact held.asked backend (.inl ⟨_,_,_,_,rfl⟩)

theorem document_runs (holds : Holds store records)
    (loads : ∀ step, backend.loadFault step = false) (saves : ∀ step, backend.saveFault step = false)
    (stored : (Call.putDocument kind document).stored setting = .ok value) (zero : store.steps = 0)
    (new : findRecord (Call.putDocument kind document).owner
      (.str ((Call.putDocument kind document).kind ++ "_" ++ intStr (backend.clock (Call.putDocument kind document).before).seconds)) records = .ok none) :
    ∃ time, Holds (run (handler backend) ((Call.putDocument kind document).program setting) store).2
      (records ++ [newRecord (Call.putDocument kind document).owner
        (.str ((Call.putDocument kind document).kind ++ "_" ++ intStr (backend.clock (Call.putDocument kind document).before).seconds)) value time]) := by
  obtain ⟨text,stripped,rest⟩ := bind_ok.mp stored
  obtain ⟨meta_,read,rest⟩ := bind_ok.mp rest
  split at rest
  · cases rest
  · rename_i some_
    have own : metaOf document = meta_ := by
      unfold metaOf
      cases held : orEmpty (document.get "meta") with
      | dict members =>
        rw [held] at read
        exact Except.ok.inj read
      | _ =>
        rw [held] at read
        cases read
    unfold Call.owner Call.kind Call.before at new ⊢
    dsimp only at new ⊢
    rw [own] at new ⊢
    rw [stripped] at new ⊢
    dsimp only at new ⊢
    have opened : (Call.putDocument kind document).program setting = ((do
        indexDocument (if kind = "" then "semantic" else kind) text document meta_
        let now ← clock
        put setting.platform (meta_.getD "user_id" (.str (if kind = "" then "semantic" else kind)))
          (.str ((if kind = "" then "semantic" else kind) ++ "_" ++ intStr now.seconds)) (.dict document)) >>= fun _ => return ()) := by
      rw [Call.program,MemoryRuns.putDocument,stripped]
      simp only [lift_ok,bind_pure,read]
      rw [if_neg fun both => some_ both.2]
    rw [opened,run_bind]
    unfold indexDocument
    cases indexed : indexedText text document with
    | none =>
      rw [indexed,Option.isSome_none,if_neg Bool.false_ne_true] at new
      rw [Option.isSome_none,if_neg Bool.false_ne_true]
      obtain ⟨time,final,ran,held⟩ := put_appends (holds.asked backend (.inr rfl)) loads saves rest new
      have seconds : (handler backend .clock store).1 = backend.clock 0 := congrArg backend.clock zero
      refine ⟨time,?_⟩
      simp only [pure_eq,bind_pure,bind_request,clock,run,seconds,ran]
      exact held
    | some base =>
      rw [indexed,Option.isSome_some,if_pos rfl] at new
      rw [Option.isSome_some,if_pos rfl]
      have first := holds.asked backend (.inl ⟨if kind = "" then "semantic" else kind,base,orList (document.get "tags"),meta_,rfl⟩)
      obtain ⟨time,final,ran,held⟩ := put_appends (first.asked backend (.inr rfl)) loads saves rest new
      have seconds : (handler backend .clock (handler backend (.vectorAdd (if kind = "" then "semantic" else kind) base
          (orList (document.get "tags")) meta_) store).2).1 = backend.clock 1 := congrArg (fun steps => backend.clock (steps + 1)) zero
      refine ⟨time,?_⟩
      simp only [pure_eq,bind_request,clock,vectorAdd,run,seconds,ran]
      exact held
end Steps

section Runs
variable {setting : Setting} {timed : Timed} {store : Store} {records : List Value}

def Wrote (setting : Setting) (timed : Timed) (record : Value) : Prop :=
  ∃ value time, timed.call.stored setting = .ok value ∧ record = newRecord timed.call.owner (.str timed.key) value time

theorem call_appends (holds : Holds store records) (storable : Storable setting timed)
    (new : findRecord timed.call.owner (.str timed.key) records = .ok none) :
    ∃ record, Wrote setting timed record ∧ Holds (after setting timed store) (records ++ [record]) := by
  obtain ⟨call,backend,loads,saves⟩ := timed
  obtain ⟨⟨value,stored⟩,_⟩ := storable
  have started := holds.step 0
  cases call with
  | putEpisode text tags meta_ =>
    obtain ⟨time,held⟩ := episode_runs started loads saves stored new
    exact ⟨_,⟨value,time,stored,rfl⟩,held⟩
  | putDocument kind document =>
    obtain ⟨time,held⟩ := document_runs started loads saves stored rfl new
    exact ⟨_,⟨value,time,stored,rfl⟩,held⟩

theorem unused_pair (wrote : List.Forall₂ (Wrote setting) past records)
    (apart : ∀ earlier ∈ past, ¬SamePair earlier timed) : findRecord timed.call.owner (.str timed.key) records = .ok none := by
  induction wrote with
  | nil => rfl
  | @cons earlier record past records first _ ih =>
    obtain ⟨value,time,_,rfl⟩ := first
    have other : (pyEq earlier.call.owner timed.call.owner && pyEq (.str earlier.key) (.str timed.key)) = false := by
      rw [← Bool.not_eq_true,Bool.and_eq_true]
      intro both
      exact apart earlier (List.mem_cons_self) ⟨both.1,by simpa [pyEq] using both.2⟩
    have later := ih fun other listed => apart other (List.mem_cons_of_mem _ listed)
    have asked : findRecord timed.call.owner (.str timed.key) (newRecord earlier.call.owner (.str earlier.key) value time :: records) =
        if pyEq earlier.call.owner timed.call.owner && pyEq (.str earlier.key) (.str timed.key) then .ok (some 0)
        else (findRecord timed.call.owner (.str timed.key) records).map fun place => place.map (· + 1) := rfl
    rw [asked,other,later]
    rfl

-- Induction on the calls still to be made; the calls made so far have a record each.
theorem run_appends {run past : List Timed} (holds : Holds store records) (wrote : List.Forall₂ (Wrote setting) past records)
    (storable : ∀ timed ∈ run, Storable setting timed) (distinct : (past ++ run).Pairwise fun first second => ¬SamePair first second) :
    ∃ more, List.Forall₂ (Wrote setting) run more ∧ Holds (run.foldl (fun store timed => after setting timed store) store) (records ++ more) := by
  induction run generalizing past store records with
  | nil => exact ⟨[],.nil,by rwa [List.append_nil]⟩
  | cons timed later ih =>
    have apart : ∀ earlier ∈ past, ¬SamePair earlier timed := fun earlier listed =>
      (List.pairwise_append.mp distinct).2.2 earlier listed timed List.mem_cons_self
    obtain ⟨record,added,held⟩ := call_appends holds (storable timed List.mem_cons_self) (unused_pair wrote apart)
    have longer : List.Forall₂ (Wrote setting) (past ++ [timed]) (records ++ [record]) := List.rel_append wrote (.cons added .nil)
    obtain ⟨more,rest,final⟩ := ih held longer (fun other listed => storable other (List.mem_cons_of_mem _ listed))
      (by rwa [List.append_assoc])
    exact ⟨record :: more,.cons added rest,by rwa [List.append_assoc] at final⟩

theorem findValue_skips (rest : List Value) (none_ : findRecord userId key data = .ok none) :
    findValue setting userId key (data ++ rest) = findValue setting userId key rest := by
  induction data with
  | nil => rfl
  | cons head data ih =>
    obtain ⟨record,read,found⟩ := bind_ok.mp none_
    split at found
    · cases found
    · rename_i other
      cases later : findRecord userId key data with
      | error error =>
        rw [later] at found
        cases found
      | ok place =>
        rw [later] at found
        cases place with
        | some index => cases found
        | none =>
          rw [List.cons_append,findValue,read]
          simp only [lift_ok,bind_pure]
          rw [if_neg other]
          exact ih later

theorem get_returns
    (holds : Holds store (records ++ newRecord userId (.str key) value time :: later)) (none_ : findRecord userId (.str key) records = .ok none)
    (same : pyEq userId userId = true) (loads : ∀ step, backend.loadFault step = false)
    (lasting : ∀ now, isRecordExpired setting [(.str "user_id",userId),(.str "key",.str key),(.str "value",value),(.str "ts",time)] now = .ok false) :
    (run (handler backend) (get setting userId (.str key)) store).1 = .ok value := by
  have asked : get setting userId (.str key) = (loadAll true >>= fun data => findValue setting userId (.str key) data) := rfl
  have found : (pyEq userId userId && pyEq (.str key) (.str key)) = true := by simp [same,pyEq]
  have head : findValue setting userId (.str key) (newRecord userId (.str key) value time :: later) =
      if pyEq userId userId && pyEq (.str key) (.str key) then (do
        let now ← clock
        let expired ← lift (isRecordExpired setting [(.str "user_id",userId),(.str "key",.str key),(.str "value",value),(.str "ts",time)] now.time)
        return if expired then .none else value)
      else findValue setting userId (.str key) later := rfl
  rw [if_pos found] at head
  rw [asked,loadAll]
  simp only [bind_request,run]
  rw [holds.load loads,findValue_skips _ none_,head]
  simp only [lasting,lift_ok,clock,bind_request,run]
  rfl
end Runs

-- Two calls of one user, one kind and one second write to one record; apart from that
-- every call that has something to store keeps its record.
theorem memories_kept (setting : Setting) (run : List Timed) (storable : ∀ timed ∈ run, Storable setting timed)
    (distinct : run.Pairwise fun first second => ¬SamePair first second) : Kept setting run := by
  intro earlier timed later split
  subst split
  have start : Holds {} [] := ⟨fun _ => rfl,fun _ none_ => by cases none_⟩
  obtain ⟨records,wrote,held⟩ := run_appends start (.nil : List.Forall₂ (Wrote setting) [] []) (fun other listed => storable other (List.mem_append_left _ listed))
    (List.pairwise_append.mp distinct).1
  have apart : ∀ other ∈ earlier, ¬SamePair other timed := fun other listed =>
    (List.pairwise_append.mp distinct).2.2 other listed timed List.mem_cons_self
  have mine := storable timed (List.mem_append_right _ List.mem_cons_self)
  have new := unused_pair wrote apart
  obtain ⟨record,added,next⟩ := call_appends held mine new
  have longer : List.Forall₂ (Wrote setting) (earlier ++ [timed]) (records ++ [record]) := List.rel_append wrote (.cons added .nil)
  obtain ⟨more,_,final⟩ := run_appends next longer
    (fun other listed => storable other (List.mem_append_right _ (List.mem_cons_of_mem _ listed)))
    (by rwa [List.append_assoc])
  obtain ⟨value,time,stored,rfl⟩ := added
  have whole : afterAll setting (earlier ++ timed :: later) =
      later.foldl (fun store timed => after setting timed store) (after setting timed (afterAll setting earlier)) := List.foldl_append
  have one : afterAll setting (earlier ++ [timed]) = after setting timed (afterAll setting earlier) := List.foldl_append
  have before : recordsOf (afterAll setting earlier) = records := held.file .none
  refine ⟨value,time,stored,?_,?_,?_⟩
  · rw [before]
    exact new
  · rw [before,one]
    exact next.file .none
  · intro backend loads lasting
    rw [whole]
    exact get_returns (by rwa [List.append_assoc] at final) new mine.owner loads lasting

def spoken (userId text : String) : Timed :=
  ⟨.putEpisode text (.list []) [(.str "user_id",.str userId)],calm,fun _ => rfl,fun _ => rfl⟩

def noted (userId text : String) : Timed :=
  ⟨.putDocument "" [(.str "text",.str text),(.str "meta",.dict [(.str "user_id",.str userId)])],calm,fun _ => rfl,fun _ => rfl⟩

theorem memories_kept_sample : Kept sampleSetting [spoken "u1" "first",spoken "u2" "second",noted "u1" "third"] := by
  refine memories_kept sampleSetting _ ?_ ?_
  · intro timed listed
    rcases List.mem_cons.mp listed with rfl | listed
    · exact ⟨⟨_,rfl⟩,rfl⟩
    · rcases List.mem_cons.mp listed with rfl | listed
      · exact ⟨⟨_,rfl⟩,rfl⟩
      · obtain rfl := List.mem_singleton.mp listed
        exact ⟨⟨_,rfl⟩,rfl⟩
  · simp only [List.pairwise_cons,SamePair]
    decide +kernel

theorem memory_replaced : ¬Kept sampleSetting [spoken "u1" "first",spoken "u1" "second"] ∧
    (run (handler calm) (get sampleSetting (.str "u1") (.str "episode_0"))
      (afterAll sampleSetting [spoken "u1" "first",spoken "u1" "second"])).1.map valueText = .ok "second" := by
  refine ⟨fun kept => ?_,?_⟩
  · obtain ⟨_,_,_,new,_⟩ := kept [spoken "u1" "first"] (spoken "u1" "second") [] rfl
    have found : findRecord (.str "u1") (.str "episode_0") (recordsOf (afterAll sampleSetting [spoken "u1" "first"])) = .ok (some 0) := by
      decide +kernel
    cases new.symm.trans found
  · decide +kernel

end VeritasOs.MemoryKeys
