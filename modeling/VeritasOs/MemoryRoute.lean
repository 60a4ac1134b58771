import VeritasOs.MemoryStore

namespace VeritasOs.MemoryRoute
open Text BindArtifacts Interaction PolicyBundle MemoryStore

structure Server where
  platform : Platform
  -- pbkdf2_hmac("sha256", key, b"veritas_user_id_v1", 1).hex()
  pbkdf2 : String → String
  redact : String → String
  storeAvailable : Bool

def deriveApiUserId (server : Server) (apiKey : Option String) : String :=
  match apiKey with
  | some key => if strip key = "" then "anon" else "key_" ++ truncate 16 (server.pbkdf2 (strip key))
  | none => "anon"

-- The user_id of the body is only compared, for a warning.
def resolveMemoryUserId (server : Server) (_bodyUserId : Option String) (apiKey : Option String) : String :=
  deriveApiUserId server apiKey

structure PutRequest where
  userId : Option String
  key : Option String
  text : String
  tags : List String
  value : Value
  kind : String
  retentionClass : Option String
  meta_ : Dict
  expiresAt : Option Int
  legalHold : Bool

def validMemoryKinds : List String := ["semantic","episodic","skills","doc","plan"]

def isRouteException (error : Exc) : Bool :=
  [ExcKind.attributeError,.keyError,.osError,.runtimeError,.typeError,.valueError].contains error.kind

def classifyMemoryFailure (error : Exc) : String :=
  match error.kind with
  | .valueError | .typeError => "validation_failure"
  | .osError => "serialization_storage_failure"
  | .runtimeError => "backend_unavailable"
  | _ => "unknown_failure"

def stageError (stage : String) (error : Exc) : Value :=
  .dict [(.str "stage",.str stage),(.str "message",.str (stage ++ " save failed")),(.str "error_code",.str (classifyMemoryFailure error))]

-- The store's put takes three arguments, so the last of the three calls never binds.
def storePut (server : Server) (userId key : String) (value : Value) : Memory Unit := do
  match ← attempt (put server.platform (.str userId) (.str key) value) with
  | .ok _ => return ()
  | .error error =>
    if error.kind ≠ .typeError then .fail error
    else
      match ← attempt (put server.platform (.str userId) (.str key) value) with
      | .ok _ => return ()
      | .error error =>
        if error.kind ≠ .typeError then .fail error
        else .fail (typeError "put() missing 1 required positional argument: 'value'")

def orText (first : Option String) (second : String) : String :=
  match first with
  | some text => if text = "" then second else text
  | none => second

structure Lifecycle where
  retentionClass : String
  expiresAt : Value
  legalHold : Bool

def lifecycle (body : PutRequest) : Lifecycle where
  retentionClass := lower (strip (orText body.retentionClass ((body.meta_.get "retention_class").orStr "standard")))
  expiresAt := (body.expiresAt.map Value.int).getD (body.meta_.get "expires_at")
  legalHold := body.legalHold || (body.meta_.getD "legal_hold" (.bool false)).truthy

def setMissing (dict : Dict) (name : String) (value : Value) : Dict := if dict.has name then dict else dict.set name value

def metaForStore (body : PutRequest) (userId kind : String) : Dict :=
  ((((setMissing (setMissing body.meta_ "user_id" (.str userId)) "kind" (.str kind)).set "retention_class"
    (.str (lifecycle body).retentionClass)).set "expires_at" (lifecycle body).expiresAt).set "legal_hold" (.bool (lifecycle body).legalHold))

def legacyStage (server : Server) (userId key : String) (value : Value) : Memory (Except Exc Bool) := do
  if value.truthy then
    match ← attempt (storePut server userId key value) with
    | .ok _ => return .ok true
    | .error error => return .error error
  else return .ok false

-- store.put(kind, item) does not bind either and raises TypeError, so the text is put as an episode.
def vectorStage (server : Server) (body : PutRequest) (userId kind : String) : Memory (Except Exc (Option String)) := do
  if strip body.text = "" then return .ok none
  else
    match ← attempt (putEpisodeRecord server.platform (server.redact (strip body.text)) (.list (body.tags.map .str)) (metaForStore body userId kind)) with
    | .ok key => return .ok (some key)
    | .error error => return .error error

def stageErrors (legacy : Except Exc Bool) (vector : Except Exc (Option String)) : List Value :=
  (match legacy with
    | .error error => [stageError "legacy" error]
    | .ok _ => []) ++ match vector with
    | .error error => [stageError "vector" error]
    | .ok _ => []

def putResponse (body : PutRequest) (key kind : String) (legacy : Except Exc Bool) (vector : Except Exc (Option String)) : Dict :=
  let saved := legacy.toOption.getD false
  let newId := vector.toOption.getD none
  let errors := stageErrors legacy vector
  let ok := saved || newId.isSome || (!body.value.truthy && strip body.text = "")
  let status := if ok && errors.isEmpty then "ok" else if ok then "partial_failure" else "failed"
  let given (value : Value) : Value := if newId.isSome then value else .none
  let failure : Dict := if ok then [] else
    [(.str "error",.str "memory operation failed"),(.str "error_code",match errors with
       | [.dict only] => Dict.get only "error_code"
       | _ => .str "partial_failure")]
  [(.str "ok",.bool ok),(.str "status",.str status),
   (.str "legacy",.dict [(.str "saved",.bool saved),(.str "key",if saved then .str key else .none)]),
   (.str "vector",.dict [(.str "saved",.bool newId.isSome),(.str "id",optionalText newId),(.str "kind",given (.str kind)),
     (.str "tags",given (.list (body.tags.map .str)))]),
   (.str "size",.int (if body.value.truthy then body.value.text.length else (strip body.text).length)),
   (.str "lifecycle",.dict [(.str "retention_class",.str (lifecycle body).retentionClass),(.str "expires_at",(lifecycle body).expiresAt),
     (.str "legal_hold",.bool (lifecycle body).legalHold)])] ++ if errors.isEmpty then [] else (.str "errors",.list errors) :: failure

def caught (outcome : Except Exc α) : Memory (Except Exc α) :=
  match outcome with
  | .error error => if isRouteException error then return .error error else .fail error
  | .ok value => return .ok value

-- The clock is read for a key only where the body brings none.
def memoryKey (given : Option String) : Memory String := do
  if orText given "" = "" then
    let now ← clock
    return "memory_" ++ now.stamp
  else return orText given ""

def memoryPut (server : Server) (body : PutRequest) (apiKey : Option String) : Memory Dict := do
  if !server.storeAvailable then
    return [(.str "ok",.bool false),(.str "error",.str "memory store unavailable"),(.str "error_code",.str "backend_unavailable")]
  else
    let userId := resolveMemoryUserId server body.userId apiKey
    let key ← memoryKey body.key
    let kind := if validMemoryKinds.contains body.kind then body.kind else "semantic"
    let legacy ← legacyStage server userId key body.value >>= caught
    let vector ← vectorStage server body userId kind >>= caught
    return putResponse body key kind legacy vector

-- Whatever the store held and its surroundings do, the request adds only records of the caller.
def StoresOwn (server : Server) (body : PutRequest) (apiKey : Option String) : Prop :=
  ∀ backend store record, Held (run (handler backend) (memoryPut server body apiKey) store).2 record →
    Held store record ∨ OwnedBy (.str (resolveMemoryUserId server body.userId apiKey)) record

-- The value is refused with an exception that the route lets through.
def ValueEscapes (server : Server) (body : PutRequest) : Prop :=
  body.value.truthy = true ∧ ∃ error, normalizeDocumentLifecycle server.platform body.value = .error error ∧ isRouteException error = false

structure ForeignOwner (server : Server) (body : PutRequest) (apiKey : Option String) : Prop where
  available : server.storeAvailable = true
  reached : ¬ValueEscapes server body
  text : strip body.text ≠ ""
  named : body.meta_.has "user_id" = true
  foreign : body.meta_.get "user_id" ≠ .str (resolveMemoryUserId server body.userId apiKey)
  dated : ∃ expires, parseExpiresAt server.platform (lifecycle body).expiresAt = .ok expires

section Keeping
variable {server : Server} {backend : Backend} {before : Value → Prop} {userId : String}

def Adds (before : Value → Prop) (userId : String) (store : Store) : Prop :=
  ∀ record, Held store record → before record ∨ OwnedBy (.str userId) record

theorem put_adds (key value : Value) : Keeps (handler backend) (Adds before userId) (put server.platform (.str userId) key value) :=
  put_keeps server.platform (.str userId) key value backend ((pyEq_str _ _).mpr rfl)

theorem storePut_adds (key : String) (value : Value) : Keeps (handler backend) (Adds before userId) (storePut server userId key value) := by
  refine keeps_bind (keeps_attempt (put_adds _ _)) fun first => ?_
  cases first with
  | ok done => exact keeps_pure ()
  | error error =>
    dsimp only
    split
    · exact keeps_fail error
    · refine keeps_bind (keeps_attempt (put_adds _ _)) fun second => ?_
      cases second with
      | ok done => exact keeps_pure ()
      | error again =>
        dsimp only
        split
        · exact keeps_fail again
        · exact keeps_fail _

theorem caught_keeps {α : Type} (outcome : Except Exc α) : Keeps (handler backend) good (caught outcome) := by
  cases outcome with
  | ok value => exact keeps_pure _
  | error error =>
    unfold caught
    dsimp only
    split
    · exact keeps_pure _
    · exact keeps_fail _

theorem clock_adds (store : Store) (adds : Adds before userId store) : Adds before userId (handler backend .clock store).2 :=
  fun record held => adds record ((clock_held record).mp held)

theorem memoryKey_adds (given : Option String) : Keeps (handler backend) (Adds before userId) (memoryKey given) := by
  unfold memoryKey
  split
  · exact keeps_bind (keeps_request Op.clock clock_adds) fun now => keeps_pure _
  · exact keeps_pure _

theorem legacyStage_adds (key : String) (value : Value) : Keeps (handler backend) (Adds before userId) (legacyStage server userId key value) := by
  unfold legacyStage
  split
  · refine keeps_bind (keeps_attempt (storePut_adds key value)) fun outcome => ?_
    cases outcome <;> exact keeps_pure _
  · exact keeps_pure _

theorem putEpisodeRecord_adds (own : meta_.getD "user_id" (.str "episodic") = .str userId) :
    Keeps (handler backend) (Adds before userId) (putEpisodeRecord server.platform text tags meta_) := by
  unfold putEpisodeRecord
  rw [own]
  refine keeps_bind (keeps_request Op.clock clock_adds) fun now => ?_
  refine keeps_bind (put_adds _ _) fun _ => ?_
  exact keeps_bind (keeps_request (Op.vectorAdd _ _ _ _) fun store adds => adds) fun _ => keeps_pure _

end Keeping

theorem has_set (members : Dict) (name wanted : String) (value : Value) (kept : members.has wanted = true) :
    (members.set name value).has wanted = true := by
  unfold Dict.has Dict.set
  rw [lookup_store]
  split
  · rfl
  · exact kept

theorem getD_eq {members : Dict} {name : String} {default : Value} (there : members.has name = true) :
    members.getD name default = members.get name := by
  unfold Dict.has at there
  obtain ⟨value,found⟩ := Option.isSome_iff_exists.mp there
  rw [Dict.getD,Dict.get,found,Option.getD_some,Option.getD_some]

theorem get_setMissing_other (other : wanted ≠ name) : (setMissing members name value).get wanted = members.get wanted := by
  unfold setMissing
  split
  · rfl
  · exact get_set_other other

theorem metaForStore_owner (body : PutRequest) (userId kind : String) : (metaForStore body userId kind).getD "user_id" (.str "episodic") =
      if body.meta_.has "user_id" then body.meta_.get "user_id" else .str userId := by
  have there : (setMissing body.meta_ "user_id" (.str userId)).has "user_id" = true := by
    unfold setMissing
    split
    · assumption
    · rw [Dict.has,Dict.set,lookup_store,if_pos rfl]
      rfl
  have kept : (setMissing (setMissing body.meta_ "user_id" (.str userId)) "kind" (.str kind)).has "user_id" = true := by
    rw [setMissing]
    split
    · exact there
    · exact has_set _ _ _ _ there
  rw [metaForStore,getD_eq (has_set _ _ _ _ (has_set _ _ _ _ (has_set _ _ _ _ kept))),get_set_other (by decide),get_set_other (by decide),
    get_set_other (by decide),get_setMissing_other (by decide),setMissing]
  split
  · rfl
  · rw [Dict.get,Dict.set,lookup_store,if_pos rfl,Option.getD_some]

theorem metaForStore_expires (body : PutRequest) (userId kind : String) :
    (metaForStore body userId kind).get "expires_at" = (lifecycle body).expiresAt := by
  rw [metaForStore,get_set_other (by decide),get_set]

section Stages
variable {server : Server} {body : PutRequest} {backend : Backend} {before : Value → Prop} {userId kind : String}

theorem normalize_episode (platform : Platform) (text : String) (tags : Value) (meta_ : Dict) (some_ : meta_ ≠ []) :
    normalizeDocumentLifecycle platform (.dict [(.str "text",.str text),(.str "tags",tags),(.str "meta",.dict meta_)]) =
      (lifecycleMeta platform meta_ >>= fun changed =>
        .ok (.dict (Dict.set [(.str "text",.str text),(.str "tags",tags),(.str "meta",.dict meta_)] "meta" (.dict changed)))) := by
  have whole : (if (Value.dict meta_).truthy then Value.dict meta_ else .dict []) = .dict meta_ := by
    cases meta_ with
    | nil => exact absurd rfl some_
    | cons member rest => rfl
  show (dictFrom (if (Value.dict meta_).truthy then Value.dict meta_ else .dict []) >>= _) = _
  rw [whole]
  rfl

theorem metaForStore_some (body : PutRequest) (userId kind : String) : metaForStore body userId kind ≠ [] := by
  intro none_
  have there : (metaForStore body userId kind).has "legal_hold" = true := by
    rw [metaForStore,Dict.has,Dict.set,lookup_store,if_pos rfl]
    rfl
  rw [none_] at there
  cases there

variable {error : Exc}

theorem putEpisodeRecord_refused {text : String} {tags : Value} {meta_ : Dict} (some_ : meta_ ≠ [])
    (refused : parseExpiresAt server.platform (meta_.get "expires_at") = .error error) :
    Keeps (handler backend) (Adds before userId) (putEpisodeRecord server.platform text tags meta_) := by
  unfold putEpisodeRecord
  refine keeps_bind (keeps_request Op.clock clock_adds) fun now => ?_
  refine keeps_bind (fun store adds => ?_) fun _ => ?_
  · rw [run_put,normalize_episode _ _ _ _ some_,lifecycleMeta,refused]
    exact adds
  · exact keeps_bind (keeps_request (Op.vectorAdd _ _ _ _) fun store adds => adds) fun _ => keeps_pure _

theorem vectorStage_adds (quiet : strip body.text = "" ∨ body.meta_.has "user_id" = false ∨ body.meta_.get "user_id" = .str userId ∨
      ∃ error, parseExpiresAt server.platform (lifecycle body).expiresAt = .error error) :
    Keeps (handler backend) (Adds before userId) (vectorStage server body userId kind) := by
  unfold vectorStage
  split
  · exact keeps_pure _
  · rename_i spoken
    refine keeps_bind (keeps_attempt ?_) fun outcome => ?_
    · rcases quiet with silent | unnamed | own | ⟨error,refused⟩
      · exact absurd silent spoken
      · exact putEpisodeRecord_adds (by rw [metaForStore_owner,unnamed]; rfl)
      · refine putEpisodeRecord_adds ?_
        rw [metaForStore_owner,own,ite_self]
      · have late : parseExpiresAt server.platform ((metaForStore body userId kind).get "expires_at") = .error error := by
          rw [metaForStore_expires,refused]
        exact putEpisodeRecord_refused (metaForStore_some body userId kind) late
    · cases outcome <;> exact keeps_pure _

theorem legacyStage_escapes (truthy : body.value.truthy = true)
    (refused : normalizeDocumentLifecycle server.platform body.value = .error error) (escapes : isRouteException error = false)
    (key : String) (store : Store) :
    run (handler backend) (legacyStage server userId key body.value >>= caught) store = (.error error,store) := by
  have notType : error.kind ≠ .typeError := by
    intro same
    rw [isRouteException,same] at escapes
    cases escapes
  have raised : run (handler backend) (put server.platform (.str userId) (.str key) body.value) store = (.error error,store) := by
    rw [run_put,refused]
  have stored : run (handler backend) (storePut server userId key body.value) store = (.error error,store) := by
    rw [storePut,run_bind,run_attempt,raised]
    dsimp only
    rw [if_pos notType]
    rfl
  rw [run_bind,legacyStage,if_pos truthy,run_bind,run_attempt,stored]
  show run (handler backend) (caught (.error error)) store = _
  rw [caught,if_neg (by rw [escapes]; decide)]
  rfl

theorem findRecord_error {userId key : Value} {data : List Value} (raised : findRecord userId key data = .error error) :
    isRouteException error = true := by
  induction data with
  | nil => cases raised
  | cons head rest ih =>
    rw [findRecord] at raised
    cases read : asRecord head with
    | error refused =>
      rw [read] at raised
      cases raised
      cases head <;> cases read <;> rfl
    | ok record =>
      rw [read] at raised
      dsimp only [bind,Except.bind] at raised
      split at raised
      · cases raised
      · cases later : findRecord userId key rest with
        | error other =>
          rw [later] at raised
          cases raised
          exact ih later
        | ok place =>
          rw [later] at raised
          cases raised

theorem put_error {userId key value : Value} {store final : Store}
    (raised : run (handler backend) (put server.platform userId key value) store = (.error error,final)) :
    normalizeDocumentLifecycle server.platform value = .error error ∨ isRouteException error = true := by
  rw [run_put] at raised
  cases refused : normalizeDocumentLifecycle server.platform value with
  | error other =>
    rw [refused] at raised
    cases raised
    exact .inl rfl
  | ok normalized =>
    rw [refused] at raised
    cases found : findRecord userId key (handler backend (.loadAll true) store).1 with
    | error other =>
      rw [found] at raised
      cases raised
      exact .inr (findRecord_error found)
    | ok place =>
      rw [found] at raised
      cases raised

theorem storePut_error {key : String} {value : Value} {store final : Store}
    (raised : run (handler backend) (storePut server userId key value) store = (.error error,final)) :
    normalizeDocumentLifecycle server.platform value = .error error ∨ isRouteException error = true := by
  rw [storePut,run_bind,run_attempt] at raised
  cases once : run (handler backend) (put server.platform (.str userId) (.str key) value) store with
  | mk outcome middle =>
    rw [once] at raised
    cases outcome with
    | ok done => cases raised
    | error first =>
      dsimp only at raised
      split at raised
      · cases raised
        exact put_error once
      · rw [run_bind,run_attempt] at raised
        cases twice : run (handler backend) (put server.platform (.str userId) (.str key) value) middle with
        | mk outcome last =>
          rw [twice] at raised
          cases outcome with
          | ok done => cases raised
          | error second =>
            dsimp only at raised
            split at raised
            · cases raised
              exact put_error twice
            · cases raised
              exact .inr rfl

theorem legacyStage_returns (userId : String) (backend : Backend) (stays : ¬ValueEscapes server body) (key : String) (store : Store) :
    ∃ outcome after, run (handler backend) (legacyStage server userId key body.value >>= caught) store = (.ok outcome,after) := by
  rw [run_bind,legacyStage]
  by_cases truthy : body.value.truthy = true
  · rw [if_pos truthy,run_bind,run_attempt]
    cases ran : run (handler backend) (storePut server userId key body.value) store with
    | mk outcome after =>
      cases outcome with
      | ok done => exact ⟨_,_,rfl⟩
      | error error =>
        have routed : isRouteException error = true := by
          rcases storePut_error ran with refused | routed
          · exact Bool.eq_true_of_not_eq_false fun escapes => stays ⟨truthy,error,refused,escapes⟩
          · exact routed
        refine ⟨.error error,after,?_⟩
        show run (handler backend) (caught (.error error)) after = _
        rw [caught,if_pos routed]
        rfl
  · rw [if_neg truthy]
    exact ⟨_,_,rfl⟩

theorem memoryKey_returns (backend : Backend) (given : Option String) (store : Store) :
    ∃ key after, run (handler backend) (memoryKey given) store = (.ok key,after) := by
  unfold memoryKey
  split
  · exact ⟨_,_,rfl⟩
  · exact ⟨_,_,rfl⟩

theorem run_caught {α : Type} (backend : Backend) (outcome : Except Exc α) (store : Store) : (run (handler backend) (caught outcome) store).2 = store := by
  cases outcome with
  | ok value => rfl
  | error error =>
    unfold caught
    dsimp only
    split <;> rfl

end Stages

variable {server : Server}

theorem memoryPut_adds {body : PutRequest} {apiKey : Option String} {backend : Backend} {before : Value → Prop}
    (quiet : ¬ForeignOwner server body apiKey) :
    Keeps (handler backend) (Adds before (resolveMemoryUserId server body.userId apiKey)) (memoryPut server body apiKey) := by
  unfold memoryPut
  split
  · exact keeps_pure _
  · rename_i available
    refine keeps_bind (memoryKey_adds _) fun key => ?_
    by_cases escapes : ValueEscapes server body
    · obtain ⟨truthy,error,refused,escapes⟩ := escapes
      intro store adds
      rw [run_bind,legacyStage_escapes truthy refused escapes]
      exact adds
    · refine keeps_bind (keeps_bind (legacyStage_adds key _) fun outcome => caught_keeps outcome) fun legacy => ?_
      refine keeps_bind (keeps_bind (vectorStage_adds ?_) fun outcome => caught_keeps outcome) fun vector => keeps_pure _
      by_contra loud
      push Not at loud
      obtain ⟨text,named,foreign,dated⟩ := loud
      have read : ∃ expires, parseExpiresAt server.platform (lifecycle body).expiresAt = .ok expires := by
        cases parsed : parseExpiresAt server.platform (lifecycle body).expiresAt with
        | error error => exact absurd parsed (dated error)
        | ok expires => exact ⟨expires,rfl⟩
      exact quiet ⟨by simpa using available,escapes,text,Bool.eq_true_of_not_eq_false named,foreign,read⟩

theorem findRecord_unowned (foreign : owner ≠ .str userId)
    (owned : ∀ record ∈ data, OwnedBy (.str userId) record) : findRecord owner key data = .ok none := by
  induction data with
  | nil => rfl
  | cons head rest ih =>
    obtain ⟨members,rfl,mine⟩ := owned head List.mem_cons_self
    have later := ih fun record listed => owned record (List.mem_cons_of_mem _ listed)
    have other : pyEq (Dict.get members "user_id") owner = false := by
      rw [(pyEq_str _ _).mp mine]
      refine Bool.eq_false_iff.mpr fun same => foreign ?_
      cases owner <;> simp_all [pyEq,Value.number]
    show (if pyEq (Dict.get members "user_id") owner && pyEq (Dict.get members "key") key then _ else _) = _
    rw [other,Bool.false_and,if_neg Bool.false_ne_true,later]
    rfl

theorem nothing_held (record : Value) : ¬Held {} record := by
  rintro (⟨time,listed⟩ | ⟨cached,same,listed⟩)
  · cases listed
  · cases same

theorem putEpisodeRecord_stores {text : String} {tags : Value} {meta_ : Dict} {owner : Value} {userId : String} {store : Store}
    (named : meta_.getD "user_id" (.str "episodic") = owner) (foreign : owner ≠ .str userId) (some_ : meta_ ≠ [])
    (dated : ∃ expires, parseExpiresAt server.platform (meta_.get "expires_at") = .ok expires)
    (owned : Adds (fun _ => False) userId store) :
    ∃ key value time, Held (run (handler calm) (putEpisodeRecord server.platform text tags meta_) store).2 (newRecord owner key value time) := by
  obtain ⟨expires,parsed⟩ := dated
  unfold putEpisodeRecord
  simp only [named,bind_request,clock,run]
  have timed : Adds (fun _ => False) userId (handler calm .clock store).2 := clock_adds store owned
  have loaded : ∀ record ∈ (handler calm (.loadAll true) (handler calm .clock store).2).1, OwnedBy (.str userId) record :=
    fun record listed => (timed record ((loadAll_held calm _ true).1 record listed)).resolve_left id
  rw [run_bind,run_put,normalize_episode _ _ _ _ some_,lifecycleMeta,parsed]
  simp only [bind,Except.bind]
  rw [findRecord_unowned foreign loaded]
  exact ⟨_,_,_,.inl ⟨.none,List.mem_append_right _ (List.mem_singleton_self _)⟩⟩

theorem memoryPut_final {body : PutRequest} {apiKey : Option String} {backend : Backend} {store first second : Store} {key : String}
    {legacy : Except Exc Bool} (available : server.storeAvailable = true) (text : strip body.text ≠ "")
    (keyed : run (handler backend) (memoryKey body.key) store = (.ok key,first))
    (saved : run (handler backend) (legacyStage server (resolveMemoryUserId server body.userId apiKey) key body.value >>= caught) first = (.ok legacy,second)) :
    ∃ kind, (run (handler backend) (memoryPut server body apiKey) store).2 =
      (run (handler backend) (putEpisodeRecord server.platform (server.redact (strip body.text)) (.list (body.tags.map .str))
        (metaForStore body (resolveMemoryUserId server body.userId apiKey) kind)) second).2 := by
  refine ⟨if validMemoryKinds.contains body.kind then body.kind else "semantic",?_⟩
  have same : memoryPut server body apiKey = (memoryKey body.key >>= fun key => _) := if_neg (by rw [available]; decide)
  rw [same,run_bind,keyed]
  dsimp only
  rw [run_bind,saved]
  dsimp only
  rw [run_bind,run_bind,vectorStage,if_neg text,run_bind,run_attempt]
  cases run (handler backend) (putEpisodeRecord server.platform (server.redact (strip body.text)) (.list (body.tags.map .str))
    (metaForStore body (resolveMemoryUserId server body.userId apiKey) (if validMemoryKinds.contains body.kind then body.kind else "semantic"))) second with
  | mk outcome last =>
    cases outcome with
    | ok episode => rfl
    | error error =>
      dsimp only [pure_eq,run]
      have stays := run_caught backend (.error error : Except Exc (Option String)) last
      cases ran : run (handler backend) (caught (.error error : Except Exc (Option String))) last with
      | mk outcome after =>
        rw [ran] at stays
        cases outcome <;> exact stays

theorem stores_own_exact (server : Server) (body : PutRequest) (apiKey : Option String) :
    StoresOwn server body apiKey ↔ ¬ForeignOwner server body apiKey := by
  constructor
  · intro own foreign
    have empty : Adds (fun _ => False) (resolveMemoryUserId server body.userId apiKey) ({} : Store) :=
      fun record held => absurd held (nothing_held record)
    obtain ⟨key,first,keyed⟩ := memoryKey_returns calm body.key {}
    have one := keeps_ran keyed (memoryKey_adds body.key) empty
    obtain ⟨legacy,second,saved⟩ := legacyStage_returns (resolveMemoryUserId server body.userId apiKey) calm foreign.reached key first
    have two := keeps_ran saved (keeps_bind (legacyStage_adds key body.value) fun outcome => caught_keeps outcome) one
    obtain ⟨kind,final⟩ := memoryPut_final foreign.available foreign.text keyed saved
    have named : (metaForStore body (resolveMemoryUserId server body.userId apiKey) kind).getD "user_id" (.str "episodic") =
        body.meta_.get "user_id" := by rw [metaForStore_owner,if_pos foreign.named]
    have dated : ∃ expires, parseExpiresAt server.platform ((metaForStore body (resolveMemoryUserId server body.userId apiKey) kind).get "expires_at") =
        .ok expires := by rw [metaForStore_expires]; exact foreign.dated
    obtain ⟨episode,value,time,held⟩ := putEpisodeRecord_stores named foreign.foreign (metaForStore_some _ _ _) dated two
    rw [← final] at held
    rcases own calm {} _ held with old | ⟨members,same,mine⟩
    · exact nothing_held _ old
    · cases same
      exact foreign.foreign ((pyEq_str _ _).mp mine)
  · intro quiet backend store
    exact memoryPut_adds quiet store fun record held => .inl held

def sampleServer : Server := ⟨samplePlatform,fun _ => "0f1e2d3c4b5a69788796a5b4c3d2e1f0",id,true⟩

def spoofedRequest : PutRequest :=
  ⟨none,some "note","hello",[],.dict [],"episodic",none,[(.str "user_id",.str "key_victim")],none,false⟩

def spoofedRecord : Value :=
  newRecord (.str "key_victim") (.str "episode_0") (.dict [(.str "text",.str "hello"),(.str "tags",.list []),(.str "meta",.dict
    [(.str "user_id",.str "key_victim"),(.str "kind",.str "episodic"),(.str "retention_class",.str "standard"),(.str "expires_at",.none),
     (.str "legal_hold",.bool false)])]) (.int 0)

theorem metadata_owner_stored : ¬StoresOwn sampleServer spoofedRequest (some "secret") := by
  intro own
  have stored : (run (handler calm) (memoryPut sampleServer spoofedRequest (some "secret")) {}).2.content = .json (.list [spoofedRecord]) := by
    decide +kernel
  have held : Held (run (handler calm) (memoryPut sampleServer spoofedRequest (some "secret")) {}).2 spoofedRecord := by
    refine .inl ⟨.none,?_⟩
    rw [stored]
    exact List.mem_singleton_self _
  rcases own calm {} spoofedRecord held with old | ⟨members,same,mine⟩
  · exact nothing_held _ old
  · cases same
    exact absurd mine (by decide +kernel)

end VeritasOs.MemoryRoute
