import VeritasOs.MemoryErase
import VeritasOs.MemorySearch

namespace VeritasOs.MemoryRuns
open Text JsonText BindArtifacts Interaction PolicyBundle MemoryStore MemorySearch MemoryErase

structure Document where
  id : String
  kind : String
  text : String
  tags : Value
  meta_ : Dict
  ts : Value

structure Index where
  documents : List Document := []
  counter : Nat := 0

structure World where
  store : Store := {}
  index : Index := {}

-- The surroundings: the files, the clock and the floats, whether an embedding model is loaded,
-- the steps at which it fails, and how similar it finds two texts.
structure Setting where
  platform : Platform
  backend : Backend
  model : Bool
  encodeFault : Nat → Bool
  similarity : String → String → ℚ
  -- Whether an expiry has passed at a time.
  passed : String → Value → Bool
  -- a < b for the times of two records, unless they cannot be compared.
  before : Value → Value → Option Bool

def Index.add (index : Index) (now : Clock) (kind text : String) (tags : Value) (meta_ : Dict) : Index :=
  ⟨index.documents ++ [⟨kind ++ "_" ++ intStr (index.counter + 1) ++ "_" ++ intStr now.seconds,kind,text,
    if tags.truthy then tags else .list [],meta_,now.time⟩],index.counter + 1⟩

def documentHit (platform : Platform) (document : Document) (similarity : ℚ) : Dict :=
  [(.str "id",.str document.id),(.str "text",.str document.text),(.str "score",.float (platform.floatOf similarity)),
   (.str "kind",.str document.kind),(.str "tags",document.tags),(.str "meta",.dict document.meta_),(.str "ts",document.ts)]

def sliceTo (limit : Int) (items : List α) : List α := items.take (if 0 ≤ limit then limit else items.length + limit).toNat

def ofKind (kinds : Option (List Value)) (document : Document) : Bool :=
  (kinds.map fun kinds => kinds.isEmpty || kinds.any (pyEq (.str document.kind))).getD true

-- VectorMemory.search; a threshold that is no number raises inside its try.
def Index.search (setting : Setting) (index : Index) (search : Query) : List Dict :=
  match search.minSim with
  | none => []
  | some minSim =>
    if !setting.model || strip search.query = "" then []
    else
      let scored := index.documents.map fun document => (setting.similarity search.query document.text,document)
      let found := scored.filter fun entry => !decide (entry.1 < minSim) && ofKind search.kinds entry.2
      let ordered := found.insertionSort fun a b => b.1 ≤ a.1
      sliceTo search.k (ordered.map fun entry => documentHit setting.platform entry.2 entry.1)

def Index.vector (setting : Setting) (index : Index) : Vector where
  search search := .ok (.list ((index.search setting search).map .dict))
  oldSearch query k := .ok (.list ((index.search setting { query,k }).map .dict))

def worldHandler (setting : Setting) : Handler Ans World
  | .vectorAdd kind text tags meta_,world =>
    let after := (handler setting.backend (.vectorAdd kind text tags meta_) world.store).2
    if !setting.model || strip text = "" || setting.encodeFault world.store.steps then ((),⟨after,world.index⟩)
    else ((),⟨after,world.index.add (setting.backend.clock world.store.steps) kind text tags meta_⟩)
  | op,world => ((handler setting.backend op world.store).1,⟨(handler setting.backend op world.store).2,world.index⟩)

section Reading
variable (setting : Setting)

def isRecordExpired (record : Dict) (time : Value) : Except Exc Bool :=
  match orEmpty (record.get "value") with
  | .dict value =>
    match orEmpty (Dict.get value "meta") with
    | .dict meta_ =>
      if legalHold (Dict.getD meta_ "legal_hold" (.bool false)) then .ok false
      else do
        match ← parseExpiresAt setting.platform (Dict.get meta_ "expires_at") with
        | .str expiresAt => .ok (setting.passed expiresAt time)
        | _ => .ok false
    | _ => .ok false
  | _ => .ok false

-- The clock is read for each record.
def current : List Value → Memory (List Dict)
  | [] => return []
  | head :: rest => do
    let record ← lift (asRecord head)
    let now ← clock
    let expired ← lift (isRecordExpired setting record now.time)
    let others ← current rest
    return if expired then others else record :: others

def listAll (userId : Option String) : Memory (List Dict) := do
  let data ← loadAll true
  let records ← current setting data
  match userId with
  | some userId => return records.filter (ownedBy userId)
  | none => return records

def findValue (userId key : Value) : List Value → Memory Value
  | [] => return .none
  | head :: rest => do
    let record ← lift (asRecord head)
    if pyEq (record.get "user_id") userId && pyEq (record.get "key") key then do
      let now ← clock
      let expired ← lift (isRecordExpired setting record now.time)
      return if expired then .none else record.get "value"
    else findValue userId key rest

def get (userId key : Value) : Memory Value := do
  let data ← loadAll true
  findValue setting userId key data

def extractRecordText (record : Dict) : String :=
  match record.get "value" with
  | .dict value => (Dict.get value "query").orStr ((Dict.get value "text").orStr "")
  | other => other.orStr ""

-- sorted(items, key=time, reverse=True): texts and numbers cannot be compared.
def newestFirst (time : α → Value) (items : List α) : Except Exc (List α) :=
  if items.length ≤ 1 || items.all fun a => items.all fun b => (setting.before (time a) (time b)).isSome then
    .ok (items.insertionSort fun a b => setting.before (time a) (time b) ≠ some true)
  else .error (typeError "'<' not supported between instances")

def filterRecentRecords (items : List Dict) (contains : Option String) (limit : Int) : Except Exc (List Dict) := do
  let ordered ← newestFirst setting (fun record : Dict => record.getD "ts" (.int 0)) items
  match contains with
  | none => .ok (sliceTo limit ordered)
  | some text =>
    if text = "" then .ok (sliceTo limit ordered)
    else .ok (sliceTo limit (ordered.filter fun record => hasSub (strip text) (extractRecordText record)))

def recent (userId : String) (limit : Int) (contains : Option String) : Memory (List Dict) := do
  let items ← listAll setting (some userId)
  lift (filterRecentRecords setting items contains limit)

end Reading

structure AddRequest where
  userId : String
  text : String
  kind : String := "note"
  sourceLabel : Option String := none
  meta_ : Dict := []
  tags : Value := .none
  suffix : String

def setDefault (members : Dict) (name : String) (value : Value) : Dict := if members.has name then members else members.set name value

def entryMeta (request : AddRequest) : Dict :=
  let named := setDefault request.meta_ "user_id" (.str request.userId)
  match request.sourceLabel with
  | some label => setDefault named "source_label" (.str label)
  | none => named

def orList (value : Value) : Value := if value.truthy then value else .list []

def addedRecord (request : AddRequest) : Dict :=
  [(.str "kind",.str request.kind),(.str "text",.str request.text),(.str "tags",orList request.tags),(.str "meta",.dict (entryMeta request))]

section Writing
variable (setting : Setting)

-- A put that fails is logged.
def add (request : AddRequest) : Memory Dict :=
  if strip request.text = "" then .fail (valueError "[MemoryOS.add] text is empty")
  else do
    let now ← clock
    let key := request.kind ++ "_" ++ intStr now.seconds ++ "_" ++ request.suffix
    let _ ← put setting.platform (.str request.userId) (.str key) (.dict (addedRecord request))
    vectorAdd request.kind request.text (orList request.tags) (entryMeta request)
    return addedRecord request

def strippedText (document : Dict) : Except Exc String :=
  match document.get "text" with
  | .str text => .ok (strip text)
  | other => if other.truthy then .error (attributeError (typeName other ++ " object has no attribute 'strip'")) else .ok ""

-- text or json.dumps(doc, ensure_ascii=False); what cannot be encoded is not indexed.
def indexedText (text : String) (document : Dict) : Option String :=
  if text ≠ "" then some text else (toJson false (.dict document)).map (dumps spaced)

def indexDocument (kind text : String) (document meta_ : Dict) : Memory Unit :=
  match indexedText text document with
  | some base => vectorAdd kind base (orList (document.get "tags")) meta_
  | none => return ()

-- put(kind, document). Metadata that is no dict stops the index quietly and the store with an exception.
def putDocument (kind : String) (document : Dict) : Memory Bool := do
  let text ← lift (strippedText document)
  if text = "" ∧ document = [] then return false
  else
    let meta_ ← lift (asRecord (orEmpty (document.get "meta")))
    let kind := if kind = "" then "semantic" else kind
    indexDocument kind text document meta_
    let now ← clock
    put setting.platform (meta_.getD "user_id" (.str kind)) (.str (kind ++ "_" ++ intStr now.seconds)) (.dict document)

def eraseUser (request : EraseRequest) (clock : EraseClock) : Memory Dict := do
  let data ← loadAll false
  let (kept,report) ← lift (eraseUserData data request clock)
  let saved ← saveAll kept
  return report.set "ok" (.bool saved)

structure Episode where
  sourceKey : Value
  text : String
  tags : Value
  ts : Value

-- What set() makes of the tags of an episode.
def tagItems : Value → Except Exc (List Value)
  | .list items =>
    if items.any fun item => item matches .list _ | .dict _ then .error (typeError "unhashable type") else .ok items
  | .str text => .ok (text.toList.map fun c => .str (String.ofList [c]))
  | .dict members => .ok (members.map fun member => keyValue member.1)
  | other => .error (typeError (typeName other ++ " object is not iterable"))

def sharesTag (tags : List String) (episodeTags : Value) : Except Exc Bool :=
  if tags = [] then .ok true
  else do
    let items ← tagItems episodeTags
    .ok (items.any fun item => tags.any fun tag => pyEq item (.str tag))

def episodeOf (minTextLen : Int) (tags : List String) (now : Clock) (record : Dict) : Except Exc (Option Episode) :=
  match orEmpty (record.get "value") with
  | .dict value =>
    let text := strip ((Dict.get value "text").orStr "")
    if (Dict.get value "kind").orStr "episodic" ≠ "episodic" ∨ (text.length : Int) < minTextLen then .ok none
    else do
      let episodeTags := orList (Dict.get value "tags")
      let shares ← sharesTag tags episodeTags
      let ts := if (record.get "ts").truthy then record.get "ts" else now.time
      .ok (if shares then some ⟨record.get "key",text,episodeTags,ts⟩ else none)
  | _ => .ok none

def collectEpisodicRecords (minTextLen : Int) (tags : List String) (now : Clock) (records : List Dict) : Except Exc (List Episode) := do
  let episodes ← records.mapM (episodeOf minTextLen tags now)
  newestFirst setting Episode.ts episodes.reduceOption

def choiceContent (response : Dict) : Value :=
  match response.get "choices" with
  | .list (.dict choice :: _) =>
    match Dict.get choice "message" with
    | .dict message => Dict.get message "content"
    | _ => .none
  | _ => .none

def extractSummaryText : Value → String
  | .dict response =>
    if (choiceContent response).truthy then strip (choiceContent response).text
    else ((["text","content","output"].find? fun name => (Dict.get response name).truthy).map fun name =>
      strip (Dict.get response name).text).getD ""
  | .str text => strip text
  | _ => ""

structure DistillRequest where
  userId : String
  maxItems : Int := 200
  minTextLen : Int := 10
  tags : List String := []
  response : Except Exc Value
  createdAt : String

def semanticDocument (request : DistillRequest) (summary : String) (episodes : List Episode) : Dict :=
  [(.str "kind",.str "semantic"),(.str "text",.str summary),(.str "tags",strList (request.tags ++ ["memory_distill","summary","long_term"])),
   (.str "meta",.dict [(.str "user_id",.str request.userId),(.str "source",.str "distill_memory_for_user"),
     (.str "source_episode_keys",strList ((episodes.filter fun episode => episode.sourceKey.truthy).map fun episode => episode.sourceKey.text)),
     (.str "item_count",.int episodes.length),(.str "created_at",.str request.createdAt)])]

def distill (request : DistillRequest) : Memory (Option Dict) := do
  match ← attempt (listAll setting (some request.userId)) with
  | .error error => if error.handled then return none else .fail error
  | .ok records =>
    let now ← clock
    let episodic ← lift (collectEpisodicRecords setting request.minTextLen request.tags now records)
    if episodic = [] then return none
    else
      match request.response with
      | .error error => if error.handled then return none else .fail error
      | .ok response =>
        let summary := extractSummaryText response
        let document := semanticDocument request summary (sliceTo request.maxItems episodic)
        if summary = "" then return none
        else
          let saved ← putDocument setting "semantic" document
          return if saved then some document else none

end Writing

inductive Request where
  | add (request : AddRequest)
  | put (userId key value : Value)
  | putDocument (kind : String) (document : Dict)
  | putEpisode (text : String) (tags : Value) (meta_ : Dict)
  | search (query : Query)
  | get (userId key : Value)
  | listAll (userId : Option String)
  | recent (userId : String) (limit : Int) (contains : Option String)
  | distill (request : DistillRequest)
  | eraseUser (request : EraseRequest) (clock : EraseClock)

-- What a read gives back; of a write only that it is over.
inductive Reply where
  | value (value : Value)
  | records (records : List Dict)
  | hits (hits : List Dict)
  | written

def Request.program (setting : Setting) (index : Index) : Request → Memory Reply
  | .add request => do let _ ← MemoryRuns.add setting request; return .written
  | .put userId key value => do let _ ← MemoryStore.put setting.platform userId key value; return .written
  | .putDocument kind document => do let _ ← MemoryRuns.putDocument setting kind document; return .written
  | .putEpisode text tags meta_ => do let _ ← putEpisodeRecord setting.platform text tags meta_; return .written
  | .search query => do let hits ← searchMemory setting.platform (some (index.vector setting)) query; return .hits hits
  | .get userId key => do let value ← MemoryRuns.get setting userId key; return .value value
  | .listAll userId => do let records ← MemoryRuns.listAll setting userId; return .records records
  | .recent userId limit contains => do let records ← MemoryRuns.recent setting userId limit contains; return .records records
  | .distill request => do let _ ← MemoryRuns.distill setting request; return .written
  | .eraseUser request clock => do let _ ← MemoryRuns.eraseUser request clock; return .written

def step (setting : Setting) (world : World) (request : Request) : Except Exc Reply × World :=
  run (worldHandler setting) (request.program setting world.index) world

def serve (setting : Setting) : List Request → World → List (Except Exc Reply)
  | [],_ => []
  | request :: rest,world => (step setting world request).1 :: serve setting rest (step setting world request).2

def valueText : Value → String
  | .dict document => strip ((Dict.get document "text").orStr ((Dict.get document "query").orStr ""))
  | other => strip (other.orStr "")

def recordText : Value → String
  | .dict record => valueText (Dict.get record "value")
  | _ => ""

def hitText (hit : Dict) : String := strip ((hit.get "text").orStr "")

def Shows (t : String) : Reply → Prop
  | .value value => valueText value = t
  | .records records => ∃ record ∈ records, recordText (.dict record) = t
  | .hits hits => ∃ hit ∈ hits, hitText hit = t
  | .written => False

-- The request stores the text, in the store or in the index.
def Stores (t : String) : Request → Prop
  | .add request => strip request.text = t
  | .put _ _ value => valueText value = t
  | .putDocument _ document => valueText (.dict document) = t ∨
      ∃ text base, strippedText document = .ok text ∧ indexedText text document = some base ∧ strip base = t
  | .putEpisode text _ _ => strip text = t
  | .distill request => ∃ response, request.response = .ok response ∧ extractSummaryText response = t
  | .eraseUser _ _ => t = "memory erase executed"
  | _ => False

structure Free (t : String) (world : World) : Prop where
  store : ∀ record, Held world.store record → recordText record ≠ t
  index : ∀ document ∈ world.index.documents, strip document.text ≠ t

section Free
variable {setting : Setting} {t : String}

theorem loadAll_free (useCache : Bool) :
    Ensures (worldHandler setting) (Free t) (fun data => ∀ record ∈ data, recordText record ≠ t) (loadAll useCache) := by
  refine ensures_request fun world free => ?_
  obtain ⟨read,kept⟩ := loadAll_held setting.backend world.store useCache
  exact ⟨⟨fun record held => free.store record (kept record held),free.index⟩,fun record listed => free.store record (read record listed)⟩

theorem clock_free : Ensures (worldHandler setting) (Free t) (fun _ => True) clock :=
  ensures_request fun _ free => ⟨⟨free.store,free.index⟩,trivial⟩

variable {data : List Value} {kind text : String} {meta_ : Dict} {platform : Platform} {value userId key : Value} {s : String}
variable {document : Dict} {limit : Int} {search : Query} {index : Index}

theorem saveAll_free (none_ : ∀ record ∈ data, recordText record ≠ t) :
    Ensures (worldHandler setting) (Free t) (fun _ => True) (saveAll data) := by
  refine ensures_request fun world free => ⟨⟨fun record held => ?_,free.index⟩,trivial⟩
  rcases saveAll_held held with old | new
  · exact free.store record old
  · exact none_ record new

theorem vectorAdd_free (other : strip text ≠ t) :
    Ensures (worldHandler setting) (Free t) (fun _ => True) (vectorAdd kind text tags meta_) := by
  refine ensures_request fun world free => ⟨?_,trivial⟩
  unfold worldHandler
  dsimp only
  split
  · exact ⟨free.store,free.index⟩
  · refine ⟨free.store,fun document listed => ?_⟩
    rcases List.mem_append.mp listed with old | new
    · exact free.index document old
    · rw [List.mem_singleton.mp new]
      exact other

theorem normalize_text (done : normalizeDocumentLifecycle platform value = .ok normalized) : valueText normalized = valueText value := by
  unfold normalizeDocumentLifecycle at done
  split at done
  · rename_i members
    split at done
    · obtain ⟨meta_,_,done⟩ := bind_ok.mp done
      obtain ⟨changed,_,done⟩ := bind_ok.mp done
      cases done
      rw [valueText,get_set_other (by decide),get_set_other (by decide),valueText]
    · cases done
      rfl
  · cases done
    rfl

theorem newRecord_text (userId key value time : Value) : recordText (newRecord userId key value time) = valueText value := rfl

theorem putRecord_free (none_ : ∀ record ∈ data, recordText record ≠ t) (other : valueText value ≠ t) :
    ∀ record ∈ putRecord userId key value time place data, recordText record ≠ t := by
  intro record listed
  cases place with
  | none =>
    rcases List.mem_append.mp listed with old | new
    · exact none_ record old
    · rw [List.mem_singleton.mp new,newRecord_text]
      exact other
  | some index =>
    obtain ⟨position,at_⟩ := List.mem_iff_getElem?.mp listed
    rw [putRecord,List.getElem?_modify] at at_
    cases there : data[position]? with
    | none =>
      rw [there] at at_
      cases at_
    | some old =>
      have kept := none_ old (List.mem_of_getElem? there)
      rw [there] at at_
      split at at_
      · obtain rfl : rewriteRecord value time old = record := Option.some.inj at_
        cases old with
        | dict members =>
          rw [rewriteRecord,recordText,get_set_other (by decide),get_set]
          exact other
        | _ => exact kept
      · obtain rfl : old = record := Option.some.inj at_
        exact kept

theorem put_free (other : valueText value ≠ t) :
    Ensures (worldHandler setting) (Free t) (fun _ => True) (put setting.platform userId key value) := by
  refine ensures_bind (ensures_lift fun _ done => done) fun normalized done => ?_
  refine ensures_bind (loadAll_free true) fun data none_ => ?_
  refine ensures_bind (ensures_lift fun _ _ => trivial) fun place _ => ?_
  refine ensures_bind clock_free fun now _ => ?_
  exact saveAll_free (putRecord_free none_ (by rw [normalize_text done]; exact other))

theorem str_orStr (some_ : s ≠ "") (default : String) : (Value.str s).orStr default = s := by
  have truthy : (Value.str s).truthy = true := by simpa [Value.truthy] using some_
  rw [Value.orStr,truthy,if_pos rfl,Value.text]

theorem strip_ne (some_ : strip s ≠ "") : s ≠ "" := by
  rintro rfl
  exact some_ rfl

theorem valueText_text (text : document.get "text" = .str s) (some_ : s ≠ "") : valueText (.dict document) = strip s := by
  rw [valueText,text,str_orStr some_]

theorem add_free {request : AddRequest} (other : strip request.text ≠ t) :
    Ensures (worldHandler setting) (Free t) (fun _ => True) (MemoryRuns.add setting request) := by
  unfold MemoryRuns.add
  split
  · exact ensures_fail _
  · rename_i some_
    refine ensures_bind clock_free fun now _ => ?_
    refine ensures_bind (put_free ?_) fun _ _ => ?_
    · rw [valueText_text rfl (strip_ne some_)]
      exact other
    · exact ensures_bind (vectorAdd_free other) fun _ _ => ensures_pure trivial

theorem putEpisode_free (some_ : t ≠ "") (other : strip text ≠ t) :
    Ensures (worldHandler setting) (Free t) (fun _ => True) (putEpisodeRecord setting.platform text tags meta_) := by
  refine ensures_bind clock_free fun now _ => ?_
  refine ensures_bind (put_free ?_) fun _ _ => ?_
  · by_cases blank : text = ""
    · subst blank
      exact fun same => some_ (same.symm.trans rfl)
    · rw [valueText_text rfl blank]
      exact other
  · exact ensures_bind (vectorAdd_free other) fun _ _ => ensures_pure trivial

theorem indexDocument_free (other : ∀ base, indexedText text document = some base → strip base ≠ t) :
    Ensures (worldHandler setting) (Free t) (fun _ => True) (indexDocument kind text document meta_) := by
  unfold indexDocument
  split
  · rename_i base named
    exact vectorAdd_free (other base named)
  · exact ensures_pure trivial

theorem putDocument_free (other : ¬Stores t (.putDocument kind document)) :
    Ensures (worldHandler setting) (Free t) (fun _ => True) (MemoryRuns.putDocument setting kind document) := by
  obtain ⟨whole,indexed⟩ := not_or.mp other
  refine ensures_bind (ensures_lift fun _ read => read) fun text read => ?_
  dsimp only
  split
  · exact ensures_pure trivial
  · refine ensures_bind (ensures_lift fun _ _ => trivial) fun meta_ _ => ?_
    refine ensures_bind (indexDocument_free fun base named same => indexed ⟨text,base,read,named,same⟩) fun _ _ => ?_
    exact ensures_bind clock_free fun now _ => put_free whole

theorem auditRecord_text (request : EraseRequest) (clock : EraseClock) (report : Dict) :
    recordText (auditRecord request clock report) = "memory erase executed" := by
  rw [auditRecord,newRecord_text,valueText_text rfl (by decide)]
  decide +kernel

theorem eraseUser_free {request : EraseRequest} {clock : EraseClock} (other : t ≠ "memory erase executed") :
    Ensures (worldHandler setting) (Free t) (fun _ => True) (MemoryRuns.eraseUser request clock) := by
  refine ensures_bind (loadAll_free false) fun data none_ => ?_
  refine ensures_bind (ensures_lift fun _ done => done) fun (kept,report) done => ?_
  refine ensures_bind (saveAll_free fun record listed => ?_) fun _ _ => ensures_pure trivial
  obtain ⟨found,_,made⟩ := bind_ok.mp done
  cases made
  rcases List.mem_append.mp listed with old | audit
  · exact none_ record (List.mem_of_mem_filter old)
  · rw [List.mem_singleton.mp audit,auditRecord_text]
    exact other.symm

theorem current_free (none_ : ∀ record ∈ data, recordText record ≠ t) :
    Ensures (worldHandler setting) (Free t) (fun records => ∀ record ∈ records, recordText (.dict record) ≠ t) (current setting data) := by
  induction data with
  | nil => exact ensures_pure nofun
  | cons head rest ih =>
    obtain ⟨first,later⟩ := List.forall_mem_cons.mp none_
    refine ensures_bind (ensures_lift fun _ read => read) fun record read => ?_
    refine ensures_bind clock_free fun now _ => ?_
    refine ensures_bind (ensures_lift fun _ _ => trivial) fun expired _ => ?_
    refine ensures_bind (ih later) fun others rest_ => ensures_pure ?_
    have same : head = .dict record := by
      cases head <;> simp_all [asRecord]
    cases expired with
    | true => exact rest_
    | false => exact List.forall_mem_cons.mpr ⟨same ▸ first,rest_⟩

theorem listAll_free {userId : Option String} :
    Ensures (worldHandler setting) (Free t) (fun records => ∀ record ∈ records, recordText (.dict record) ≠ t) (MemoryRuns.listAll setting userId) := by
  refine ensures_bind (loadAll_free true) fun data none_ => ?_
  refine ensures_bind (current_free none_) fun records free => ?_
  cases userId with
  | none => exact ensures_pure free
  | some userId => exact ensures_pure fun record listed => free record (List.mem_of_mem_filter listed)

theorem findValue_free (some_ : t ≠ "") (none_ : ∀ record ∈ data, recordText record ≠ t) :
    Ensures (worldHandler setting) (Free t) (fun value => valueText value ≠ t) (findValue setting userId key data) := by
  have nothing : valueText .none ≠ t := fun same => some_ (same.symm.trans rfl)
  induction data with
  | nil => exact ensures_pure nothing
  | cons head rest ih =>
    obtain ⟨first,later⟩ := List.forall_mem_cons.mp none_
    refine ensures_bind (ensures_lift fun _ read => read) fun record read => ?_
    have same : head = .dict record := by
      cases head <;> simp_all [asRecord]
    split
    · refine ensures_bind clock_free fun now _ => ?_
      refine ensures_bind (ensures_lift fun _ _ => trivial) fun expired _ => ensures_pure ?_
      cases expired with
      | true => exact nothing
      | false =>
        rw [same] at first
        exact first
    · exact ih later

theorem get_free (some_ : t ≠ "") :
    Ensures (worldHandler setting) (Free t) (fun value => valueText value ≠ t) (MemoryRuns.get setting userId key) :=
  ensures_bind (loadAll_free true) fun _ none_ => findValue_free some_ none_

theorem sliceTo_subset {α : Type} {items : List α} {item : α} (listed : item ∈ sliceTo limit items) : item ∈ items :=
  List.mem_of_mem_take listed

theorem newestFirst_subset {α : Type} {time : α → Value} {items ordered : List α} (sorted : newestFirst setting time items = .ok ordered) :
    ∀ item ∈ ordered, item ∈ items := by
  unfold newestFirst at sorted
  split at sorted
  · cases sorted
    exact fun item listed => (List.perm_insertionSort _ _).mem_iff.mp listed
  · cases sorted

theorem filterRecentRecords_subset {items found : List Dict} {contains : Option String}
    (done : filterRecentRecords setting items contains limit = .ok found) : ∀ record ∈ found, record ∈ items := by
  obtain ⟨ordered,sorted,done⟩ := bind_ok.mp done
  have among := newestFirst_subset sorted
  intro record listed
  cases contains with
  | none =>
    cases done
    exact among record (sliceTo_subset listed)
  | some text =>
    dsimp only at done
    split at done
    · cases done
      exact among record (sliceTo_subset listed)
    · cases done
      exact among record (List.mem_of_mem_filter (sliceTo_subset listed))

theorem recent_free {userId : String} {contains : Option String} :
    Ensures (worldHandler setting) (Free t) (fun records => ∀ record ∈ records, recordText (.dict record) ≠ t)
      (MemoryRuns.recent setting userId limit contains) :=
  ensures_bind listAll_free fun _ free =>
    ensures_lift fun _ done record listed => free record (filterRecentRecords_subset done record listed)

theorem recordHit_text (found : recordHit platform search value = .ok (some (score,hit))) : hitText hit = recordText value := by
  obtain ⟨record,read,found⟩ := bind_ok.mp found
  have same : value = .dict record := by
    cases value <;> simp_all [asRecord]
  rw [same]
  dsimp only at found
  split at found
  · cases found
  · split at found
    · rename_i document held
      split at found
      · cases found
      · rename_i plain
        split at found
        · cases found
        · cases found
          have text := (not_or.mp plain).1
          have whole : record.get "value" = .dict document := by
            split at held
            · exact held
            · cases held
              exact absurd rfl text
          rw [recordText,whole,valueText,hitText]
          exact (congrArg strip (str_orStr text "")).trans (strip_strip _)
    · cases found

theorem buildKvsSearchHits_text (built : buildKvsSearchHits platform search records = .ok hits) :
    ∀ hit ∈ hits, ∃ record ∈ records, hitText hit = recordText record := by
  unfold buildKvsSearchHits at built
  split at built
  · cases built
    exact nofun
  · obtain ⟨scored,mapped,made⟩ := bind_ok.mp built
    cases made
    intro hit listed
    obtain ⟨⟨score,_⟩,sorted,rfl⟩ := List.mem_map.mp (List.mem_of_mem_take listed)
    have member := List.reduceOption_mem_iff.mp ((List.perm_insertionSort _ _).mem_iff.mp sorted)
    obtain ⟨record,there,found⟩ := mapM_member mapped _ member
    exact ⟨record,there,recordHit_text found⟩

theorem searchRecords_free : Ensures (worldHandler setting) (Free t) (fun found => ∀ hit ∈ normalizeStoreHits found, hitText hit ≠ t)
      (searchRecords setting.platform search) := by
  refine ensures_bind (loadAll_free true) fun data none_ => ?_
  refine ensures_bind (ensures_lift fun _ built => built) fun episodic built => ensures_pure ?_
  intro hit listed
  rw [normalizeStoreHits_found] at listed
  obtain ⟨record,there,same⟩ := buildKvsSearchHits_text built hit listed
  rw [same]
  exact none_ record there

theorem storeHits_free :
    Ensures (worldHandler setting) (Free t) (fun hits => ∀ hit ∈ hits, hitText hit ≠ t) (storeHits setting.platform search) :=
  ensures_bind searchRecords_free fun _ free => ensures_lift fun _ done hit listed => free hit (dedupFrom_subset done hit listed)

theorem newSignature_subset (done : newSignature search raw = .ok (some unique)) : ∀ hit ∈ unique, hit ∈ collectCandidateHits raw := by
  unfold newSignature at done
  dsimp only at done
  split at done
  · cases done
  · obtain ⟨filtered,kept,done⟩ := bind_ok.mp done
    obtain ⟨unique,deduped,same⟩ := bind_ok.mp done
    cases same
    intro hit listed
    have among := dedupFrom_subset deduped hit listed
    split at among
    · exact among
    · unfold filterHitsForUser at kept
      split at kept
      · cases kept
        exact among
      · exact (((keepHits_ok kept).2 hit).mp among).1

theorem vectorHits_subset (done : vectorHits (index.vector setting) search = .ok (some hits)) :
    ∀ hit ∈ hits, hit ∈ index.search setting search := by
  have asked : (index.vector setting).search search >>= newSignature search =
      newSignature search (.list ((index.search setting search).map .dict)) := rfl
  rw [vectorHits,asked] at done
  cases outcome : newSignature search (.list ((index.search setting search).map .dict)) with
  | ok result =>
    rw [outcome] at done
    cases done
    intro hit listed
    have candidate := newSignature_subset outcome hit listed
    rwa [collectCandidateHits,dictsOf_dicts] at candidate
  | error error =>
    rw [outcome] at done
    dsimp only at done
    rw [raises_newSignature _ error outcome,if_neg (by decide)] at done
    exact absurd done fallBack_none

theorem indexHit_text {hit : Dict} (listed : hit ∈ index.search setting search) :
    ∃ document ∈ index.documents, hitText hit = strip document.text := by
  unfold Index.search at listed
  split at listed
  · cases listed
  · split at listed
    · cases listed
    · obtain ⟨⟨similarity,document⟩,sorted,rfl⟩ := List.mem_map.mp (sliceTo_subset listed)
      have found := List.mem_of_mem_filter ((List.perm_insertionSort _ _).mem_iff.mp sorted)
      obtain ⟨_,there,same⟩ := List.mem_map.mp found
      cases same
      refine ⟨document,there,?_⟩
      by_cases blank : document.text = ""
      · rw [blank]
        show strip ((Value.str document.text).orStr "") = strip ""
        rw [blank]
        rfl
      · exact congrArg strip (str_orStr blank "")

theorem search_free (free : ∀ document ∈ index.documents, strip document.text ≠ t) :
    Ensures (worldHandler setting) (Free t) (fun hits => ∀ hit ∈ hits, hitText hit ≠ t)
      (searchMemory setting.platform (some (index.vector setting)) query) := by
  refine ensures_bind (ensures_lift fun _ done => done) fun found done => ?_
  cases found with
  | none => exact storeHits_free
  | some hits =>
    refine ensures_pure fun hit listed => ?_
    obtain ⟨document,there,same⟩ := indexHit_text (vectorHits_subset done hit listed)
    rw [same]
    exact free document there

theorem extractSummaryText_stripped (response : Value) : strip (extractSummaryText response) = extractSummaryText response := by
  unfold extractSummaryText
  split
  · split
    · exact strip_strip _
    · cases List.find? _ _ with
      | none => rfl
      | some name => exact strip_strip _
  · exact strip_strip _
  · rfl

theorem semanticDocument_stores {request : DistillRequest} {summary : String} {episodes : List Episode} (some_ : summary ≠ "")
    (plain : strip summary = summary) (stores : Stores t (.putDocument "semantic" (semanticDocument request summary episodes))) : summary = t := by
  rcases stores with whole | ⟨text,base,read,named,same⟩
  · rwa [valueText_text rfl some_,plain] at whole
  · obtain rfl : strip summary = text := Except.ok.inj read
    rw [plain,indexedText,if_pos some_] at named
    obtain rfl : summary = base := Option.some.inj named
    rwa [plain] at same

theorem distill_free {request : DistillRequest} (other : ¬Stores t (.distill request)) :
    Ensures (worldHandler setting) (Free t) (fun _ => True) (MemoryRuns.distill setting request) := by
  refine ensures_bind (ensures_attempt listAll_free) fun outcome _ => ?_
  cases outcome with
  | error error =>
    dsimp only
    split
    · exact ensures_pure trivial
    · exact ensures_fail _
  | ok records =>
    refine ensures_bind clock_free fun now _ => ?_
    refine ensures_bind (ensures_lift fun _ _ => trivial) fun episodic _ => ?_
    split
    · exact ensures_pure trivial
    · cases answered : request.response with
      | error error =>
        dsimp only
        split
        · exact ensures_pure trivial
        · exact ensures_fail _
      | ok response =>
        dsimp only
        split
        · exact ensures_pure trivial
        · rename_i some_
          refine ensures_bind (putDocument_free fun stores => other ⟨response,answered,?_⟩) fun _ _ => ensures_pure trivial
          exact semanticDocument_stores some_ (extractSummaryText_stripped response) stores

theorem step_free {world : World} {request : Request} (some_ : t ≠ "") (other : ¬Stores t request) (free : Free t world) :
    Free t (step setting world request).2 ∧ ∀ reply, (step setting world request).1 = .ok reply → ¬Shows t reply := by
  have ensured : Ensures (worldHandler setting) (Free t) (fun reply => ¬Shows t reply) (request.program setting world.index) := by
    cases request with
    | add request => exact ensures_bind (add_free other) fun _ _ => ensures_pure id
    | put userId key value => exact ensures_bind (put_free other) fun _ _ => ensures_pure id
    | putDocument kind document => exact ensures_bind (putDocument_free other) fun _ _ => ensures_pure id
    | putEpisode text tags meta_ => exact ensures_bind (putEpisode_free some_ other) fun _ _ => ensures_pure id
    | search query => exact ensures_bind (search_free free.index) fun _ none_ => ensures_pure fun ⟨hit,listed,same⟩ => none_ hit listed same
    | get userId key => exact ensures_bind (get_free some_) fun _ none_ => ensures_pure none_
    | listAll userId => exact ensures_bind listAll_free fun _ none_ => ensures_pure fun ⟨record,listed,same⟩ => none_ record listed same
    | recent userId limit contains =>
      exact ensures_bind recent_free fun _ none_ => ensures_pure fun ⟨record,listed,same⟩ => none_ record listed same
    | distill request => exact ensures_bind (distill_free other) fun _ _ => ensures_pure id
    | eraseUser request clock => exact ensures_bind (eraseUser_free other) fun _ _ => ensures_pure id
  exact ensured world free

theorem serve_free (some_ : t ≠ "") (others : ∀ request ∈ requests, ¬Stores t request)
    (free : Free t world) : ∀ reply, .ok reply ∈ serve setting requests world → ¬Shows t reply := by
  induction requests generalizing world with
  | nil => exact nofun
  | cons request rest ih =>
    obtain ⟨other,later⟩ := List.forall_mem_cons.mp others
    obtain ⟨after,quiet⟩ := step_free some_ other free
    intro reply listed
    rcases List.mem_cons.mp listed with here | there
    · exact quiet reply here.symm
    · exact ih later after reply there

end Free

def loadedRecords (setting : Setting) (world : World) : List Value := setting.backend.load world.store

-- The text of a record that the erasure removes.
def ErasedText (setting : Setting) (world : World) (request : EraseRequest) (clock : EraseClock) (t : String) : Prop :=
  t ≠ "" ∧ ∃ kept report, eraseUserData (loadedRecords setting world) request clock = .ok (kept,report) ∧
    ∃ record ∈ loadedRecords setting world, record ∉ kept ∧ recordText record = t

-- The same text in a record that stays, or in the index.
def LeftBehind (setting : Setting) (world : World) (request : EraseRequest) (clock : EraseClock) (t : String) : Prop :=
  (∃ kept report, eraseUserData (loadedRecords setting world) request clock = .ok (kept,report) ∧ ∃ record ∈ kept, recordText record = t) ∨
    ∃ document ∈ world.index.documents, strip document.text = t

-- No later read returns the text, until a request stores it.
def Unreachable (setting : Setting) (world : World) (t : String) : Prop :=
  ∀ requests : List Request, (∀ request ∈ requests, ¬Stores t request) → ∀ reply, .ok reply ∈ serve setting requests world → ¬Shows t reply

theorem saved_world (saved : (worldHandler setting (.saveAll data) world).1 = true) :
    (worldHandler setting (.saveAll data) world).2.index = world.index ∧
      (worldHandler setting (.saveAll data) world).2.store.content = .json (.list data) ∧
      (worldHandler setting (.saveAll data) world).2.store.cache = none := by
  cases fault : setting.backend.saveFault world.store.steps with
  | true => simp [worldHandler,handler,fault] at saved
  | false => simp [worldHandler,handler,fault]

theorem run_erase {setting : Setting} {world after : World} {request : EraseRequest} {clock : EraseClock} {report : Dict}
    (erased : run (worldHandler setting) (eraseUser request clock) world = (.ok report,after)) (succeeded : report.get "ok" = .bool true) :
    ∃ kept base, eraseUserData (loadedRecords setting world) request clock = .ok (kept,base) ∧ after.index = world.index ∧
      after.store.content = .json (.list kept) ∧ after.store.cache = none := by
  obtain ⟨data,loaded,read,erased⟩ := run_bind_ok.mp erased
  obtain ⟨rfl,rfl⟩ : loadedRecords setting world = data ∧ (worldHandler setting (.loadAll false) world).2 = loaded := by
    cases read
    exact ⟨rfl,rfl⟩
  obtain ⟨⟨kept,base⟩,same,done,erased⟩ := run_bind_ok.mp erased
  cases computed : eraseUserData (loadedRecords setting world) request clock with
  | error error =>
    rw [computed] at done
    cases done
  | ok result =>
    rw [computed] at done
    cases done
    refine ⟨kept,base,rfl,?_⟩
    obtain ⟨saved,final,wrote,ended⟩ := run_bind_ok.mp erased
    cases ended
    rw [get_set] at succeeded
    obtain rfl : saved = true := Value.bool.inj succeeded
    obtain ⟨written,reached⟩ := Prod.mk.inj wrote
    obtain ⟨index,content,cache⟩ := saved_world (Except.ok.inj written)
    rw [← reached]
    exact ⟨index,content,cache⟩

theorem erased_unreachable {setting : Setting} {world after : World} {request : EraseRequest} {clock : EraseClock} {report : Dict}
    (erased : run (worldHandler setting) (eraseUser request clock) world = (.ok report,after)) (succeeded : report.get "ok" = .bool true)
    (gone : ∀ t, ErasedText setting world request clock t → ¬LeftBehind setting world request clock t) :
    ∀ t, ErasedText setting world request clock t → Unreachable setting after t := by
  intro t removed requests others
  obtain ⟨kept,base,computed,index,content,cache⟩ := run_erase erased succeeded
  obtain ⟨records,documents⟩ := not_or.mp (gone t removed)
  refine serve_free removed.1 others ⟨?_,?_⟩
  · rintro record (⟨time,listed⟩ | ⟨cached,same,_⟩)
    · rw [content] at listed
      exact fun same => records ⟨kept,base,computed,record,listed,same⟩
    · rw [cache] at same
      cases same
  · intro document listed same
    rw [index] at listed
    exact documents ⟨document,listed,same⟩

def sampleSetting : Setting := ⟨samplePlatform,calm,true,fun _ => false,fun _ _ => 1,fun _ _ => false,fun _ _ => some false⟩

def sampleClock : EraseClock := ⟨"2026-03-01T09:00:00+00:00",0,.int 0⟩

def sampleErase : EraseRequest := ⟨"u1","user request","admin"⟩

def noteRequest : Request := .add { userId := "u1",text := "my diagnosis",suffix := "0a1b2c3d" }

def noteRecord : Value :=
  newRecord (.str "u1") (.str "note_0_0a1b2c3d") (.dict [(.str "kind",.str "note"),(.str "text",.str "my diagnosis"),(.str "tags",.list []),
    (.str "meta",.dict [(.str "user_id",.str "u1"),(.str "retention_class",.str "standard"),(.str "legal_hold",.bool false),
      (.str "expires_at",.none)])]) (.int 0)

def sampleReport : Dict := eraseReport sampleErase sampleClock 1 0 0

def notedStore : Store := ⟨.json (.list [noteRecord]),none,5⟩

theorem noteRecord_erased : eraseUserData [noteRecord] sampleErase sampleClock = .ok ([auditRecord sampleErase sampleClock sampleReport],sampleReport) := by
  decide +kernel

theorem noteRecord_text : recordText noteRecord = "my diagnosis" := by decide +kernel

theorem noteRecord_removed : noteRecord ∉ [auditRecord sampleErase sampleClock sampleReport] := by
  intro listed
  have same := congrArg recordText (List.mem_singleton.mp listed)
  rw [noteRecord_text,auditRecord_text] at same
  exact absurd same (by decide)

def noteDocument : Document := ⟨"note_1_0","note","my diagnosis",.list [],[(.str "user_id",.str "u1")],.int 0⟩

def notedWorld : World := ⟨notedStore,⟨[noteDocument],1⟩⟩

theorem erased_note_found : step sampleSetting {} noteRequest = (.ok .written,notedWorld) ∧ ¬∀ (after : World) (report : Dict),
    run (worldHandler sampleSetting) (eraseUser sampleErase sampleClock) notedWorld = (.ok report,after) → report.get "ok" = .bool true →
      ∀ t, ErasedText sampleSetting notedWorld sampleErase sampleClock t → Unreachable sampleSetting after t := by
  refine ⟨rfl,fun claimed => ?_⟩
  have removed : ErasedText sampleSetting notedWorld sampleErase sampleClock "my diagnosis" :=
    ⟨by decide,_,_,noteRecord_erased,noteRecord,List.mem_singleton_self _,noteRecord_removed,noteRecord_text⟩
  have away := claimed _ (sampleReport.set "ok" (.bool true)) rfl rfl "my diagnosis" removed
  refine away [.search { query := "my diagnosis",k := 10 }] ?_ (.hits [documentHit samplePlatform noteDocument 1]) ?_ ?_
  · intro request listed
    rw [List.mem_singleton.mp listed]
    exact id
  · exact List.mem_singleton.mpr rfl
  · refine ⟨_,List.mem_singleton_self _,?_⟩
    decide +kernel

def plainSetting : Setting := { sampleSetting with model := false }

theorem erased_unreachable_sample : ∃ after, Unreachable plainSetting after "my diagnosis" := by
  have erased : run (worldHandler plainSetting) (eraseUser sampleErase sampleClock) ⟨notedStore,{}⟩ =
      (.ok (sampleReport.set "ok" (.bool true)),_) := rfl
  have removed : ErasedText plainSetting ⟨notedStore,{}⟩ sampleErase sampleClock "my diagnosis" :=
    ⟨by decide,_,_,noteRecord_erased,noteRecord,List.mem_singleton_self _,noteRecord_removed,noteRecord_text⟩
  refine ⟨_,erased_unreachable erased rfl ?_ "my diagnosis" removed⟩
  rintro t ⟨_,kept,report,computed,record,listed,_,text⟩ (⟨others,again,same,other,stays,left⟩ | ⟨document,indexed,_⟩)
  · obtain rfl : record = noteRecord := List.mem_singleton.mp listed
    have whole : eraseUserData [noteRecord] sampleErase sampleClock = .ok (others,again) := same
    rw [noteRecord_erased] at whole
    cases whole
    rw [List.mem_singleton.mp stays,auditRecord_text] at left
    rw [noteRecord_text,← left] at text
    exact absurd text (by decide)
  · cases indexed

end VeritasOs.MemoryRuns
