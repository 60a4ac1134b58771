import VeritasOs.BindArtifacts

namespace VeritasOs.TrustLog
open Text BindArtifacts

-- The secret and PII patterns: what they mask in one text, and whether they match it.
structure Masking where
  redactString : String → String
  containsSecret : String → Bool
  containsPii : String → Bool

def structuralFields : List String := ["sha256","sha256_prev","created_at","request_id","decision_id","timestamp"]

def classificationField : String := "_data_classification"

def identifierFields : List String := ["request_id","decision_id","user_id","session_id","tenant_id","trace_id"]

def keyStr : Key → String
  | .str s => s
  | key => keyRepr key

def lastPart (path : String) : String :=
  String.ofList ((path.toList.reverse.takeWhile fun c => !(c == '.')).reverse)

section Redaction
variable (masking : Masking)

def classifyScalar (fieldName : String) (value : Value) : String :=
  if identifierFields.contains fieldName then "identifier"
  else
    match value with
    | .str s => if masking.containsSecret s then "secret" else if masking.containsPii s then "pii" else "public"
    | _ => "public"

mutual
def collectFieldClassification (path : String) : Value → List (String × String)
  | .dict members => classifyMembers path members
  | .list items => classifyItems path 0 items
  | value => [(path,classifyScalar masking (lastPart path) value)]
def classifyMembers (path : String) : List (Key × Value) → List (String × String)
  | [] => []
  | (key,value) :: rest =>
    collectFieldClassification (if path = "" then keyStr key else path ++ "." ++ keyStr key) value ++ classifyMembers path rest
def classifyItems (path : String) (index : Nat) : List Value → List (String × String)
  | [] => []
  | item :: rest =>
    collectFieldClassification (path ++ "[" ++ intStr index ++ "]") item ++ classifyItems path (index + 1) rest
end

def buildDataClassification (entry : Dict) : Dict :=
  let labels := entry.flatMap fun member =>
    if member.1 = .str classificationField then [] else collectFieldClassification masking (keyStr member.1) member.2
  let fieldMap := Dict.update [] (labels.map fun label => field label.1 (.str label.2))
  [field "schema_version" (.str "1.0"),field "fields" (.dict fieldMap),
   field "contains_pii" (.bool (fieldMap.any fun label => label.2 = .str "pii")),
   field "contains_secret" (.bool (fieldMap.any fun label => label.2 = .str "secret"))]

mutual
def redactValue : Value → Value
  | .str s => .str (masking.redactString s)
  | .dict members => .dict (redactMembers members)
  | .list items => .list (redactItems items)
  | .tuple items => .list (redactItems items)
  | value => value
def redactItems : List Value → List Value
  | [] => []
  | item :: rest => redactValue item :: redactItems rest
def redactMembers : List (Key × Value) → List (Key × Value)
  | [] => []
  | (key,value) :: rest => (key,redactValue value) :: redactMembers rest
end

def isStructural : Key → Bool
  | .str name => structuralFields.contains name
  | _ => false

def redactEntry (entry : Dict) : Dict :=
  Dict.set (entry.map fun member => (member.1,if isStructural member.1 then member.2 else redactValue masking member.2))
    classificationField (.dict (buildDataClassification masking entry))

end Redaction

-- json.dumps(..., default=str): what json cannot encode becomes its text.
mutual
def defaultStr : Value → Value
  | .object text _ => .str text
  | .dict members => .dict (defaultMembers members)
  | .list items => .list (defaultItems items)
  | .tuple items => .tuple (defaultItems items)
  | value => value
def defaultItems : List Value → List Value
  | [] => []
  | item :: rest => defaultStr item :: defaultItems rest
def defaultMembers : List (Key × Value) → List (Key × Value)
  | [] => []
  | (key,value) :: rest => (key,defaultStr value) :: defaultMembers rest
end

def normalizeForHash (entry : Dict) : Option String :=
  canonicalJsonDumps (defaultStr (.dict (entry.filter fun member => member.1 ≠ .str "sha256" ∧ member.1 ≠ .str "sha256_prev")))

def setDefault (entry : Dict) (name : String) (value : Value) : Dict :=
  if entry.has name then entry else entry.set name value

-- The redacted entry with its chain hash, and the entry a reader of the line gets.
-- Encryption and decryption of the line cancel and are left out.
def prepareEntry (masking : Masking) (sha256 : String → String) (raw : Dict) (previousHash : Option String) (now : String) :
    Except Exc (Dict × Dict) :=
  let entry := redactEntry masking ((setDefault raw "created_at" (.str now)).set "sha256_prev" (optStr previousHash))
  match normalizeForHash entry with
  | none => .error (typeError "keys must be str, int, float, bool or None")
  | some entryJson =>
    let entry := entry.set "sha256" (.str (sha256 (previousHash.getD "" ++ entryJson)))
    match (jsonCopy (.dict entry)).bind Value.asDict? with
    | none => .error (typeError "Object is not JSON serializable")
    | some line => .ok (entry,line)

-- What the file system does to one append: nothing, an error before the line is
-- written, or an error after it (the JSON mirror, the signed log).
inductive Fault where
  | none
  | before (error : Exc)
  | after (error : Exc)

-- What the surroundings decide, by the number of the operation.
structure Storage where
  masking : Masking
  sha256 : String → String
  maxLines : Nat
  createdAt : Nat → String
  appendFault : Nat → Fault
  readFault : Nat → Bool

structure Log where
  active : List Dict := []
  rotated : List Dict := []
  marker : Option String := none
  appends : Nat := 0
  reads : Nat := 0

def isSha256Hex (text : String) : Bool :=
  (text.toList.all fun c => c.isDigit || ('a' ≤ c && c ≤ 'f') || ('A' ≤ c && c ≤ 'F')) && text.toList.length == 64

def entryHash (entry : Dict) : Option String :=
  match entry.get "sha256" with
  | .str hash => if hash = "" then none else some hash
  | _ => none

-- The newest canonical hash, else the newest non-empty one.
def lastSha256 (lines : List Dict) : Option String :=
  let hashes := lines.reverse.filterMap entryHash
  (hashes.find? isSha256Hex).or hashes.head?

def getLastHash (log : Log) : Option String :=
  if log.active = [] then log.marker.or (lastSha256 log.rotated) else lastSha256 log.active

-- The full log replaces the previously rotated one, and a new file is begun.
def rotateIfNeeded (maxLines : Nat) (log : Log) : Log :=
  if log.active.length < maxLines then log
  else { log with
    active := []
    rotated := log.active
    marker := (log.active.getLast?.bind entryHash).or log.marker }

def writeLine (maxLines : Nat) (line : Dict) (log : Log) : Log :=
  let open_ := rotateIfNeeded maxLines log
  { open_ with active := open_.active ++ [line] }

def appendTrustLog (storage : Storage) (entry : Dict) (log : Log) : Except Exc Dict × Log :=
  let counted := { log with appends := log.appends + 1 }
  match storage.appendFault log.appends with
  | .before error => (.error error,counted)
  | fault =>
    match prepareEntry storage.masking storage.sha256 entry (getLastHash log) (storage.createdAt log.appends) with
    | .error error => (.error error,counted)
    | .ok (prepared,line) =>
      let written := writeLine storage.maxLines line counted
      match fault with
      | .after error => (.error error,written)
      | _ => (.ok prepared,written)

-- An unreadable file reads as an empty one.
def iterTrustLog (storage : Storage) (log : Log) : List Dict × Log :=
  (if storage.readFault log.reads then [] else log.active,{ log with reads := log.reads + 1 })

section Lines
variable {masking : Masking} {sha256 : String → String} {storage : Storage}

def maskMember (masking : Masking) (name : String) (value : Value) : Value :=
  if structuralFields.contains name then value else redactValue masking value

theorem redactMembers_map (masking : Masking) (members : Dict) :
    redactMembers masking members = members.map fun member => (member.1,redactValue masking member.2) := by
  induction members with
  | nil => rfl
  | cons head rest ih => simp [redactMembers,ih]

variable {name : String} {entry raw prepared line : Dict} {previous : Option String} {now : String} {value : Value} {log : Log}

theorem lookup_redactEntry (plain : name ≠ classificationField) (entry : Dict) :
    lookup (.str name) (redactEntry masking entry) = (lookup (.str name) entry).map (maskMember masking name) := by
  have other : ¬Key.str classificationField = Key.str name := fun same => plain (Key.str.inj same).symm
  have members := lookup_map (fun key value => if isStructural key then value else redactValue masking value) (.str name) entry
  rw [redactEntry,Dict.set,lookup_store,if_neg other,members]
  rfl

theorem redactEntry_record (record : Record entry) : Record (redactEntry masking entry) :=
  Record.set (record.of_keys (by simp)) _ _

def addedFields : List String := ["created_at","sha256_prev","sha256",classificationField]

theorem setDefault_record (record : Record entry) (name : String) (value : Value) : Record (setDefault entry name value) := by
  unfold setDefault
  split
  · exact record
  · exact record.set name value

theorem lookup_setDefault (value : Value) (other : wanted ≠ name) :
    lookup (.str wanted) (setDefault entry name value) = lookup (.str wanted) entry := by
  unfold setDefault
  split
  · rfl
  · rw [Dict.set,lookup_store,if_neg fun same => other (Key.str.inj same).symm]

def stampEntry (masking : Masking) (raw : Dict) (previous : Option String) (now : String) : Dict :=
  redactEntry masking ((setDefault raw "created_at" (.str now)).set "sha256_prev" (optStr previous))

theorem stampEntry_record (record : Record raw) (previous : Option String) (now : String) :
    Record (stampEntry masking raw previous now) := redactEntry_record ((setDefault_record record _ _).set _ _)

theorem prepareEntry_parts (made : prepareEntry masking sha256 raw previous now = .ok (prepared,line)) :
    ∃ text, normalizeForHash (stampEntry masking raw previous now) = some text ∧
      prepared = (stampEntry masking raw previous now).set "sha256" (.str (sha256 (previous.getD "" ++ text))) ∧
      jsonCopy (.dict prepared) = some (.dict line) := by
  unfold prepareEntry at made
  extract_lets entry at made
  split at made
  · cases made
  · rename_i text hashed
    dsimp only at made
    split at made
    · cases made
    · rename_i copied copy
      cases made
      obtain ⟨whole,written,same⟩ := Option.bind_eq_some_iff.mp copy
      cases whole <;> cases same
      exact ⟨text,hashed,rfl,written⟩

theorem lookup_stampEntry (notPrevious : name ≠ "sha256_prev") (notClass : name ≠ classificationField) :
    lookup (.str name) (stampEntry masking raw previous now) =
      (lookup (.str name) (setDefault raw "created_at" (.str now))).map (maskMember masking name) := by
  rw [stampEntry,lookup_redactEntry notClass,Dict.set,lookup_store,if_neg fun eq => notPrevious (Key.str.inj eq).symm]

theorem prepareEntry_line (record : Record raw) (made : prepareEntry masking sha256 raw previous now = .ok (prepared,line)) :
    (∃ text, prepared.get "sha256" = .str (sha256 text) ∧ line.get "sha256" = .str (sha256 text)) ∧
      ∀ name value, name ∉ addedFields → lookup (.str name) raw = some value →
        ∃ copy, jsonCopy (maskMember masking name value) = some copy ∧ line.get name = copy := by
  obtain ⟨text,hashed,rfl,copied⟩ := prepareEntry_parts made
  obtain ⟨fields,same,members⟩ := jsonCopy_record ((stampEntry_record record previous now).set _ _) copied
  cases same
  have digest : lookup (.str "sha256") ((stampEntry masking raw previous now).set "sha256" (.str (sha256 (previous.getD "" ++ text)))) =
      some (.str (sha256 (previous.getD "" ++ text))) := by rw [Dict.set,lookup_store,if_pos rfl]
  refine ⟨⟨previous.getD "" ++ text,by rw [Dict.get,digest]; rfl,?_⟩,?_⟩
  · obtain ⟨copy,same,found⟩ := members _ _ digest
    cases same
    rw [Dict.get,found]
    rfl
  · intro name value plain given
    simp only [addedFields,List.mem_cons,List.not_mem_nil,or_false,not_or] at plain
    obtain ⟨notCreated,notPrevious,notHash,notClass⟩ := plain
    have kept : lookup (.str name) ((stampEntry masking raw previous now).set "sha256" (.str (sha256 (previous.getD "" ++ text)))) =
        some (maskMember masking name value) := by
      rw [Dict.set,lookup_store,if_neg fun eq => notHash (Key.str.inj eq).symm,lookup_stampEntry notPrevious notClass,
        lookup_setDefault _ notCreated,given]
      rfl
    obtain ⟨copy,same,found⟩ := members _ _ kept
    exact ⟨copy,same,by rw [Dict.get,found]; rfl⟩

theorem redactItems_map (masking : Masking) (items : List Value) : redactItems masking items = items.map (redactValue masking) := by
  induction items with
  | nil => rfl
  | cons head rest ih => simp [redactItems,ih]

theorem defaultItems_map (items : List Value) : defaultItems items = items.map defaultStr := by
  induction items with
  | nil => rfl
  | cons head rest ih => simp [defaultItems,ih]

theorem defaultMembers_map (members : Dict) : defaultMembers members = members.map fun member => (member.1,defaultStr member.2) := by
  induction members with
  | nil => rfl
  | cons head rest ih => simp [defaultMembers,ih]

theorem redact_recordable (written : Recordable value) : Recordable (redactValue masking value) := by
  induction value using Value.induction with
  | leaf value notList notTuple notDict => cases value <;> simp_all [redactValue]
  | list items inside =>
    have each := (list_isSome true items).mp written
    rw [redactValue,redactItems_map]
    exact (list_isSome true _).mpr (List.forall_mem_map.mpr fun item listed => inside item listed (each item listed))
  | tuple items inside =>
    have each := (tuple_isSome true items).mp written
    rw [redactValue,redactItems_map]
    exact (list_isSome true _).mpr (List.forall_mem_map.mpr fun item listed => inside item listed (each item listed))
  | dict members inside =>
    obtain ⟨each,keys⟩ := (dict_isSome true members).mp written
    rw [redactValue,redactMembers_map]
    exact (dict_isSome true _).mpr
      ⟨List.forall_mem_map.mpr fun member listed => inside member listed (each member listed),by rw [List.map_map]; exact keys⟩

theorem default_recordable (written : Recordable value) : Recordable (defaultStr value) := by
  induction value using Value.induction with
  | leaf value notList notTuple notDict => cases value <;> simp_all [defaultStr]
  | list items inside =>
    have each := (list_isSome true items).mp written
    rw [defaultStr,defaultItems_map]
    exact (list_isSome true _).mpr (List.forall_mem_map.mpr fun item listed => inside item listed (each item listed))
  | tuple items inside =>
    have each := (tuple_isSome true items).mp written
    rw [defaultStr,defaultItems_map]
    exact (tuple_isSome true _).mpr (List.forall_mem_map.mpr fun item listed => inside item listed (each item listed))
  | dict members inside =>
    obtain ⟨each,keys⟩ := (dict_isSome true members).mp written
    rw [defaultStr,defaultMembers_map]
    exact (dict_isSome true _).mpr
      ⟨List.forall_mem_map.mpr fun member listed => inside member listed (each member listed),by rw [List.map_map]; exact keys⟩

theorem classification_recordable (masking : Masking) (entry : Dict) : Recordable (.dict (buildDataClassification masking entry)) := by
  have texts : ∀ labels : List (String × String), ∀ member ∈ Dict.update [] (labels.map fun label => field label.1 (.str label.2)),
      (∃ name, member.1 = .str name) ∧ Recordable member.2 := by
    intro labels
    exact update_forall _ (by simp) (List.forall_mem_map.mpr fun label _ => ⟨field_named,recordable_str _⟩)
  rw [recordable_dict (by simp [StrKeys,buildDataClassification,field])]
  simp only [buildDataClassification,field,List.forall_mem_cons]
  refine ⟨recordable_str _,?_,recordable_bool _,recordable_bool _,by simp⟩
  exact (recordable_dict fun member listed => (texts _ member listed).1).mpr fun member listed => (texts _ member listed).2

structure Writable (entry : Dict) : Prop where
  record : Record entry
  members : ∀ member ∈ entry, Recordable member.2

theorem Writable.whole (writable : Writable entry) : Recordable (.dict entry) :=
  (recordable_dict writable.record.named).mpr writable.members

theorem Writable.set (writable : Writable entry) (name : String) (written : Recordable value) : Writable (entry.set name value) :=
  ⟨writable.record.set name value,store_forall (fun member => Recordable member.2) written writable.members⟩

theorem Writable.redact (writable : Writable entry) (masking : Masking) : Writable (redactEntry masking entry) := by
  refine Writable.set ⟨writable.record.of_keys (by simp),List.forall_mem_map.mpr fun member listed => ?_⟩ _
    (classification_recordable masking entry)
  split
  · exact writable.members member listed
  · exact redact_recordable (writable.members member listed)

theorem prepareEntry_writable (writable : Writable raw) (masking : Masking) (sha256 : String → String) (previous : Option String)
    (now : String) : ∃ prepared line, prepareEntry masking sha256 raw previous now = .ok (prepared,line) := by
  have stamped : Writable (setDefault raw "created_at" (.str now)) := by
    unfold setDefault
    split
    · exact writable
    · exact writable.set _ (recordable_str now)
  have entry := (stamped.set "sha256_prev" (recordable_optStr previous)).redact masking
  have hashed : (normalizeForHash (redactEntry masking ((setDefault raw "created_at" (.str now)).set "sha256_prev"
      (optStr previous)))).isSome = true := by
    refine (canonical_recordable _).mpr (default_recordable ((recordable_dict ?_).mpr ?_))
    · exact fun member listed => entry.record.named member (List.mem_of_mem_filter listed)
    · exact fun member listed => entry.members member (List.mem_of_mem_filter listed)
  obtain ⟨text,digested⟩ := Option.isSome_iff_exists.mp hashed
  have signed := entry.set "sha256" (recordable_str (sha256 (previous.getD "" ++ text)))
  have copies : ∀ {value}, Recordable value → ∃ copy, jsonCopy value = some copy := by
    intro value written
    exact Option.isSome_iff_exists.mp (by simpa [jsonCopy] using unsorted_isSome value written)
  obtain ⟨copy,copied⟩ := copies signed.whole
  obtain ⟨fields,rfl,_⟩ := jsonCopy_record signed.record copied
  simp only [prepareEntry,digested,copied,Option.bind_some,Value.asDict?]
  exact ⟨_,_,rfl⟩

theorem appendTrustLog_lines (storage : Storage) (entry : Dict) (log : Log) :
    ((∃ error, (appendTrustLog storage entry log).1 = .error error) ∧ (appendTrustLog storage entry log).2.active = log.active) ∨
      ∃ prepared line, prepareEntry storage.masking storage.sha256 entry (getLastHash log) (storage.createdAt log.appends) =
          .ok (prepared,line) ∧ (∀ answer, (appendTrustLog storage entry log).1 = .ok answer → answer = prepared) ∧
        (appendTrustLog storage entry log).2.active = (rotateIfNeeded storage.maxLines log).active ++ [line] := by
  have rotated : ∀ line, (writeLine storage.maxLines line { log with appends := log.appends + 1 }).active =
      (rotateIfNeeded storage.maxLines log).active ++ [line] := by
    intro line
    unfold writeLine rotateIfNeeded
    split <;> rfl
  unfold appendTrustLog
  split
  · exact .inl ⟨⟨_,rfl⟩,rfl⟩
  · split
    · exact .inl ⟨⟨_,rfl⟩,rfl⟩
    · rename_i prepared line made
      refine .inr ⟨prepared,line,made,?_,?_⟩
      · split <;> simp
      · split <;> exact rotated line

theorem appendTrustLog_written (free : storage.appendFault log.appends = .none)
    (made : prepareEntry storage.masking storage.sha256 entry (getLastHash log) (storage.createdAt log.appends) = .ok (prepared,line)) :
    appendTrustLog storage entry log = (.ok prepared,writeLine storage.maxLines line { log with appends := log.appends + 1 }) := by
  simp only [appendTrustLog,free,made]

theorem appendTrustLog_succeeds (writable : Writable entry) (free : storage.appendFault log.appends = .none) :
    ∃ prepared, (appendTrustLog storage entry log).1 = .ok prepared := by
  obtain ⟨prepared,line,made⟩ := prepareEntry_writable writable storage.masking storage.sha256 (getLastHash log)
    (storage.createdAt log.appends)
  exact ⟨prepared,by rw [appendTrustLog_written free made]⟩

theorem writeLine_active (maxLines : Nat) (line : Dict) (log : Log) :
    (writeLine maxLines line log).active = (if log.active.length < maxLines then log.active else []) ++ [line] := by
  unfold writeLine rotateIfNeeded
  split <;> rfl

theorem rotateIfNeeded_room (room : log.active.length < maxLines) : rotateIfNeeded maxLines log = log := by
  rw [rotateIfNeeded,if_pos room]

theorem encodable_names (encodable : KeysEncodable true keys) (listed : .str name ∈ keys) : ∀ key ∈ keys, ∃ text, key = .str text := by
  have named : ∀ key ∈ keys, key.isStr = true := by
    rcases encodable.2 rfl with few | texts | numbers
    · intro key other
      obtain ⟨only,rfl⟩ := List.length_eq_one_iff.mp (show keys.length = 1 by
        have := List.length_pos_of_mem listed
        omega)
      rw [List.mem_singleton.mp other,← List.mem_singleton.mp listed]
      rfl
    · exact texts
    · exact absurd (numbers _ listed) (by simp [keyNumber])
  intro key other
  have text := named key other
  cases key <;> first | exact ⟨_,rfl⟩ | cases text

theorem mem_store_keys (key : Key) (value : Value) (dict : Dict) : ∀ other ∈ dict.map Prod.fst, other ∈ (store key value dict).map Prod.fst := by
  intro other listed
  rw [store_keys]
  split
  · exact listed
  · exact List.mem_append_left _ listed

theorem normalize_named (hashed : normalizeForHash (redactEntry masking entry) = some text) : StrKeys entry := by
  have recordable := (canonical_recordable _).mp (Option.isSome_iff_exists.mpr ⟨text,hashed⟩)
  rw [defaultStr,defaultMembers_map] at recordable
  obtain ⟨_,keys⟩ := (dict_isSome true _).mp recordable
  rw [List.map_map] at keys
  have found : lookup (.str classificationField) (redactEntry masking entry) = some (.dict (buildDataClassification masking entry)) := by
    rw [redactEntry,Dict.set,lookup_store,if_pos rfl]
  have classified : Key.str classificationField ∈ (redactEntry masking entry).map Prod.fst := List.mem_map_of_mem (lookup_mem found)
  have kept : ∀ key ∈ (redactEntry masking entry).map Prod.fst, key ≠ .str "sha256" → key ≠ .str "sha256_prev" →
      key ∈ ((redactEntry masking entry).filter fun member => member.1 ≠ .str "sha256" ∧ member.1 ≠ .str "sha256_prev").map
        (Prod.fst ∘ fun member => (member.1,defaultStr member.2)) := by
    intro key listed notHash notPrevious
    obtain ⟨member,there,rfl⟩ := List.mem_map.mp listed
    exact List.mem_map.mpr ⟨member,List.mem_filter.mpr ⟨there,by simp [notHash,notPrevious]⟩,rfl⟩
  have names := encodable_names keys (kept _ classified (by decide) (by decide))
  intro member listed
  by_cases special : member.1 = .str "sha256" ∨ member.1 = .str "sha256_prev"
  · rcases special with same | same <;> exact ⟨_,same⟩
  · rw [not_or] at special
    refine names _ (kept _ ?_ special.1 special.2)
    exact mem_store_keys _ _ _ _ (by rw [List.map_map]; exact List.mem_map_of_mem listed)

structure Prepared (sha256 : String → String) (previous : Option String) (prepared line : Dict) : Prop where
  copied : jsonCopy (.dict prepared) = some (.dict line)
  hashed : ∃ text, prepared.get "sha256" = .str (sha256 text) ∧ line.get "sha256" = .str (sha256 text)
  linked : prepared.get "sha256_prev" = optStr previous ∧ line.get "sha256_prev" = optStr previous

theorem prepareEntry_named (made : prepareEntry masking sha256 raw previous now = .ok (prepared,line)) : StrKeys raw := by
  obtain ⟨text,hashed,_,_⟩ := prepareEntry_parts made
  have named := normalize_named hashed
  have stamped : ∀ key ∈ raw.map Prod.fst, key ∈ ((setDefault raw "created_at" (.str now)).set "sha256_prev" (optStr previous)).map Prod.fst := by
    intro key listed
    refine mem_store_keys _ _ _ _ ?_
    unfold setDefault
    split
    · exact listed
    · exact mem_store_keys _ _ _ _ listed
  intro member listed
  obtain ⟨other,there,same⟩ := List.mem_map.mp (stamped _ (List.mem_map_of_mem listed))
  rw [← same]
  exact named other there

theorem prepareEntry_prepared (distinct : (raw.map Prod.fst).Nodup)
    (made : prepareEntry masking sha256 raw previous now = .ok (prepared,line)) : Prepared sha256 previous prepared line := by
  have record : Record raw := ⟨prepareEntry_named made,distinct⟩
  obtain ⟨hashed,_⟩ := prepareEntry_line record made
  obtain ⟨text,_,rfl,copied⟩ := prepareEntry_parts made
  obtain ⟨fields,same,members⟩ := jsonCopy_record ((stampEntry_record record previous now).set _ _) copied
  cases same
  have link : lookup (.str "sha256_prev") ((stampEntry masking raw previous now).set "sha256" (.str (sha256 (previous.getD "" ++ text)))) =
      some (optStr previous) := by
    rw [Dict.set,lookup_store,if_neg (by decide),stampEntry,lookup_redactEntry (by decide),Dict.set,lookup_store,if_pos rfl]
    rfl
  obtain ⟨part,copies,found⟩ := members _ _ link
  have plain : part = optStr previous := by
    cases previous <;> exact (Option.some.inj copies).symm
  exact ⟨copied,hashed,by rw [Dict.get,link]; rfl,by rw [Dict.get,found,plain]; rfl⟩

end Lines

end VeritasOs.TrustLog
