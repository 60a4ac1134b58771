import VeritasOs.BindArtifacts
import VeritasOs.JsonData

namespace VeritasOs.ReplaySemantics
open JsonText BindArtifacts

def semanticProfile : String := "veritas.replay-semantic/v1"

mutual
def validateJson : Value → Except Exc Unit
  | .none | .bool _ | .int _ | .str _ => .ok ()
  | .float (.finite _) => .ok ()
  | .float _ => .error ⟨.valueError,"non-finite JSON number"⟩
  | .list items => validateItems items
  | .dict members => validateMembers members
  | .tuple _ | .object _ _ => .error ⟨.typeError,"unsupported canonical JSON value"⟩
def validateItems : List Value → Except Exc Unit
  | [] => .ok ()
  | item :: rest => do
    validateJson item
    validateItems rest
def validateMembers : List (Key × Value) → Except Exc Unit
  | [] => .ok ()
  | (.str _,value) :: rest => do
    validateJson value
    validateMembers rest
  | _ :: _ => .error ⟨.typeError,"JSON object keys must be strings"⟩
end

def strictCanonicalJson (value : Value) : Except Exc String := do
  validateJson value
  match canonicalJsonDumps value with
  | some text => .ok text
  | none => .error ⟨.typeError,"Object is not JSON serializable"⟩

def dictOf : Value → Dict
  | .dict members => members
  | _ => []

def orElse (first second : Value) : Value := if first.truthy then first else second

-- The evidence of the payload, else that of its extras.
def evidenceItems (payload : Dict) : List Value :=
  match payload.get "evidence" with
  | .list items => items
  | _ =>
    match Dict.get (dictOf (payload.get "extras")) "evidence" with
    | .list items => items
    | _ => []

def stableItem (item : Dict) : Dict :=
  [field "id" (item.get "id"),field "title" (item.get "title"),field "url" (orElse (item.get "url") (item.get "uri")),
   field "source" (item.get "source"),field "snippet" (item.get "snippet")]

def stableItems (items : List Value) : List Dict := items.filterMap fun item => item.asDict?.map stableItem

-- The projection by its fields: the two of the continuation are there when the payload has one.
structure Projection where
  decision : Value
  fuji : Value
  valueScores : Value
  evidence : Value
  continuation : Option (Dict × Dict)

def continuationDict : Option (Dict × Dict) → Dict
  | none => []
  | some (state,receipt) => [field "continuation_state" (.dict state),field "continuation_receipt" (.dict receipt)]

def Projection.toDict (p : Projection) : Dict :=
  [field "decision" p.decision,field "fuji" p.fuji,field "value_scores" p.valueScores,field "evidence" p.evidence] ++
    continuationDict p.continuation

def continuationState (state : Dict) : Dict :=
  [field "claim_lineage_id" (state.get "claim_lineage_id"),field "claim_status" (state.get "claim_status"),
   field "law_version" (state.get "law_version"),field "snapshot_id" (state.get "snapshot_id")]

def continuationReceipt (receipt : Dict) : Dict :=
  [field "receipt_id" (receipt.get "receipt_id"),field "revalidation_status" (receipt.get "revalidation_status"),
   field "revalidation_outcome" (receipt.get "revalidation_outcome"),field "divergence_flag" (receipt.get "divergence_flag"),
   field "should_refuse_before_effect" (receipt.get "should_refuse_before_effect"),
   field "reason_codes" (receipt.get "revalidation_reason_codes")]

section Lowered
-- str.lower
variable (lowered : String → String)

def sortKey (item : Dict) : String :=
  lowered ((orElse (orElse (orElse (item.get "id") (item.get "title")) (item.get "url")) (item.get "source")).orStr "")

def sortedEvidence (items : List Dict) : List Dict :=
  items.insertionSort fun a b => textLe (sortKey lowered a) (sortKey lowered b) = true

def projected (payload : Dict) : Projection where
  decision := .dict [field "output" ((dictOf (payload.get "decision")).get "output"),field "answer" ((dictOf (payload.get "decision")).get "answer")]
  fuji := .dict [field "result" ((dictOf (payload.get "fuji")).get "result"),field "status" ((dictOf (payload.get "fuji")).get "status")]
  valueScores := payload.get "value_scores"
  evidence := .list ((sortedEvidence lowered (stableItems (evidenceItems payload))).map Value.dict)
  continuation := (payload.get "continuation").asDict?.map fun continuation =>
    (continuationState (dictOf (Dict.get continuation "state")),continuationReceipt (dictOf (Dict.get continuation "receipt")))

def semanticProjection (payload : Dict) : Except Exc Projection := do
  validateJson (.dict (projected lowered payload).toDict)
  .ok (projected lowered payload)

end Lowered

def preimage (projection : Dict) : Dict := [field "profile" (.str semanticProfile),field "projection" (.dict projection)]

def semanticHash (sha256 : String → String) (projection : Dict) : Except Exc String := do
  let text ← strictCanonicalJson (.dict (preimage projection))
  .ok (sha256 text)

inductive Severity where
  | info | warning | critical
deriving DecidableEq

inductive Divergence where
  | noDivergence | acceptableDivergence | criticalDivergence
deriving DecidableEq

def keyLookup (dict : Dict) (key : Key) : Value := (lookup key dict).getD .none

def sortedKeys (before after : Dict) : List Key :=
  ((before ++ after).map Prod.fst).dedup.insertionSort fun a b => keyLe a b = true

def differs (before after : Dict) (key : Key) : Bool := !pyEq (keyLookup before key) (keyLookup after key)

def changedKeys (before after : Dict) : List Key := (sortedKeys before after).filter (differs before after)

def classifyFieldSeverity : Key → Severity
  | .str "decision" => .critical
  | .str "fuji" => .critical
  | .str "value_scores" => .warning
  | .str "evidence" => .info
  | .str "continuation_state" => .warning
  | .str "continuation_receipt" => .warning
  | _ => .info

def determineDivergence (severities : List Severity) : Divergence :=
  if severities = [] then .noDivergence
  else if severities.contains .critical then .criticalDivergence
  else .acceptableDivergence

structure FieldDetail where
  field : Key
  severity : Severity
  before : Value
  after : Value

structure EngineDiff where
  highLevel : List String
  fieldsChanged : List Key
  fieldDetails : List FieldDetail
  maxSeverity : Severity
  divergenceLevel : Divergence
  before : Dict
  after : Dict

def highLevel (changed : List Key) : List String :=
  let told := (if changed.contains (.str "decision") then ["Decision output differs."] else []) ++
    (if changed.contains (.str "fuji") then ["Fuji result differs."] else []) ++
    (if changed.contains (.str "value_scores") then ["Value scores differ."] else []) ++
    (if changed.contains (.str "evidence") then ["Evidence set differs."] else []) ++
    (if changed.contains (.str "continuation_state") || changed.contains (.str "continuation_receipt") then ["Continuation standing differs."] else [])
  if told = [] then ["No high-level differences."] else told

def fieldDetail (before after : Dict) (key : Key) : FieldDetail := ⟨key,classifyFieldSeverity key,keyLookup before key,keyLookup after key⟩

def buildDiff (before after : Dict) : EngineDiff :=
  let changed := changedKeys before after
  let details := changed.map (fieldDetail before after)
  let severities := details.map FieldDetail.severity
  { highLevel := highLevel changed
    fieldsChanged := changed
    fieldDetails := details
    maxSeverity := if severities.contains .critical then .critical else if severities.contains .warning then .warning else .info
    divergenceLevel := determineDivergence severities
    before := before
    after := after }

def volatile : List String :=
  ["created_at","latency_ms","stage_latency","replay_time_ms","ts","request_id","canonical_decision_artifact","canonical_decision_trust_receipt",
   "canonical_replay_source","canonical_replay_source_receipt"]

def keyStr : Key → String
  | .str s => s
  | key => keyRepr key

mutual
def sanitizeForDiff : Value → Value
  | .dict members => .dict (Dict.update [] (sanitizeMembers members))
  | .list items => .list (sanitizeItems items)
  | value => value
def sanitizeItems : List Value → List Value
  | [] => []
  | item :: rest => sanitizeForDiff item :: sanitizeItems rest
def sanitizeMembers : List (Key × Value) → List (Key × Value)
  | [] => []
  | (key,value) :: rest =>
    if volatile.contains (keyStr key) then sanitizeMembers rest else (.str (keyStr key),sanitizeForDiff value) :: sanitizeMembers rest
end

def severityMap : Key → Severity
  | .str "decision" => .critical
  | .str "fuji" => .critical
  | .str "value_scores" => .warning
  | .str "continuation_state" => .warning
  | .str "continuation_receipt" => .warning
  | _ => .info

structure ReplayDiff where
  changed : Bool
  keys : List Key
  severity : Severity
  divergenceLevel : Divergence
  sides : Option (Dict × Dict)

def buildReplayDiff (original replayed : Dict) : ReplayDiff :=
  let origNorm := dictOf (sanitizeForDiff (.dict original))
  let replayNorm := dictOf (sanitizeForDiff (.dict replayed))
  if pyEq (.dict origNorm) (.dict replayNorm) then
    { changed := false
      keys := []
      severity := .info
      divergenceLevel := .noDivergence
      sides := none }
  else
    let keys := changedKeys origNorm replayNorm
    let severities := keys.map severityMap
    { changed := true
      keys := keys
      severity := if severities.contains .critical then .critical else if severities.contains .warning then .warning else .info
      divergenceLevel := if severities.contains .critical then .criticalDivergence else if severities = [] then .noDivergence else .acceptableDivergence
      sides := some (origNorm,replayNorm) }

def ReplayDiff.summary (diff : ReplayDiff) : String :=
  if diff.changed then "changed_keys=" ++ intStr diff.keys.length else "no_diff"

structure DiffMetadata where
  fields : List Key
  severity : Severity
  divergence : Divergence

def diffMetadata (original replayed : Dict) : DiffMetadata :=
  let fields := changedKeys original replayed
  let levels := fields.map severityMap
  let severity := if levels.contains .critical then Severity.critical else if levels.contains .warning then .warning else .info
  { fields := fields
    severity := severity
    divergence := if severity = .critical then .criticalDivergence else if fields = [] then .noDivergence else .acceptableDivergence }

-- What both replay entry points compare with the evidence: the match, the fields, the severity and the divergence.
structure Verdict where
  semanticMatch : Bool
  fields : List Key
  severity : Severity
  divergence : Divergence
deriving DecidableEq

def EngineDiff.verdict (diff : EngineDiff) : Verdict := ⟨diff.fieldsChanged.isEmpty,diff.fieldsChanged,diff.maxSeverity,diff.divergenceLevel⟩

def ReplayDiff.verdict (diff : ReplayDiff) : Verdict := ⟨!diff.changed,diff.keys,diff.severity,diff.divergenceLevel⟩

def DiffMetadata.verdict (diff : DiffMetadata) : Verdict := ⟨diff.fields.isEmpty,diff.fields,diff.severity,diff.divergence⟩

-- run_replay and replay_decision refuse a replay whose evidence says something else.
def runReplayRefuses (before after : Dict) : Bool := (diffMetadata before after).verdict != (buildDiff before after).verdict

def replayDecisionRefuses (before after : Dict) : Bool := (diffMetadata before after).verdict != (buildReplayDiff before after).verdict

theorem validateItems_ok (each : ∀ item ∈ items, validateJson item = .ok ()) : validateItems items = .ok () := by
  induction items with
  | nil => rfl
  | cons item rest ih =>
    rw [List.forall_mem_cons] at each
    exact bind_ok.mpr ⟨(),each.1,ih each.2⟩

variable {members payload : Dict} {p q : Projection}

theorem validateMembers_ok (named : StrKeys members) (each : ∀ member ∈ members, validateJson member.2 = .ok ()) :
    validateMembers members = .ok () := by
  induction members with
  | nil => rfl
  | cons member rest ih =>
    obtain ⟨key,value⟩ := member
    rw [List.forall_mem_cons] at each
    obtain ⟨name,rfl⟩ := named _ List.mem_cons_self
    exact bind_ok.mpr ⟨(),each.1,ih (fun other listed => named other (List.mem_cons_of_mem _ listed)) each.2⟩

theorem validateJson_ok (value : Value) : isJson value = true → validateJson value = .ok () := by
  intro json
  induction value using Value.induction with
  | leaf value notList notTuple notDict =>
    cases value with
    | float x => cases x <;> simp_all [isJson,validateJson]
    | _ => simp_all [isJson,validateJson]
  | list items inside =>
    have each := (isJson_list items).mp json
    exact validateItems_ok fun item listed => inside item listed (each item listed)
  | tuple items inside => simp [isJson] at json
  | dict members inside =>
    obtain ⟨record,each⟩ := (isJson_dict members).mp json
    exact validateMembers_ok record.named fun member listed => inside member listed (each member listed)

theorem strictCanonicalJson_ok (json : isJson value = true) :
    ∃ text, canonicalJsonDumps value = some text ∧ strictCanonicalJson value = .ok text := by
  obtain ⟨written,made⟩ := Option.isSome_iff_exists.mp (isJson_recordable value json)
  have text : canonicalJsonDumps value = some (dumps compact written) := by rw [canonicalJsonDumps,made,Option.map_some]
  refine ⟨_,text,?_⟩
  unfold strictCanonicalJson
  rw [validateJson_ok value json,text]
  rfl

theorem isJson_fields (named : StrKeys members) (distinct : (members.map Prod.fst).Nodup)
    (each : ∀ member ∈ members, isJson member.2 = true) : isJson (.dict members) = true :=
  (isJson_dict members).mpr ⟨⟨named,distinct⟩,each⟩

theorem dictOf_json (json : isJson value = true) : isJson (.dict (dictOf value)) = true := by
  cases value with
  | dict members => exact json
  | _ => rfl

theorem orElse_json (one : isJson first = true) (other : isJson second = true) : isJson (orElse first second) = true := by
  unfold orElse
  split
  · exact one
  · exact other

theorem evidenceItems_json (json : isJson (.dict payload) = true) : ∀ item ∈ evidenceItems payload, isJson item = true := by
  have own := isJson_get json "evidence"
  have extra := isJson_get (dictOf_json (isJson_get json "extras")) "evidence"
  unfold evidenceItems
  split
  · rename_i items held
    rw [held] at own
    exact (isJson_list items).mp own
  · split
    · rename_i items held
      rw [held] at extra
      exact (isJson_list items).mp extra
    · simp

theorem stableItem_json (json : isJson (.dict item) = true) : isJson (.dict (stableItem item)) = true := by
  refine isJson_fields ?_ ?_ ?_
  · simp [stableItem,field,StrKeys]
  · simp [stableItem,field]
  · simp [stableItem,field,isJson_get json,orElse_json]

theorem stableItems_json (each : ∀ item ∈ items, isJson item = true) : ∀ item ∈ stableItems items, isJson (.dict item) = true := by
  intro item listed
  obtain ⟨value,there,made⟩ := List.mem_filterMap.mp listed
  cases value with
  | dict members =>
    obtain rfl := Option.some.inj made
    exact stableItem_json (each _ there)
  | _ => cases made

theorem continuationState_json (json : isJson (.dict state) = true) : isJson (.dict (continuationState state)) = true := by
  refine isJson_fields ?_ ?_ ?_
  · simp [continuationState,field,StrKeys]
  · simp [continuationState,field]
  · simp [continuationState,field,isJson_get json]

theorem continuationReceipt_json (json : isJson (.dict receipt) = true) : isJson (.dict (continuationReceipt receipt)) = true := by
  refine isJson_fields ?_ ?_ ?_
  · simp [continuationReceipt,field,StrKeys]
  · simp [continuationReceipt,field]
  · simp [continuationReceipt,field,isJson_get json]

structure Projection.Json (p : Projection) : Prop where
  decision : isJson p.decision = true
  fuji : isJson p.fuji = true
  valueScores : isJson p.valueScores = true
  evidence : isJson p.evidence = true
  continuation : ∀ parts ∈ p.continuation, isJson (.dict parts.1) = true ∧ isJson (.dict parts.2) = true

theorem Projection.Json.whole (json : p.Json) : isJson (.dict p.toDict) = true := by
  obtain ⟨decision,fuji,valueScores,evidence,continuation⟩ := json
  cases held : p.continuation with
  | none =>
    refine isJson_fields ?_ ?_ ?_
    · simp [Projection.toDict,held,continuationDict,field,StrKeys]
    · simp [Projection.toDict,held,continuationDict,field]
    · simp [Projection.toDict,held,continuationDict,field,decision,fuji,valueScores,evidence]
  | some parts =>
    obtain ⟨state,receipt⟩ := continuation parts held
    refine isJson_fields ?_ ?_ ?_
    · simp [Projection.toDict,held,continuationDict,field,StrKeys]
    · simp [Projection.toDict,held,continuationDict,field]
    · simp [Projection.toDict,held,continuationDict,field,decision,fuji,valueScores,evidence,state,receipt]

theorem projected_json (lowered : String → String) (json : isJson (.dict payload) = true) : (projected lowered payload).Json := by
  have inside (name : String) : isJson (.dict (dictOf (payload.get name))) = true := dictOf_json (isJson_get json name)
  refine ⟨?_,?_,isJson_get json _,?_,?_⟩
  · refine isJson_fields ?_ ?_ ?_
    · simp [field,StrKeys]
    · simp [field]
    · simp [field,isJson_get (inside "decision")]
  · refine isJson_fields ?_ ?_ ?_
    · simp [field,StrKeys]
    · simp [field]
    · simp [field,isJson_get (inside "fuji")]
  · refine (isJson_list _).mpr fun value listed => ?_
    obtain ⟨item,there,rfl⟩ := List.mem_map.mp listed
    exact stableItems_json (evidenceItems_json json) item ((List.perm_insertionSort _ _).mem_iff.mp there)
  · intro parts held
    obtain ⟨continuation,found,rfl⟩ := Option.map_eq_some_iff.mp held
    have here := isJson_get json "continuation"
    cases value : payload.get "continuation" with
    | dict members =>
      rw [value] at found here
      obtain rfl := Option.some.inj found
      exact ⟨continuationState_json (dictOf_json (isJson_get here _)),continuationReceipt_json (dictOf_json (isJson_get here _))⟩
    | _ =>
      rw [value] at found
      cases found

theorem semanticProjection_ok (lowered : String → String) (json : isJson (.dict payload) = true) :
    semanticProjection lowered payload = .ok (projected lowered payload) :=
  bind_ok.mpr ⟨(),validateJson_ok _ (projected_json lowered json).whole,rfl⟩

theorem sanitizeItems_map (items : List Value) : sanitizeItems items = items.map sanitizeForDiff := by
  induction items with
  | nil => rfl
  | cons item rest ih => rw [sanitizeItems,ih,List.map_cons]

def stable (key : Key) : Bool := !volatile.contains (keyStr key)

theorem sanitizeMembers_filter (named : StrKeys members) :
    sanitizeMembers members = (members.filter fun member => stable member.1).map fun member => (member.1,sanitizeForDiff member.2) := by
  induction members with
  | nil => rfl
  | cons member rest ih =>
    obtain ⟨key,value⟩ := member
    obtain ⟨name,rfl⟩ := named _ List.mem_cons_self
    have later := ih fun other listed => named other (List.mem_cons_of_mem _ listed)
    rw [sanitizeMembers]
    split
    · rename_i skipped
      rw [later,List.filter_cons_of_neg (by simpa [stable] using skipped)]
    · rename_i kept
      rw [later,List.filter_cons_of_pos (by simpa [stable] using kept)]
      rfl

theorem sanitizeMembers_keys (named : StrKeys members) : (sanitizeMembers members).map Prod.fst = (members.map Prod.fst).filter stable := by
  rw [sanitizeMembers_filter named,List.map_map,List.filter_map]
  rfl

theorem sanitize_record (record : Record members) : sanitizeForDiff (.dict members) = .dict (sanitizeMembers members) := by
  have distinct : ((sanitizeMembers members).map Prod.fst).Nodup := by
    rw [sanitizeMembers_keys record.named]
    exact record.distinct.filter _
  rw [sanitizeForDiff,update_fresh [] _ (by simpa using distinct)]
  rfl

theorem lookup_sanitizeMembers (record : Record members) (kept : stable key = true) :
    lookup key (sanitizeMembers members) = (lookup key members).map sanitizeForDiff := by
  rw [sanitizeMembers_filter record.named]
  induction members with
  | nil => rfl
  | cons member rest ih =>
    obtain ⟨own,value⟩ := member
    have later := ih ⟨fun other listed => record.named other (List.mem_cons_of_mem _ listed),record.distinct.of_cons⟩
    by_cases here : own = key
    · subst own
      rw [List.filter_cons_of_pos (by exact kept)]
      simp [lookup]
    · rw [List.filter_cons]
      split
      · simp [lookup,here,later]
      · simp [lookup,here,later]

theorem sanitize_equal (a : Value) : ∀ {b : Value}, isJson a = true → isJson b = true → pyEq a b = true →
    pyEq (sanitizeForDiff a) (sanitizeForDiff b) = true := by
  induction a using Value.induction with
  | leaf value notList notTuple notDict =>
    intro b _ _ same
    have plain : sanitizeForDiff value = value := by
      cases value with
      | list items => exact absurd rfl (notList items)
      | dict members => exact absurd rfl (notDict members)
      | _ => rfl
    rw [plain]
    cases b with
    | list items =>
      obtain ⟨others,rfl⟩ := pyEq_listed same
      exact absurd rfl (notList others)
    | dict members =>
      cases value with
      | dict others => exact absurd rfl (notDict others)
      | _ => simp [pyEq,Value.number] at same
    | _ => exact same
  | list items inside =>
    intro b left right same
    obtain ⟨others,rfl,each⟩ := (pyEq_list _ _).mp same
    rw [isJson_list] at left right
    rw [sanitizeForDiff,sanitizeForDiff,sanitizeItems_map,sanitizeItems_map]
    refine (pyEq_list _ _).mpr ⟨_,rfl,?_⟩
    clear same
    induction each with
    | nil => exact .nil
    | @cons x y xs ys head rest ih =>
      rw [List.forall_mem_cons] at left right
      exact .cons (inside x List.mem_cons_self left.1 right.1 head)
        (ih (fun item listed => inside item (List.mem_cons_of_mem _ listed)) left.2 right.2)
  | tuple items inside =>
    intro b left
    simp [isJson] at left
  | dict members inside =>
    intro b left right same
    obtain ⟨others,rfl,length,each⟩ := (pyEq_dict _ _).mp same
    obtain ⟨record,values⟩ := (isJson_dict members).mp left
    have other := ((isJson_dict others).mp right).1
    rw [sanitize_record record,sanitize_record other]
    refine (pyEq_dict _ _).mpr ⟨_,rfl,?_,?_⟩
    · have perm := (pyEq_keys record.distinct same).filter stable
      rw [← sanitizeMembers_keys record.named,← sanitizeMembers_keys other.named] at perm
      simpa using perm.length_eq
    · intro member listed
      rw [sanitizeMembers_filter record.named,List.mem_map] at listed
      obtain ⟨origin,there,rfl⟩ := listed
      obtain ⟨source,kept⟩ := List.mem_filter.mp there
      obtain ⟨found,present,equal⟩ := each origin source
      refine ⟨sanitizeForDiff found,?_,inside origin source (values origin source) (isJson_lookup right present) equal⟩
      rw [lookup_sanitizeMembers other kept,present,Option.map_some]

def baseKeys : List Key := [.str "decision",.str "fuji",.str "value_scores",.str "evidence"]

def continuationKeys : List Key := [.str "continuation_state",.str "continuation_receipt"]

def fieldKeys : List Key :=
  [.str "continuation_receipt",.str "continuation_state",.str "decision",.str "evidence",.str "fuji",.str "value_scores"]

def Projection.keys (p : Projection) : List Key := baseKeys ++ if p.continuation.isSome then continuationKeys else []

theorem toDict_keys (p : Projection) : p.toDict.map Prod.fst = p.keys := by
  unfold Projection.toDict Projection.keys
  cases p.continuation <;> rfl

theorem sorted_keys : ∀ first second : Bool,
    ((baseKeys ++ if first then continuationKeys else []) ++ (baseKeys ++ if second then continuationKeys else [])).dedup.insertionSort
      (fun a b => keyLe a b = true) = if first || second then fieldKeys else fieldKeys.drop 2 := by
  decide

theorem changedKeys_projection (p q : Projection) : changedKeys p.toDict q.toDict = fieldKeys.filter (differs p.toDict q.toDict) := by
  have keys : sortedKeys p.toDict q.toDict = if p.continuation.isSome || q.continuation.isSome then fieldKeys else fieldKeys.drop 2 := by
    rw [sortedKeys,List.map_append,toDict_keys,toDict_keys]
    exact sorted_keys _ _
  rw [changedKeys,keys]
  split
  · rfl
  · rename_i without
    simp only [Bool.or_eq_true,Option.isSome_iff_ne_none,not_or,not_not] at without
    have absent : ∀ key ∈ continuationKeys, differs p.toDict q.toDict key = false := by
      simp [continuationKeys,differs,keyLookup,Projection.toDict,without,continuationDict,field,lookup,pyEq]
    have receipt := absent (.str "continuation_receipt") (by decide)
    have state := absent (.str "continuation_state") (by decide)
    rw [fieldKeys,List.filter_cons_of_neg (by simp [receipt]),List.filter_cons_of_neg (by simp [state])]
    rfl

theorem pyEq_projection (p q : Projection) :
    pyEq (.dict p.toDict) (.dict q.toDict) = true ↔ ∀ key ∈ fieldKeys, differs p.toDict q.toDict key = false := by
  have absent : pyEq .none .none = true := rfl
  have gained (d : Dict) : pyEq .none (.dict d) = false := rfl
  have lost (d : Dict) : pyEq (.dict d) .none = false := rfl
  cases left : p.continuation with
  | none =>
    cases right : q.continuation with
    | none =>
      simp [fieldKeys,differs,keyLookup,Projection.toDict,left,right,continuationDict,field,lookup,pyEq_dict,absent]
      tauto
    | some others => simp [fieldKeys,differs,keyLookup,Projection.toDict,left,right,continuationDict,field,lookup,pyEq_dict,gained]
  | some parts =>
    cases right : q.continuation with
    | none => simp [fieldKeys,differs,keyLookup,Projection.toDict,left,right,continuationDict,field,lookup,pyEq_dict,lost]
    | some others =>
      simp [fieldKeys,differs,keyLookup,Projection.toDict,left,right,continuationDict,field,lookup,pyEq_dict]
      tauto

def Projection.sanitized (p : Projection) : Projection where
  decision := sanitizeForDiff p.decision
  fuji := sanitizeForDiff p.fuji
  valueScores := sanitizeForDiff p.valueScores
  evidence := sanitizeForDiff p.evidence
  continuation := p.continuation.map fun parts => (dictOf (sanitizeForDiff (.dict parts.1)),dictOf (sanitizeForDiff (.dict parts.2)))

theorem stable_field : ∀ key ∈ fieldKeys, stable key = true := by decide

theorem sanitize_dict (members : Dict) : Value.dict (dictOf (sanitizeForDiff (.dict members))) = sanitizeForDiff (.dict members) := by
  rw [sanitizeForDiff]
  rfl

theorem toDict_record (p : Projection) : Record p.toDict := by
  constructor
  · unfold Projection.toDict
    cases p.continuation <;> simp [StrKeys,continuationDict,field]
  · rw [toDict_keys]
    unfold Projection.keys
    cases p.continuation.isSome <;> decide

theorem sanitized_toDict (p : Projection) : dictOf (sanitizeForDiff (.dict p.toDict)) = p.sanitized.toDict := by
  have all : ∀ member ∈ p.toDict, stable member.1 = true := by
    intro member listed
    refine stable_field _ ?_
    have named : member.1 ∈ p.keys := toDict_keys p ▸ List.mem_map_of_mem listed
    unfold Projection.keys at named
    revert named
    generalize member.1 = key
    intro named
    rcases List.mem_append.mp named with base | more
    · exact (by decide : ∀ key ∈ baseKeys, key ∈ fieldKeys) key base
    · split at more
      · exact (by decide : ∀ key ∈ continuationKeys, key ∈ fieldKeys) key more
      · cases more
  rw [sanitize_record (toDict_record p),sanitizeMembers_filter (toDict_record p).named,List.filter_eq_self.mpr all]
  unfold Projection.toDict Projection.sanitized
  cases p.continuation with
  | none => rfl
  | some parts =>
    simp only [List.map_append,List.map_cons,List.map_nil,continuationDict,field,Option.map_some,sanitize_dict]
    rfl

theorem sanitized_lookup (p : Projection) (listed : key ∈ fieldKeys) :
    keyLookup p.sanitized.toDict key = sanitizeForDiff (keyLookup p.toDict key) := by
  have whole : p.sanitized.toDict = sanitizeMembers p.toDict := by
    rw [← sanitized_toDict,sanitize_record (toDict_record p)]
    rfl
  rw [keyLookup,keyLookup,whole,lookup_sanitizeMembers (toDict_record p) (stable_field key listed)]
  cases lookup key p.toDict <;> rfl

def worst (severities : List Severity) : Severity :=
  if severities.contains .critical then .critical else if severities.contains .warning then .warning else .info

-- What each comparator says of the fields it finds changed.
def verdictOf (fields : List Key) : Verdict :=
  ⟨fields.isEmpty,fields,worst (fields.map severityMap),determineDivergence (fields.map severityMap)⟩

theorem classify_severity (key : Key) : classifyFieldSeverity key = severityMap key := by
  unfold classifyFieldSeverity severityMap
  split <;> simp_all

theorem engine_verdict (before after : Dict) : (buildDiff before after).verdict = verdictOf (changedKeys before after) := by
  have severities : ((changedKeys before after).map (fieldDetail before after)).map FieldDetail.severity = (changedKeys before after).map severityMap := by
    rw [List.map_map]
    exact List.map_congr_left fun key _ => classify_severity key
  simp only [EngineDiff.verdict,buildDiff,severities,verdictOf,worst]

theorem worst_critical (severities : List Severity) : worst severities = .critical ↔ severities.contains .critical = true := by
  unfold worst
  split
  · simp_all
  · split <;> simp_all

theorem evidence_verdict (original replayed : Dict) : (diffMetadata original replayed).verdict = verdictOf (changedKeys original replayed) := by
  have divergence (fields : List Key) : (if worst (fields.map severityMap) = .critical then Divergence.criticalDivergence
      else if fields = [] then .noDivergence else .acceptableDivergence) = determineDivergence (fields.map severityMap) := by
    simp only [worst_critical,determineDivergence,List.map_eq_nil_iff]
    cases fields with
    | nil => rfl
    | cons key rest => rfl
  rw [DiffMetadata.verdict,verdictOf,← divergence]
  rfl

-- The pipeline compares what is left of the projections without their volatile keys.
theorem pipeline_verdict (p q : Projection) :
    (buildReplayDiff p.toDict q.toDict).verdict = verdictOf (fieldKeys.filter (differs p.sanitized.toDict q.sanitized.toDict)) := by
  unfold buildReplayDiff
  simp only [sanitized_toDict,changedKeys_projection]
  split
  · rename_i same
    have none_ : fieldKeys.filter (differs p.sanitized.toDict q.sanitized.toDict) = [] :=
      List.filter_eq_nil_iff.mpr fun key listed => by simp [(pyEq_projection _ _).mp same key listed]
    rw [none_]
    rfl
  · rename_i other
    have some_ : fieldKeys.filter (differs p.sanitized.toDict q.sanitized.toDict) ≠ [] := by
      intro none_
      refine other ((pyEq_projection _ _).mpr fun key listed => ?_)
      simpa using List.filter_eq_nil_iff.mp none_ key listed
    cases changed : fieldKeys.filter (differs p.sanitized.toDict q.sanitized.toDict) with
    | nil => exact absurd changed some_
    | cons key rest => simp [ReplayDiff.verdict,verdictOf,worst,determineDivergence]

-- All three comparators say the same, a match is a match of the hashes, and no entry point refuses.
structure OneNotion (sha256 : String → String) (before after : Dict) : Prop where
  engine : (buildDiff before after).verdict = (diffMetadata before after).verdict
  pipeline : (buildReplayDiff before after).verdict = (diffMetadata before after).verdict
  hashed : (diffMetadata before after).verdict.semanticMatch = true ↔ semanticHash sha256 before = semanticHash sha256 after
  unrefused : runReplayRefuses before after = false ∧ replayDecisionRefuses before after = false

-- A changed field is still changed without its volatile keys, and equal projections are written alike.
structure Telling (p q : Projection) : Prop where
  kept : ∀ key ∈ fieldKeys, pyEq (keyLookup p.toDict key) (keyLookup q.toDict key) = false →
    pyEq (sanitizeForDiff (keyLookup p.toDict key)) (sanitizeForDiff (keyLookup q.toDict key)) = false
  written : pyEq (.dict p.toDict) (.dict q.toDict) = true → canonicalJsonDumps (.dict p.toDict) = canonicalJsonDumps (.dict q.toDict)

theorem Projection.Json.lookup (json : p.Json) (key : Key) : isJson (keyLookup p.toDict key) = true := by
  unfold keyLookup
  cases found : VeritasOs.lookup key p.toDict with
  | none => rfl
  | some value => exact isJson_lookup json.whole found

theorem pipeline_agrees (first : p.Json) (second : q.Json) :
    (buildReplayDiff p.toDict q.toDict).verdict = (diffMetadata p.toDict q.toDict).verdict ↔
      ∀ key ∈ fieldKeys, pyEq (keyLookup p.toDict key) (keyLookup q.toDict key) = false →
        pyEq (sanitizeForDiff (keyLookup p.toDict key)) (sanitizeForDiff (keyLookup q.toDict key)) = false := by
  rw [pipeline_verdict,evidence_verdict,changedKeys_projection]
  have only : verdictOf (fieldKeys.filter (differs p.sanitized.toDict q.sanitized.toDict)) = verdictOf (fieldKeys.filter (differs p.toDict q.toDict)) ↔
      ∀ key ∈ fieldKeys, differs p.sanitized.toDict q.sanitized.toDict key = differs p.toDict q.toDict key := by
    constructor
    · intro same key listed
      have fields := congrArg Verdict.fields same
      have member := Eq.to_iff (congrArg (key ∈ ·) fields)
      simp only [verdictOf,List.mem_filter,listed,true_and] at member
      exact Bool.eq_iff_iff.mpr member
    · intro same
      rw [List.filter_congr same]
  rw [only]
  refine forall_congr' fun key => forall_congr' fun listed => ?_
  rw [differs,differs,sanitized_lookup p listed,sanitized_lookup q listed,Bool.not_inj_iff]
  have still := sanitize_equal (keyLookup p.toDict key) (first.lookup key) (second.lookup key)
  cases own : pyEq (keyLookup p.toDict key) (keyLookup q.toDict key) with
  | true => simp [still own]
  | false => simp

theorem preimage_json (json : p.Json) : isJson (.dict (preimage p.toDict)) = true := by
  refine isJson_fields ?_ ?_ ?_
  · simp [preimage,field,StrKeys]
  · simp [preimage,field]
  · simp [preimage,field,json.whole]

theorem preimage_same (first : p.Json) (second : q.Json) :
    SameJson (.dict (preimage p.toDict)) (.dict (preimage q.toDict)) ↔ SameJson (.dict p.toDict) (.dict q.toDict) := by
  constructor
  · intro same
    have inside := sameJson_get (preimage_json first) (preimage_json second) same "projection"
    simpa [preimage,Dict.get,field,lookup] using inside
  · intro same
    exact sameJson_members (.cons ⟨rfl,rfl⟩ (.cons ⟨rfl,same⟩ .nil))

theorem hash_same (first : p.Json) (second : q.Json)
    (apart : Distinguishes sha256 (.dict (preimage p.toDict)) (.dict (preimage q.toDict))) :
    semanticHash sha256 p.toDict = semanticHash sha256 q.toDict ↔ SameJson (.dict p.toDict) (.dict q.toDict) := by
  obtain ⟨s,one,made⟩ := strictCanonicalJson_ok (preimage_json first)
  obtain ⟨t,other,also⟩ := strictCanonicalJson_ok (preimage_json second)
  have hashS : semanticHash sha256 p.toDict = .ok (sha256 s) := bind_ok.mpr ⟨s,made,rfl⟩
  have hashT : semanticHash sha256 q.toDict = .ok (sha256 t) := bind_ok.mpr ⟨t,also,rfl⟩
  rw [hashS,hashT,Except.ok.injEq,← preimage_same first second]
  constructor
  · intro equal
    exact distinguished apart one other equal
  · intro same
    have texts : canonicalJsonDumps (.dict (preimage p.toDict)) = canonicalJsonDumps (.dict (preimage q.toDict)) := congrArg (Option.map (dumps compact)) same
    rw [one,other] at texts
    rw [Option.some.inj texts]

theorem unchanged_exact (p q : Projection) :
    (diffMetadata p.toDict q.toDict).verdict.semanticMatch = true ↔ pyEq (.dict p.toDict) (.dict q.toDict) = true := by
  rw [evidence_verdict,changedKeys_projection,pyEq_projection]
  simp [verdictOf]

theorem oneNotion_exact (first : p.Json) (second : q.Json)
    (apart : Distinguishes sha256 (.dict (preimage p.toDict)) (.dict (preimage q.toDict))) :
    OneNotion sha256 p.toDict q.toDict ↔ Telling p q := by
  have engine : (buildDiff p.toDict q.toDict).verdict = (diffMetadata p.toDict q.toDict).verdict := by
    rw [engine_verdict,evidence_verdict]
  have hashes : ((diffMetadata p.toDict q.toDict).verdict.semanticMatch = true ↔ semanticHash sha256 p.toDict = semanticHash sha256 q.toDict) ↔
      (pyEq (.dict p.toDict) (.dict q.toDict) = true → SameJson (.dict p.toDict) (.dict q.toDict)) := by
    rw [unchanged_exact,hash_same first second apart]
    exact ⟨Iff.mp,fun written => ⟨written,sameJson_equal _ first.whole second.whole⟩⟩
  have texts : canonicalJsonDumps (.dict p.toDict) = canonicalJsonDumps (.dict q.toDict) ↔ SameJson (.dict p.toDict) (.dict q.toDict) :=
    ⟨fun same => Option.map_injective (dumps_injective compact) same,fun same => congrArg (Option.map (dumps compact)) same⟩
  constructor
  · rintro ⟨_,pipeline,hashed,_⟩
    exact ⟨(pipeline_agrees first second).mp pipeline,fun equal => texts.mpr (hashes.mp hashed equal)⟩
  · rintro ⟨kept,written⟩
    have pipeline := (pipeline_agrees first second).mpr kept
    refine ⟨engine,pipeline,hashes.mpr fun equal => texts.mp (written equal),?_,?_⟩
    · simp [runReplayRefuses,engine]
    · simp [replayDecisionRefuses,pipeline]

def scored (ts : Int) : Dict := [field "value_scores" (.dict [field "ts" (.int ts)])]

end VeritasOs.ReplaySemantics
