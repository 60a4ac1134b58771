import VeritasOs.JsonAscii
import VeritasOs.JsonData
import VeritasOs.PolicyCompiler
import VeritasOs.PolicyEvaluator

namespace VeritasOs.PolicyAuthoring
open Text JsonText BindArtifacts PolicyBundle PolicyCompiler DateTime
open PolicyEvaluator (distinct orderedTexts dateFromisoformat)
open PipelinePolicy (Outcome)
open WatVerifier (Python toInt)
open JsonAscii (asciiDumps)
open KeyOrder (sortBy pairLe)

structure Expression where
  field : String
  operator : String
  value : Value

structure PolicyScope where
  domains : List String
  routes : List String
  actors : List String

structure PolicyRequirements where
  requiredEvidence : List String
  requiredReviewers : List String
  minimumApprovalCount : Int

structure PolicyOutcome where
  decision : Outcome
  reason : String

structure PolicyExample where
  name : String
  input : Dict
  expectedOutcome : Outcome

structure SourcePolicy where
  schemaVersion : String
  policyId : String
  version : String
  title : String
  description : String
  effectiveDate : Option String
  scope : PolicyScope
  conditions : List Expression
  requirements : PolicyRequirements
  constraints : List Expression
  outcome : PolicyOutcome
  obligations : List String
  testVectors : List PolicyExample
  sourceRefs : List String
  metadata : Dict

def within (low high : Nat) (s : String) : Bool := decide (low ≤ s.length ∧ s.length ≤ high)

-- [item.strip() for item in values if item and item.strip()]
def cleaned (values : List String) : List String := (values.filter fun item => item != "" && strip item != "").map strip

def operators : List String := ["eq","neq","in","not_in","gt","gte","lt","lte","contains","regex"]

def Expression.validated (given : Expression) : Option Expression :=
  if within 1 120 given.field && operators.contains given.operator then some { given with field := strip given.field } else none

def scopeItems (values : List String) : Option (List String) :=
  if values.isEmpty || (cleaned values).isEmpty then none else some (cleaned values)

def PolicyScope.validated (given : PolicyScope) : Option PolicyScope := do
  let domains ← scopeItems given.domains
  let routes ← scopeItems given.routes
  let actors ← scopeItems given.actors
  return ⟨domains,routes,actors⟩

def PolicyRequirements.validated (given : PolicyRequirements) : Option PolicyRequirements :=
  let reviewers := cleaned given.requiredReviewers
  if 0 ≤ given.minimumApprovalCount ∧ given.minimumApprovalCount ≤ 20 ∧ given.minimumApprovalCount ≤ (distinct reviewers).length then
    some ⟨cleaned given.requiredEvidence,reviewers,given.minimumApprovalCount⟩
  else none

def PolicyOutcome.validated (given : PolicyOutcome) : Option PolicyOutcome :=
  if within 0 2000 given.reason then some { given with reason := strip given.reason } else none

def PolicyExample.validated (given : PolicyExample) : Option PolicyExample :=
  if within 1 200 given.name then some { given with name := strip given.name } else none

def validatedDate : Option String → Option (Option String)
  | none => some none
  | some value => if (dateFromisoformat (strip value).toList).isSome then some (some (strip value)) else none

def strategies : List String := ["disabled","canary","staged","full"]

-- rollout_controls is absent, or an object with a known strategy, a percentage and a readable instant.
def rolloutValid (python : Python) : Value → Bool
  | .none => true
  | .dict controls =>
    strategies.contains (lower (strip (Dict.getD controls "strategy" (.str "")).text)) &&
    (match toInt python (Dict.getD controls "canary_percent" (.int 0)) with
      | .ok percent => decide (0 ≤ percent ∧ percent ≤ 100)
      | .error _ => false) &&
    (match Dict.get controls "full_enforce_after" with
      | .none => true
      | instant => (fromisoformat (expandZulu (strip instant.text).toList)).isSome)
  | _ => false

def filledIfGiven (value : Value) : Bool :=
  match value with
  | .none => true
  | given => strip given.text != ""

def rollbackValid : Value → Bool
  | .none => true
  | .dict rollback => filledIfGiven (Dict.get rollback "target_policy_version") && filledIfGiven (Dict.get rollback "reason")
  | _ => false

def metadataValid (python : Python) (metadata : Dict) : Bool :=
  rolloutValid python (metadata.get "rollout_controls") && rollbackValid (metadata.get "rollback")

def supportedSchema : String := "1.0"

-- SourcePolicy.model_validate, for fields that have their types
def SourcePolicy.validated (python : Python) (given : SourcePolicy) : Option SourcePolicy :=
  if within 3 120 given.policyId && within 1 50 given.version && within 1 200 given.title && within 1 4000 given.description &&
      metadataValid python given.metadata && given.schemaVersion == supportedSchema then do
    let effectiveDate ← validatedDate given.effectiveDate
    let scope ← given.scope.validated
    let conditions ← given.conditions.mapM Expression.validated
    let requirements ← given.requirements.validated
    let constraints ← given.constraints.mapM Expression.validated
    let outcome ← given.outcome.validated
    let testVectors ← given.testVectors.mapM PolicyExample.validated
    return { given with
      policyId := strip given.policyId,version := strip given.version,title := strip given.title,description := strip given.description,
      effectiveDate,scope,conditions,requirements,constraints,outcome,obligations := cleaned given.obligations,testVectors,
      sourceRefs := cleaned given.sourceRefs }
  else none

-- sorted({value.strip() for value in values if value and value.strip()})
def dedupeSorted (values : List String) : List String := orderedTexts (cleaned values)

-- \x7bkey: mapping[key] for key in sorted(mapping.keys())\x7d
def sortedMapping (members : Dict) : Except Exc Dict :=
  if members.length ≤ 1 ∨ (members.all fun member => member.1.isStr) = true ∨ (members.all fun member => (keyNumber member.1).isSome) = true then
    .ok (members.insertionSort fun a b => keyLe a.1 b.1 = true)
  else .error (typeError "'<' not supported between instances")

def normalizeExpression (expr : Expression) : Except Exc Expression :=
  match expr.value with
  | .dict members => do
    let sorted ← sortedMapping members
    return ⟨strip expr.field,expr.operator,.dict sorted⟩
  | value => .ok ⟨strip expr.field,expr.operator,value⟩

def jsonKey (value : Value) : Except Exc String :=
  match toJson true value with
  | some json => .ok (asciiDumps json)
  | none => .error encodingError

abbrev SortKey := String × String × String

def textOrder (a b : String) : Prop := textLe a b = true

instance : DecidableRel textOrder := fun a b => inferInstanceAs (Decidable (textLe a b = true))
instance : Std.Total textOrder := inferInstanceAs (Std.Total fun a b : String => textLe a b = true)
instance : IsTrans String textOrder := inferInstanceAs (IsTrans String fun a b => textLe a b = true)
instance : Std.Antisymm textOrder := inferInstanceAs (Std.Antisymm fun a b : String => textLe a b = true)

-- items.sort(key=..) on texts of three parts; every key is made before the first comparison.
def sortKeyed (key : α → Except Exc SortKey) (items : List α) : Except Exc (List α) := do
  let keyed ← items.mapM fun item => do
    let made ← key item
    return (made,item)
  return (sortBy (pairLe textOrder (pairLe textOrder textOrder)) Prod.fst keyed).map Prod.snd

def expressionKey (item : Expression) : Except Exc SortKey := do
  let text ← jsonKey item.value
  return (item.field,item.operator,text)

def Expression.toDict (item : Expression) : Dict :=
  [(.str "field",.str item.field),(.str "operator",.str item.operator),(.str "value",item.value)]

def normalizeExpressionList (values : List Expression) : Except Exc (List Dict) := do
  let expressions ← values.mapM normalizeExpression
  let sorted ← sortKeyed expressionKey expressions
  return sorted.map Expression.toDict

mutual
def normalizeJsonValue : Value → Except Exc Value
  | .dict members => do
    let normalized ← normalizeMembers members
    let sorted ← sortedMapping normalized
    return .dict sorted
  | .list items => do
    let normalized ← normalizeItems items
    return .list normalized
  | value => .ok value
def normalizeItems : List Value → Except Exc (List Value)
  | [] => .ok []
  | item :: rest => do
    let first ← normalizeJsonValue item
    let others ← normalizeItems rest
    return first :: others
def normalizeMembers : List (Key × Value) → Except Exc (List (Key × Value))
  | [] => .ok []
  | (key,value) :: rest => do
    let first ← normalizeJsonValue value
    let others ← normalizeMembers rest
    return (key,first) :: others
end

def exampleKey (item : PolicyExample) : Except Exc SortKey := do
  let text ← jsonKey (.dict item.input)
  return (item.name,text,item.expectedOutcome.text)

def PolicyExample.toDict (item : PolicyExample) : Dict :=
  [field "name" (.str item.name),field "input" (.dict item.input),field "expected_outcome" (.str item.expectedOutcome.text)]

def canonicalIr (policy : SourcePolicy) (conditions constraints : List Dict) (testVectors : List PolicyExample) (metadata : Value) : Dict := [
  field "schema_version" (.str policy.schemaVersion),field "policy_id" (.str policy.policyId),field "version" (.str policy.version),
  field "title" (.str policy.title),field "description" (.str policy.description),field "effective_date" (optStr policy.effectiveDate),
  field "scope" (.dict [field "domains" (strList (dedupeSorted policy.scope.domains)),
    field "routes" (strList (dedupeSorted policy.scope.routes)),field "actors" (strList (dedupeSorted policy.scope.actors))]),
  field "conditions" (dictList conditions),field "requirements" (.dict [
    field "required_evidence" (strList (dedupeSorted policy.requirements.requiredEvidence)),
    field "required_reviewers" (strList (dedupeSorted policy.requirements.requiredReviewers)),
    field "minimum_approval_count" (.int policy.requirements.minimumApprovalCount)]),field "constraints" (dictList constraints),
  field "outcome" (.dict [field "decision" (.str policy.outcome.decision.text),field "reason" (.str policy.outcome.reason)]),
  field "obligations" (strList (dedupeSorted policy.obligations)),field "test_vectors" (dictList (testVectors.map PolicyExample.toDict)),
  field "source_refs" (strList (dedupeSorted policy.sourceRefs)),field "metadata" metadata]

def toCanonicalIr (policy : SourcePolicy) : Except Exc Dict := do
  let testVectors ← sortKeyed exampleKey policy.testVectors
  let conditions ← normalizeExpressionList policy.conditions
  let constraints ← normalizeExpressionList policy.constraints
  let metadata ← normalizeJsonValue (.dict policy.metadata)
  return canonicalIr policy conditions constraints testVectors metadata

theorem record_perm (record : Record a) (perm : a.Perm b) : Record b :=
  ⟨fun member listed => record.named member (perm.mem_iff.mpr listed),(perm.map Prod.fst).nodup_iff.mp record.distinct⟩

variable {members : Dict} {items : List Value} {a b : Value} {policy : SourcePolicy}

theorem sortedMapping_record (record : Record members) : ∃ sorted, sortedMapping members = .ok sorted ∧ members.Perm sorted := by
  have named : (members.all fun member => member.1.isStr) = true := by
    refine List.all_eq_true.mpr fun member listed => ?_
    obtain ⟨name,spelled⟩ := record.named member listed
    rw [spelled]
    rfl
  exact ⟨_,if_pos (.inr (.inl named)),(List.perm_insertionSort _ members).symm⟩

theorem sameJson_listed (same : List.Forall₂ SameJson items others) : SameJson (.list items) (.list others) := by
  have written : itemsJson true items = itemsJson true others := by
    induction same with
    | nil => rfl
    | @cons a b as bs head rest ih => rw [itemsJson,itemsJson,show toJson true a = toJson true b from head,ih]
  rw [SameJson,toJson,toJson,written]

structure Restates (given made : Value) : Prop where
  json : isJson made = true
  same : SameJson given made

theorem restates_list (each : List.Forall₂ Restates items others) : Restates (.list items) (.list others) where
  json := (isJson_list others).mpr (KeyOrder.partners each (fun _ _ => trivial) fun _ _ restates _ => restates.json)
  same := sameJson_listed (each.imp fun _ _ restates => restates.same)

theorem restates_sorted (json : isJson (.dict members) = true) (perm : members.Perm sorted) : Restates (.dict members) (.dict sorted) where
  json := by
    obtain ⟨record,each⟩ := (isJson_dict members).mp json
    exact (isJson_dict sorted).mpr ⟨record_perm record perm,fun member listed => each member (perm.mem_iff.mpr listed)⟩
  same := sameJson_perm ((isJson_dict members).mp json).1 perm

theorem restates_members (json : isJson (.dict members) = true)
    (each : List.Forall₂ (fun x y => x.1 = y.1 ∧ Restates x.2 y.2) members others) : Restates (.dict members) (.dict others) where
  json := by
    have keys : others.map Prod.fst = members.map Prod.fst := by
      clear json
      induction each with
      | nil => rfl
      | cons head rest ih => rw [List.map_cons,List.map_cons,ih,head.1]
    refine (isJson_dict others).mpr ⟨Record.of_keys ((isJson_dict members).mp json).1 keys,?_⟩
    exact KeyOrder.partners each (fun _ _ => trivial) fun _ _ pair _ => pair.2.json
  same := sameJson_members (each.imp fun _ _ pair => ⟨pair.1,pair.2.same⟩)

theorem Restates.trans (first : Restates a b) (second : Restates b c) : Restates a c :=
  ⟨second.json,first.same.trans second.same⟩

theorem normalizeItems_ok (each : ∀ item ∈ items, ∃ made, normalizeJsonValue item = .ok made ∧ Restates item made) :
    ∃ made, normalizeItems items = .ok made ∧ List.Forall₂ Restates items made := by
  induction items with
  | nil => exact ⟨[],rfl,.nil⟩
  | cons item rest ih =>
    obtain ⟨⟨first,head,restates⟩,inside⟩ := List.forall_mem_cons.mp each
    obtain ⟨others,tail,all⟩ := ih inside
    exact ⟨first :: others,by rw [normalizeItems,head,tail]; rfl,.cons restates all⟩

theorem normalizeMembers_ok (each : ∀ member ∈ members, ∃ made, normalizeJsonValue member.2 = .ok made ∧ Restates member.2 made) :
    ∃ made, normalizeMembers members = .ok made ∧ List.Forall₂ (fun x y => x.1 = y.1 ∧ Restates x.2 y.2) members made := by
  induction members with
  | nil => exact ⟨[],rfl,.nil⟩
  | cons member rest ih =>
    obtain ⟨⟨first,head,restates⟩,inside⟩ := List.forall_mem_cons.mp each
    obtain ⟨others,tail,all⟩ := ih inside
    exact ⟨(member.1,first) :: others,by rw [normalizeMembers,head,tail]; rfl,.cons ⟨rfl,restates⟩ all⟩

theorem normalizeJsonValue_ok (value : Value) : isJson value = true → ∃ made, normalizeJsonValue value = .ok made ∧ Restates value made := by
  intro json
  induction value using Value.induction with
  | leaf value notList notTuple notDict => cases value <;> first | exact ⟨_,rfl,json,rfl⟩ | simp_all
  | list items inside =>
    have each := (isJson_list items).mp json
    obtain ⟨made,normalized,all⟩ := normalizeItems_ok fun item listed => inside item listed (each item listed)
    exact ⟨.list made,by rw [normalizeJsonValue,normalized]; rfl,restates_list all⟩
  | tuple items inside => simp [isJson] at json
  | dict members inside =>
    obtain ⟨record,each⟩ := (isJson_dict members).mp json
    obtain ⟨made,normalized,all⟩ := normalizeMembers_ok fun member listed => inside member listed (each member listed)
    have restated := restates_members json all
    obtain ⟨sorted,ordered,perm⟩ := sortedMapping_record ((isJson_dict made).mp restated.json).1
    exact ⟨.dict sorted,by rw [normalizeJsonValue,normalized]; simp only [bind,Except.bind,ordered]; rfl,
      restated.trans (restates_sorted restated.json perm)⟩

theorem normalizeExpression_ok (json : isJson given.value = true) : ∃ made, normalizeExpression given = .ok made ∧
    made.field = strip given.field ∧ made.operator = given.operator ∧ Restates given.value made.value := by
  unfold normalizeExpression
  cases shape : given.value with
  | dict members =>
    rw [shape] at json
    obtain ⟨sorted,ordered,perm⟩ := sortedMapping_record ((isJson_dict members).mp json).1
    refine ⟨⟨strip given.field,given.operator,.dict sorted⟩,?_,rfl,rfl,restates_sorted json perm⟩
    simp only [ordered,bind,Except.bind]
    rfl
  | _ => exact ⟨_,rfl,rfl,rfl,shape ▸ json,rfl⟩

theorem jsonKey_ok (json : isJson value = true) : ∃ text, jsonKey value = .ok text := by
  obtain ⟨written,made⟩ := Option.isSome_iff_exists.mp (isJson_recordable value json)
  exact ⟨asciiDumps written,by rw [jsonKey,made]⟩

theorem jsonKey_same (same : SameJson a b) : jsonKey a = jsonKey b := by
  rw [jsonKey,jsonKey,show toJson true a = toJson true b from same]

theorem jsonKey_exact (first : jsonKey a = .ok text) (second : jsonKey b = .ok text) : SameJson a b := by
  unfold jsonKey at first second
  unfold SameJson
  cases left : toJson true a with
  | none =>
    rw [left] at first
    cases first
  | some one =>
    cases right : toJson true b with
    | none =>
      rw [right] at second
      cases second
    | some other =>
      rw [left] at first
      rw [right] at second
      exact congrArg some (JsonAscii.asciiDumps_injective ((Except.ok.inj first).trans (Except.ok.inj second).symm))

theorem mapM_returns {f : α → Except Exc β} {items : List α} (each : ∀ item ∈ items, ∃ made, f item = .ok made) :
    ∃ made, items.mapM f = .ok made := by
  induction items with
  | nil => exact ⟨[],rfl⟩
  | cons item rest ih =>
    obtain ⟨⟨first,head⟩,inside⟩ := List.forall_mem_cons.mp each
    obtain ⟨others,tail⟩ := ih inside
    exact ⟨first :: others,by rw [List.mapM_cons,head,tail]; rfl⟩

section Sorted
variable {α : Type} {key : α → Except Exc SortKey} {xs ys sorted resorted : List α}

theorem sortKeyed_returns (key : α → Except Exc SortKey) (each : ∀ item ∈ xs, ∃ made, key item = .ok made) : ∃ sorted, sortKeyed key xs = .ok sorted := by
  obtain ⟨keyed,made⟩ := mapM_returns (f := fun item => do
    let made ← key item
    return (made,item)) fun item listed => by
      obtain ⟨text,known⟩ := each item listed
      exact ⟨(text,item),by rw [known]; rfl⟩
  exact ⟨_,by rw [sortKeyed,made]; rfl⟩

theorem sortKeyed_ok (done : sortKeyed key xs = .ok sorted) : ∃ keyed : List (SortKey × α), keyed.map Prod.snd = xs ∧
    (∀ entry ∈ keyed, key entry.2 = .ok entry.1) ∧
    sorted = (sortBy (pairLe textOrder (pairLe textOrder textOrder)) Prod.fst keyed).map Prod.snd := by
  obtain ⟨keyed,made,finished⟩ := bind_ok.mp done
  have parts := FujiPolicy.mapM_parts made
  clear made done
  refine ⟨keyed,?_,?_,(Except.ok.inj finished).symm⟩
  · clear finished
    induction parts with
    | nil => rfl
    | cons head rest ih =>
      obtain ⟨text,-,same⟩ := bind_ok.mp head
      rw [List.map_cons,ih,← Except.ok.inj same]
  · clear finished
    induction parts with
    | nil => exact fun _ listed => absurd listed List.not_mem_nil
    | cons head rest ih =>
      obtain ⟨text,known,same⟩ := bind_ok.mp head
      refine List.forall_mem_cons.mpr ⟨?_,ih⟩
      rw [← Except.ok.inj same]
      exact known

theorem sortKeyed_perm (done : sortKeyed key xs = .ok sorted) : sorted.Perm xs := by
  obtain ⟨keyed,rfl,-,rfl⟩ := sortKeyed_ok done
  exact (KeyOrder.sortBy_perm _).map Prod.snd

theorem sortKeyed_shown {β : Type} {f : α → β} (first : sortKeyed key xs = .ok sorted) (second : sortKeyed key ys = .ok resorted)
    (same : (xs.map key).Perm (ys.map key)) (told : ∀ a ∈ xs, ∀ b ∈ ys, key a = key b → f a = f b) : sorted.map f = resorted.map f := by
  obtain ⟨keyed,rfl,known,rfl⟩ := sortKeyed_ok first
  obtain ⟨rekeyed,rfl,reknown,rfl⟩ := sortKeyed_ok second
  have keys : ∀ {entries : List (SortKey × α)}, (∀ entry ∈ entries, key entry.2 = .ok entry.1) →
      (entries.map Prod.snd).map key = (entries.map Prod.fst).map .ok := by
    intro entries each
    rw [List.map_map,List.map_map]
    exact List.map_congr_left each
  rw [keys known,keys reknown] at same
  have perm := (List.map_perm_map_iff fun _ _ equal => Except.ok.inj equal).mp same
  rw [List.map_map,List.map_map]
  refine KeyOrder.sortBy_shown _ perm fun a left b right equal => ?_
  refine told a.2 (List.mem_map_of_mem left) b.2 (List.mem_map_of_mem right) ?_
  rw [known a left,reknown b right,equal]

end Sorted

structure JsonValued (policy : SourcePolicy) : Prop where
  conditions : ∀ expression ∈ policy.conditions, isJson expression.value = true
  constraints : ∀ expression ∈ policy.constraints, isJson expression.value = true
  inputs : ∀ vector ∈ policy.testVectors, isJson (.dict vector.input) = true
  metadata : isJson (.dict policy.metadata) = true

theorem isJson_texts (names : List String) : isJson (strList names) = true := by
  refine (isJson_list _).mpr fun item listed => ?_
  obtain ⟨name,-,rfl⟩ := List.mem_map.mp listed
  rfl

theorem isJson_optStr (value : Option String) : isJson (optStr value) = true := by cases value <;> rfl

theorem isJson_record (record : Record members) (each : ∀ member ∈ members, isJson member.2 = true) :
    isJson (.dict members) = true := (isJson_dict members).mpr ⟨record,each⟩

theorem expression_json {item : Expression} (json : isJson item.value = true) : isJson (.dict item.toDict) = true := by
  refine isJson_record ⟨by simp [StrKeys,Expression.toDict],by simp [Expression.toDict]⟩ ?_
  simp [Expression.toDict,json]

theorem example_json {item : PolicyExample} (json : isJson (.dict item.input) = true) : isJson (.dict item.toDict) = true := by
  refine isJson_record ⟨by simp [StrKeys,PolicyExample.toDict,field],by simp [PolicyExample.toDict,field]⟩ ?_
  simp [PolicyExample.toDict,field,json]

theorem normalizeExpressionList_ok {values : List Expression} (json : ∀ expression ∈ values, isJson expression.value = true) :
    ∃ dicts, normalizeExpressionList values = .ok dicts ∧ ∀ dict ∈ dicts, isJson (.dict dict) = true := by
  obtain ⟨expressions,made⟩ := mapM_returns fun expression listed => by
    obtain ⟨made,normalized,-⟩ := normalizeExpression_ok (json expression listed)
    exact ⟨made,normalized⟩
  have written : ∀ expression ∈ expressions, isJson expression.value = true := by
    intro expression listed
    obtain ⟨given,member,normalized⟩ := MemorySearch.mapM_member made expression listed
    obtain ⟨same,again,-,-,restates⟩ := normalizeExpression_ok (json given member)
    obtain rfl := Except.ok.inj (again.symm.trans normalized)
    exact restates.json
  obtain ⟨sorted,done⟩ := sortKeyed_returns expressionKey fun expression listed => by
    obtain ⟨text,known⟩ := jsonKey_ok (written expression listed)
    exact ⟨_,by rw [expressionKey,known]; rfl⟩
  refine ⟨sorted.map Expression.toDict,by rw [normalizeExpressionList,made]; simp only [bind,Except.bind,done]; rfl,fun dict listed => ?_⟩
  obtain ⟨expression,member,rfl⟩ := List.mem_map.mp listed
  exact expression_json (written expression ((sortKeyed_perm done).mem_iff.mp member))

theorem dictList_json (json : ∀ dict ∈ dicts, isJson (.dict dict) = true) : isJson (dictList dicts) = true := by
  refine (isJson_list _).mpr fun item listed => ?_
  obtain ⟨dict,member,rfl⟩ := List.mem_map.mp listed
  exact json dict member

theorem canonicalIr_json
    (first : ∀ dict ∈ conditions, isJson (.dict dict) = true) (second : ∀ dict ∈ constraints, isJson (.dict dict) = true)
    (inputs : ∀ vector ∈ testVectors, isJson (.dict vector.input) = true) (mapping : isJson metadata = true) :
    isJson (.dict (canonicalIr policy conditions constraints testVectors metadata)) = true := by
  have vectors : isJson (dictList (testVectors.map PolicyExample.toDict)) = true := dictList_json fun dict listed => by
    obtain ⟨vector,member,rfl⟩ := List.mem_map.mp listed
    exact example_json (inputs vector member)
  refine isJson_record ⟨by simp [StrKeys,canonicalIr,field],by simp [canonicalIr,field]⟩ ?_
  have scope : isJson (.dict [field "domains" (strList (dedupeSorted policy.scope.domains)),field "routes" (strList (dedupeSorted policy.scope.routes)),
      field "actors" (strList (dedupeSorted policy.scope.actors))]) = true := by
    refine isJson_record ⟨by simp [StrKeys,field],by simp [field]⟩ ?_
    simp [field,isJson_texts]
  have requirements : isJson (.dict [field "required_evidence" (strList (dedupeSorted policy.requirements.requiredEvidence)),
      field "required_reviewers" (strList (dedupeSorted policy.requirements.requiredReviewers)),
      field "minimum_approval_count" (.int policy.requirements.minimumApprovalCount)]) = true := by
    refine isJson_record ⟨by simp [StrKeys,field],by simp [field]⟩ ?_
    simp [field,isJson_texts]
  have outcome : isJson (.dict [field "decision" (.str policy.outcome.decision.text),field "reason" (.str policy.outcome.reason)]) = true := by
    refine isJson_record ⟨by simp [StrKeys,field],by simp [field]⟩ ?_
    simp [field]
  simp only [field] at scope requirements outcome
  simp only [canonicalIr,field,List.forall_mem_cons,isJson_str,isJson_optStr,isJson_texts,scope,requirements,outcome,
    dictList_json first,dictList_json second,vectors,mapping,true_and]
  exact fun _ listed => absurd listed List.not_mem_nil

structure Normalizes (policy : SourcePolicy) (conditions constraints : List Dict) (testVectors : List PolicyExample) (metadata : Value) : Prop where
  vectors : sortKeyed exampleKey policy.testVectors = .ok testVectors
  conditions : normalizeExpressionList policy.conditions = .ok conditions
  constraints : normalizeExpressionList policy.constraints = .ok constraints
  metadata : normalizeJsonValue (.dict policy.metadata) = .ok metadata

theorem toCanonicalIr_ok : toCanonicalIr policy = .ok ir ↔ ∃ conditions constraints testVectors metadata,
    Normalizes policy conditions constraints testVectors metadata ∧ ir = canonicalIr policy conditions constraints testVectors metadata := by
  simp only [toCanonicalIr,bind_ok]
  constructor
  · rintro ⟨vectors,hv,conditions,hc,constraints,hk,metadata,hm,made⟩
    exact ⟨conditions,constraints,vectors,metadata,⟨hv,hc,hk,hm⟩,(Except.ok.inj made).symm⟩
  · rintro ⟨conditions,constraints,vectors,metadata,⟨hv,hc,hk,hm⟩,rfl⟩
    exact ⟨vectors,hv,conditions,hc,constraints,hk,metadata,hm,rfl⟩

theorem normalizes (json : JsonValued policy) : ∃ conditions constraints testVectors metadata,
    Normalizes policy conditions constraints testVectors metadata ∧
    isJson (.dict (canonicalIr policy conditions constraints testVectors metadata)) = true := by
  obtain ⟨vectors,hv⟩ := sortKeyed_returns exampleKey fun vector listed => by
    obtain ⟨text,known⟩ := jsonKey_ok (json.inputs vector listed)
    exact ⟨_,by rw [exampleKey,known]; rfl⟩
  obtain ⟨conditions,hc,firsts⟩ := normalizeExpressionList_ok json.conditions
  obtain ⟨constraints,hk,seconds⟩ := normalizeExpressionList_ok json.constraints
  obtain ⟨metadata,hm,restates⟩ := normalizeJsonValue_ok _ json.metadata
  exact ⟨conditions,constraints,vectors,metadata,⟨hv,hc,hk,hm⟩,
    canonicalIr_json firsts seconds (fun vector listed => json.inputs vector ((sortKeyed_perm hv).mem_iff.mp listed)) restates.json⟩

end VeritasOs.PolicyAuthoring
