import VeritasOs.CompiledPolicy
import VeritasOs.PolicyOrder

namespace VeritasOs.CanonicalPolicy
open Text JsonText BindArtifacts PolicyBundle PolicyCompiler PolicyAuthoring CompiledPolicy
open KeyOrder (Unordered)
open WatVerifier (Python)

inductive Rekeyed : Value → Value → Prop where
  | mapping {members others : Dict} : members.Perm others → Rekeyed (.dict members) (.dict others)
  | item {early late : List Value} {a b : Value} : Rekeyed a b → Rekeyed (.list (early ++ a :: late)) (.list (early ++ b :: late))
  | member {early late : Dict} {key : Key} {a b : Value} : Rekeyed a b →
      Rekeyed (.dict (early ++ (key,a) :: late)) (.dict (early ++ (key,b) :: late))

def KeyOrderOnly : Value → Value → Prop := Relation.ReflTransGen Rekeyed

-- The same items, but for blanks around them, repeats and their order.
def SameItems (xs ys : List String) : Prop := ∀ item, item ∈ cleaned xs ↔ item ∈ cleaned ys

structure SameExpression (a b : Expression) : Prop where
  field : a.field = b.field
  operator : a.operator = b.operator
  value : KeyOrderOnly a.value b.value

structure SameExample (a b : PolicyExample) : Prop where
  name : a.name = b.name
  input : KeyOrderOnly (.dict a.input) (.dict b.input)
  expectedOutcome : a.expectedOutcome = b.expectedOutcome

-- Two sources that differ in the order of lists and of mapping keys, and in repeats and blanks.
structure OrderOnly (given other : SourcePolicy) : Prop where
  schemaVersion : given.schemaVersion = other.schemaVersion
  policyId : given.policyId = other.policyId
  version : given.version = other.version
  title : given.title = other.title
  description : given.description = other.description
  effectiveDate : given.effectiveDate = other.effectiveDate
  domains : SameItems given.scope.domains other.scope.domains
  routes : SameItems given.scope.routes other.scope.routes
  actors : SameItems given.scope.actors other.scope.actors
  conditions : Unordered SameExpression given.conditions other.conditions
  requiredEvidence : SameItems given.requirements.requiredEvidence other.requirements.requiredEvidence
  requiredReviewers : SameItems given.requirements.requiredReviewers other.requirements.requiredReviewers
  minimumApprovalCount : given.requirements.minimumApprovalCount = other.requirements.minimumApprovalCount
  constraints : Unordered SameExpression given.constraints other.constraints
  outcome : given.outcome = other.outcome
  obligations : SameItems given.obligations other.obligations
  testVectors : Unordered SameExample given.testVectors other.testVectors
  sourceRefs : SameItems given.sourceRefs other.sourceRefs
  metadata : KeyOrderOnly (.dict given.metadata) (.dict other.metadata)

theorem restates_refl (json : isJson value = true) : Restates value value := ⟨json,rfl⟩

theorem restates_at (json : isJson (.list (early ++ a :: late)) = true) (changed : Restates a b) :
    Restates (.list (early ++ a :: late)) (.list (early ++ b :: late)) := by
  obtain ⟨before,after⟩ := List.forall_mem_append.mp ((isJson_list _).mp json)
  have same : ∀ {items : List Value}, (∀ item ∈ items, isJson item = true) → List.Forall₂ Restates items items :=
    fun each => List.forall₂_same.mpr fun item listed => restates_refl (each item listed)
  exact restates_list (List.rel_append (same before) (.cons changed (same (List.forall_mem_cons.mp after).2)))

theorem restates_under (json : isJson (.dict (early ++ (key,a) :: late)) = true)
    (changed : Restates a b) : Restates (.dict (early ++ (key,a) :: late)) (.dict (early ++ (key,b) :: late)) := by
  obtain ⟨before,after⟩ := List.forall_mem_append.mp ((isJson_dict _).mp json).2
  have same : ∀ {members : Dict}, (∀ member ∈ members, isJson member.2 = true) →
      List.Forall₂ (fun x y => x.1 = y.1 ∧ Restates x.2 y.2) members members :=
    fun each => List.forall₂_same.mpr fun member listed => ⟨rfl,restates_refl (each member listed)⟩
  exact restates_members json (List.rel_append (same before) (.cons ⟨rfl,changed⟩ (same (List.forall_mem_cons.mp after).2)))

theorem rekeyed_restates (rekeyed : Rekeyed a b) : isJson a = true → Restates a b := by
  induction rekeyed with
  | mapping perm => exact fun json => restates_sorted json perm
  | item inner ih =>
    intro json
    exact restates_at json (ih ((isJson_list _).mp json _ (by simp)))
  | member inner ih =>
    intro json
    exact restates_under json (ih (((isJson_dict _).mp json).2 _ (List.mem_append_right _ List.mem_cons_self)))

theorem keyOrder_restates (json : isJson a = true) (rekeyed : KeyOrderOnly a b) : Restates a b := by
  induction rekeyed with
  | refl => exact restates_refl json
  | tail before last ih => exact ih.trans (rekeyed_restates last ih.json)

theorem optionMapM_parts (done : items.mapM f = some results) : List.Forall₂ (fun item result => f item = some result) items results := by
  induction items generalizing results with
  | nil =>
    cases done
    exact .nil
  | cons item rest ih =>
    rw [List.mapM_cons] at done
    obtain ⟨first,here,done⟩ := Option.bind_eq_some_iff.mp done
    obtain ⟨others,later,made⟩ := Option.bind_eq_some_iff.mp done
    cases made
    exact .cons here (ih later)

structure Validates (given policy : SourcePolicy) : Prop where
  schemaVersion : policy.schemaVersion = given.schemaVersion
  policyId : policy.policyId = strip given.policyId
  version : policy.version = strip given.version
  title : policy.title = strip given.title
  description : policy.description = strip given.description
  effectiveDate : validatedDate given.effectiveDate = some policy.effectiveDate
  domains : policy.scope.domains = cleaned given.scope.domains
  routes : policy.scope.routes = cleaned given.scope.routes
  actors : policy.scope.actors = cleaned given.scope.actors
  conditions : List.Forall₂ (fun a b => b = { a with field := strip a.field }) given.conditions policy.conditions
  requiredEvidence : policy.requirements.requiredEvidence = cleaned given.requirements.requiredEvidence
  requiredReviewers : policy.requirements.requiredReviewers = cleaned given.requirements.requiredReviewers
  minimumApprovalCount : policy.requirements.minimumApprovalCount = given.requirements.minimumApprovalCount
  constraints : List.Forall₂ (fun a b => b = { a with field := strip a.field }) given.constraints policy.constraints
  outcome : policy.outcome = { given.outcome with reason := strip given.outcome.reason }
  obligations : policy.obligations = cleaned given.obligations
  testVectors : List.Forall₂ (fun a b => b = { a with name := strip a.name }) given.testVectors policy.testVectors
  sourceRefs : policy.sourceRefs = cleaned given.sourceRefs
  metadata : policy.metadata = given.metadata

theorem expression_validated {a b : Expression} (validated : a.validated = some b) : b = { a with field := strip a.field } := by
  unfold Expression.validated at validated
  split at validated
  · exact (Option.some.inj validated).symm
  · cases validated

theorem example_validated {a b : PolicyExample} (validated : a.validated = some b) : b = { a with name := strip a.name } := by
  unfold PolicyExample.validated at validated
  split at validated
  · exact (Option.some.inj validated).symm
  · cases validated

theorem outcome_validated {a b : PolicyOutcome} (validated : a.validated = some b) : b = { a with reason := strip a.reason } := by
  unfold PolicyOutcome.validated at validated
  split at validated
  · exact (Option.some.inj validated).symm
  · cases validated

theorem scopeItems_some (validated : scopeItems values = some items) : items = cleaned values := by
  unfold scopeItems at validated
  split at validated
  · cases validated
  · exact (Option.some.inj validated).symm

theorem requirements_validated {a b : PolicyRequirements} (validated : a.validated = some b) :
    b = ⟨cleaned a.requiredEvidence,cleaned a.requiredReviewers,a.minimumApprovalCount⟩ := by
  unfold PolicyRequirements.validated at validated
  dsimp only at validated
  split at validated
  · exact (Option.some.inj validated).symm
  · cases validated

theorem validated_ok (validated : given.validated python = some policy) : Validates given policy := by
  unfold SourcePolicy.validated at validated
  split at validated
  case isFalse => cases validated
  obtain ⟨effectiveDate,dated,validated⟩ := Option.bind_eq_some_iff.mp validated
  obtain ⟨scope,selectors,validated⟩ := Option.bind_eq_some_iff.mp validated
  obtain ⟨conditions,firsts,validated⟩ := Option.bind_eq_some_iff.mp validated
  obtain ⟨requirements,required,validated⟩ := Option.bind_eq_some_iff.mp validated
  obtain ⟨constraints,seconds,validated⟩ := Option.bind_eq_some_iff.mp validated
  obtain ⟨outcome,decided,validated⟩ := Option.bind_eq_some_iff.mp validated
  obtain ⟨testVectors,vectors,validated⟩ := Option.bind_eq_some_iff.mp validated
  obtain ⟨domains,hd,selectors⟩ := Option.bind_eq_some_iff.mp selectors
  obtain ⟨routes,hr,selectors⟩ := Option.bind_eq_some_iff.mp selectors
  obtain ⟨actors,ha,selectors⟩ := Option.bind_eq_some_iff.mp selectors
  cases selectors
  cases validated
  obtain rfl := requirements_validated required
  exact ⟨rfl,rfl,rfl,rfl,rfl,dated,scopeItems_some hd,scopeItems_some hr,scopeItems_some ha,
    (optionMapM_parts firsts).imp fun _ _ => expression_validated,rfl,rfl,rfl,(optionMapM_parts seconds).imp fun _ _ => expression_validated,
    outcome_validated decided,rfl,(optionMapM_parts vectors).imp fun _ _ => example_validated,rfl,rfl⟩

theorem validated_json (validates : Validates given policy) (json : JsonValued given) : JsonValued policy where
  conditions := KeyOrder.partners validates.conditions json.conditions fun _ _ made held => made ▸ held
  constraints := KeyOrder.partners validates.constraints json.constraints fun _ _ made held => made ▸ held
  inputs := KeyOrder.partners validates.testVectors json.inputs fun _ _ made held => made ▸ held
  metadata := validates.metadata ▸ json.metadata

theorem cleaned_cleaned (values : List String) : cleaned (cleaned values) = cleaned values := by
  have kept : (cleaned values).filter (fun item => item != "" && strip item != "") = cleaned values := by
    refine List.filter_eq_self.mpr fun item listed => ?_
    obtain ⟨raw,held,rfl⟩ := List.mem_map.mp listed
    have filled := (List.mem_filter.mp held).2
    rw [Bool.and_eq_true] at filled
    rw [strip_strip,filled.2]
    rfl
  rw [cleaned,kept,cleaned,List.map_map]
  exact List.map_congr_left fun item _ => strip_strip item

theorem dedupeSorted_same (same : SameItems xs ys) : dedupeSorted (cleaned xs) = dedupeSorted (cleaned ys) := by
  rw [dedupeSorted,dedupeSorted,cleaned_cleaned,cleaned_cleaned]
  exact PolicyEvaluator.orderedTexts_same same

-- The same items, but for the keys of mappings.
structure AlikeExpression (a b : Expression) : Prop where
  field : a.field = b.field
  operator : a.operator = b.operator
  value : SameJson a.value b.value

structure AlikeExample (a b : PolicyExample) : Prop where
  name : a.name = b.name
  input : SameJson (.dict a.input) (.dict b.input)
  expectedOutcome : a.expectedOutcome = b.expectedOutcome

theorem alike_expressions (unordered : Unordered SameExpression xs ys)
    (json : ∀ expression ∈ xs, isJson expression.value = true) (first : List.Forall₂ (fun a b => b = { a with field := strip a.field }) xs us)
    (second : List.Forall₂ (fun a b => b = { a with field := strip a.field }) ys vs) : Unordered AlikeExpression us vs := by
  refine unordered.through ((List.forall₂_and_left xs us).mpr ⟨json,first⟩) second ?_
  rintro a b c d same ⟨held,rfl⟩ rfl
  exact ⟨congrArg strip same.field,same.operator,(keyOrder_restates held same.value).same⟩

theorem alike_examples (unordered : Unordered SameExample xs ys)
    (json : ∀ vector ∈ xs, isJson (.dict vector.input) = true) (first : List.Forall₂ (fun a b => b = { a with name := strip a.name }) xs us)
    (second : List.Forall₂ (fun a b => b = { a with name := strip a.name }) ys vs) : Unordered AlikeExample us vs := by
  refine unordered.through ((List.forall₂_and_left xs us).mpr ⟨json,first⟩) second ?_
  rintro a b c d same ⟨held,rfl⟩ rfl
  exact ⟨congrArg strip same.name,(keyOrder_restates held same.input).same,same.expectedOutcome⟩

theorem sameJson_dicts (same : xs.map (fun dict => toJson true (.dict dict)) = ys.map fun dict => toJson true (.dict dict)) :
    SameJson (dictList xs) (dictList ys) := by
  have pairs : List.Forall₂ Eq (xs.map fun dict => toJson true (.dict dict)) (ys.map fun dict => toJson true (.dict dict)) :=
    List.forall₂_eq_eq_eq ▸ same
  rw [List.forall₂_map_left_iff,List.forall₂_map_right_iff] at pairs
  refine sameJson_listed ?_
  rw [List.forall₂_map_left_iff,List.forall₂_map_right_iff]
  exact pairs

theorem expressionKey_told (json : isJson a.value = true) (same : expressionKey a = expressionKey b) : AlikeExpression a b := by
  obtain ⟨text,known⟩ := jsonKey_ok json
  unfold expressionKey at same
  rw [known] at same
  obtain ⟨other,reknown,equal⟩ := bind_ok.mp same.symm
  obtain ⟨field,operator,rfl⟩ : b.field = a.field ∧ b.operator = a.operator ∧ other = text := by
    simpa [pure,Except.pure] using equal
  exact ⟨field.symm,operator.symm,jsonKey_exact known reknown⟩

theorem exampleKey_told (json : isJson (.dict a.input) = true) (same : exampleKey a = exampleKey b) : AlikeExample a b := by
  obtain ⟨text,known⟩ := jsonKey_ok json
  unfold exampleKey at same
  rw [known] at same
  obtain ⟨other,reknown,equal⟩ := bind_ok.mp same.symm
  obtain ⟨name,rfl,outcome⟩ : b.name = a.name ∧ other = text ∧ b.expectedOutcome.text = a.expectedOutcome.text := by
    simpa [pure,Except.pure] using equal
  refine ⟨name.symm,jsonKey_exact known reknown,?_⟩
  cases left : a.expectedOutcome <;> cases right : b.expectedOutcome <;> first | rfl | (rw [left,right] at outcome; revert outcome; decide)

theorem expressions_same (unordered : Unordered AlikeExpression xs ys)
    (first : ∀ expression ∈ xs, isJson expression.value = true) (second : ∀ expression ∈ ys, isJson expression.value = true)
    (left : normalizeExpressionList xs = .ok us) (right : normalizeExpressionList ys = .ok vs) : SameJson (dictList us) (dictList vs) := by
  obtain ⟨normalized,made,left⟩ := bind_ok.mp left
  obtain ⟨sorted,ordered,left⟩ := bind_ok.mp left
  obtain ⟨renormalized,remade,right⟩ := bind_ok.mp right
  obtain ⟨resorted,reordered,right⟩ := bind_ok.mp right
  obtain rfl := Except.ok.inj left
  obtain rfl := Except.ok.inj right
  have parts := (List.forall₂_and_left xs normalized).mpr ⟨first,FujiPolicy.mapM_parts made⟩
  have reparts := (List.forall₂_and_left ys renormalized).mpr ⟨second,FujiPolicy.mapM_parts remade⟩
  have step : ∀ {given made : Expression}, isJson given.value = true ∧ normalizeExpression given = .ok made →
      made.field = strip given.field ∧ made.operator = given.operator ∧ Restates given.value made.value := by
    rintro given made ⟨held,done⟩
    obtain ⟨again,redone,facts⟩ := normalizeExpression_ok held
    obtain rfl := Except.ok.inj (redone.symm.trans done)
    exact facts
  have alike : Unordered AlikeExpression normalized renormalized := by
    refine unordered.through parts reparts fun a b c d same one two => ?_
    obtain ⟨field,operator,value⟩ := step one
    obtain ⟨refield,reoperator,revalue⟩ := step two
    exact ⟨by rw [field,refield,same.field],by rw [operator,reoperator,same.operator],value.same.symm.trans (same.value.trans revalue.same)⟩
  have json : ∀ expression ∈ normalized, isJson expression.value = true :=
    KeyOrder.partners parts (fun _ _ => trivial) fun _ _ pair _ => (step pair).2.2.json
  refine sameJson_dicts ?_
  rw [List.map_map,List.map_map]
  refine sortKeyed_shown ordered reordered (alike.keys fun a b same => ?_) fun a member b _ same => ?_
  · rw [expressionKey,expressionKey,jsonKey_same same.value,same.field,same.operator]
  · have told := expressionKey_told (json a member) same
    exact sameJson_members (.cons ⟨rfl,congrArg (fun s => toJson true (.str s)) told.field⟩
      (.cons ⟨rfl,congrArg (fun s => toJson true (.str s)) told.operator⟩ (.cons ⟨rfl,told.value⟩ .nil)))

theorem examples_same (unordered : Unordered AlikeExample xs ys)
    (json : ∀ vector ∈ xs, isJson (.dict vector.input) = true) (left : sortKeyed exampleKey xs = .ok us)
    (right : sortKeyed exampleKey ys = .ok vs) :
    SameJson (dictList (us.map PolicyExample.toDict)) (dictList (vs.map PolicyExample.toDict)) := by
  refine sameJson_dicts ?_
  rw [List.map_map,List.map_map]
  refine sortKeyed_shown left right (unordered.keys fun a b same => ?_) fun a member b _ same => ?_
  · rw [exampleKey,exampleKey,jsonKey_same same.input,same.name,same.expectedOutcome]
  · have told := exampleKey_told (json a member) same
    exact sameJson_members (.cons ⟨rfl,congrArg (fun s => toJson true (.str s)) told.name⟩ (.cons ⟨rfl,told.input⟩
      (.cons ⟨rfl,congrArg (fun outcome => toJson true (.str (PipelinePolicy.Outcome.text outcome))) told.expectedOutcome⟩ .nil)))

section Pair
variable {given other policy again : SourcePolicy}

theorem date_same (first : validatedDate value = some date) (second : validatedDate value = some redate) :
    date = redate := Option.some.inj (first.symm.trans second)

theorem canonicalIr_same (alike : OrderOnly given other) (json : JsonValued given) (rejson : JsonValued other)
    (validates : Validates given policy) (revalidates : Validates other again)
    (normalized : Normalizes policy conditions constraints testVectors metadata)
    (renormalized : Normalizes again reconditions reconstraints revectors remetadata) :
    SameJson (.dict (canonicalIr policy conditions constraints testVectors metadata))
      (.dict (canonicalIr again reconditions reconstraints revectors remetadata)) := by
  have own := validated_json validates json
  have reown := validated_json revalidates rejson
  have scope : scopeOf policy = scopeOf again := by
    rw [scopeOf,scopeOf,validates.domains,validates.routes,validates.actors,revalidates.domains,revalidates.routes,revalidates.actors,
      dedupeSorted_same alike.domains,dedupeSorted_same alike.routes,dedupeSorted_same alike.actors]
  have requirements : requirementsOf policy = requirementsOf again := by
    rw [requirementsOf,requirementsOf,validates.requiredEvidence,validates.requiredReviewers,validates.minimumApprovalCount,
      revalidates.requiredEvidence,revalidates.requiredReviewers,revalidates.minimumApprovalCount,
      dedupeSorted_same alike.requiredEvidence,dedupeSorted_same alike.requiredReviewers,alike.minimumApprovalCount]
  have outcome : outcomeOf policy = outcomeOf again := by
    rw [outcomeOf,outcomeOf,validates.outcome,revalidates.outcome,alike.outcome]
  have obligations : dedupeSorted policy.obligations = dedupeSorted again.obligations := by
    rw [validates.obligations,revalidates.obligations,dedupeSorted_same alike.obligations]
  have references : dedupeSorted policy.sourceRefs = dedupeSorted again.sourceRefs := by
    rw [validates.sourceRefs,revalidates.sourceRefs,dedupeSorted_same alike.sourceRefs]
  have date : policy.effectiveDate = again.effectiveDate :=
    date_same validates.effectiveDate (alike.effectiveDate ▸ revalidates.effectiveDate)
  have firsts := expressions_same (alike_expressions alike.conditions json.conditions validates.conditions revalidates.conditions)
    own.conditions reown.conditions normalized.conditions renormalized.conditions
  have seconds := expressions_same (alike_expressions alike.constraints json.constraints validates.constraints revalidates.constraints)
    own.constraints reown.constraints normalized.constraints renormalized.constraints
  have vectors := examples_same (alike_examples alike.testVectors json.inputs validates.testVectors revalidates.testVectors) own.inputs
    normalized.vectors renormalized.vectors
  have mapping : SameJson metadata remetadata := by
    obtain ⟨made,done,restates⟩ := normalizeJsonValue_ok _ own.metadata
    obtain ⟨remade,redone,again⟩ := normalizeJsonValue_ok _ reown.metadata
    obtain rfl := Except.ok.inj (done.symm.trans normalized.metadata)
    obtain rfl := Except.ok.inj (redone.symm.trans renormalized.metadata)
    have between := (keyOrder_restates json.metadata alike.metadata).same
    rw [← validates.metadata,← revalidates.metadata] at between
    exact restates.same.symm.trans (between.trans again.same)
  have text : ∀ {s t : String}, s = t → SameJson (.str s) (.str t) := fun same => congrArg (fun s => toJson true (.str s)) same
  have value : ∀ {a b : Value}, a = b → SameJson a b := fun same => congrArg (toJson true) same
  unfold canonicalIr
  refine sameJson_members (.cons ⟨rfl,text ?_⟩ (.cons ⟨rfl,text ?_⟩ (.cons ⟨rfl,text ?_⟩ (.cons ⟨rfl,text ?_⟩ (.cons ⟨rfl,text ?_⟩
    (.cons ⟨rfl,value (congrArg optStr date)⟩ (.cons ⟨rfl,value (congrArg Value.dict scope)⟩ (.cons ⟨rfl,firsts⟩
    (.cons ⟨rfl,value (congrArg Value.dict requirements)⟩ (.cons ⟨rfl,seconds⟩ (.cons ⟨rfl,value (congrArg Value.dict outcome)⟩
    (.cons ⟨rfl,value (congrArg strList obligations)⟩ (.cons ⟨rfl,vectors⟩ (.cons ⟨rfl,value (congrArg strList references)⟩
    (.cons ⟨rfl,mapping⟩ .nil)))))))))))))))
  · rw [validates.schemaVersion,revalidates.schemaVersion,alike.schemaVersion]
  · rw [validates.policyId,revalidates.policyId,alike.policyId]
  · rw [validates.version,revalidates.version,alike.version]
  · rw [validates.title,revalidates.title,alike.title]
  · rw [validates.description,revalidates.description,alike.description]

theorem hashed (sha256 : Bytes → String) {ir : Dict} (json : isJson (.dict ir) = true) (named : ir.has "policy_id" = true) :
    ∃ digest, semanticPolicyHash sha256 ir = .ok digest := by
  obtain ⟨text,written⟩ := Option.isSome_iff_exists.mp ((canonical_recordable _).mpr (isJson_recordable _ json))
  exact ⟨_,semanticPolicyHash_ok.mpr ⟨named,text,written,rfl⟩⟩

theorem adapted_same (same : SameJson (.dict ir) (.dict reir)) (policy : RuntimePolicy) : Adapted ir policy ↔ Adapted reir policy := by
  have written : stableJsonDumps (.dict ir) = stableJsonDumps (.dict reir) := by
    rw [stableJsonDumps,stableJsonDumps,show toJson true (.dict ir) = toJson true (.dict reir) from same]
  unfold Adapted
  rw [written]

theorem semantic_hash_canonical (python : Python) (sha256 : Bytes → String) (injective : Function.Injective sha256)
    (given other policy again : SourcePolicy) (valid : given.validated python = some policy) (revalid : other.validated python = some again)
    (json : JsonValued given) (rejson : JsonValued other) :
    ∃ ir reir digest redigest adapted readapted, toCanonicalIr policy = .ok ir ∧ toCanonicalIr again = .ok reir ∧
      semanticPolicyHash sha256 ir = .ok digest ∧ semanticPolicyHash sha256 reir = .ok redigest ∧ Adapted ir adapted ∧ Adapted reir readapted ∧
      (OrderOnly given other → digest = redigest) ∧ (digest = redigest → ∀ runtime bundle context,
        PolicyEvaluator.evaluateRuntimePolicies runtime (PolicyOrder.withPolicies bundle [adapted]) context =
        PolicyEvaluator.evaluateRuntimePolicies runtime (PolicyOrder.withPolicies bundle [readapted]) context) := by
  have validates := validated_ok valid
  have revalidates := validated_ok revalid
  obtain ⟨ir,conditions,constraints,vectors,mapping,normalized,made,document,adapts⟩ := compiles (validated_json validates json)
  obtain ⟨reir,reconditions,reconstraints,revectors,remapping,renormalized,remade,redocument,readapts⟩ := compiles (validated_json revalidates rejson)
  have named : ir.has "policy_id" = true ∧ reir.has "policy_id" = true := by
    obtain ⟨_,_,_,_,-,rfl⟩ := toCanonicalIr_ok.mp made
    obtain ⟨_,_,_,_,-,rfl⟩ := toCanonicalIr_ok.mp remade
    exact ⟨rfl,rfl⟩
  obtain ⟨digest,hash⟩ := hashed sha256 document named.1
  obtain ⟨redigest,rehash⟩ := hashed sha256 redocument named.2
  refine ⟨ir,reir,digest,redigest,_,_,made,remade,hash,rehash,(adapts _).mpr rfl,(readapts _).mpr rfl,fun alike => ?_,fun equal => ?_⟩
  · obtain ⟨_,_,_,_,parts,rfl⟩ := toCanonicalIr_ok.mp made
    obtain ⟨_,_,_,_,reparts,rfl⟩ := toCanonicalIr_ok.mp remade
    have same := canonicalIr_same alike json rejson validates revalidates parts reparts
    have both := (semanticPolicyHash_exact injective hash named.2).mpr same.symm
    exact Except.ok.inj (both.symm.trans rehash)
  · have same : SameJson (.dict ir) (.dict reir) := ((semanticPolicyHash_exact injective hash named.2).mp (equal ▸ rehash)).symm
    have one := (readapts _).mp ((adapted_same same _).mp ((adapts _).mpr rfl))
    intro runtime bundle context
    rw [one]

end Pair

def sampleSource (domains : List String) (limits : Dict) : SourcePolicy where
  schemaVersion := "1.0"
  policyId := "policy.transfer"
  version := "1"
  title := "Transfers"
  description := "Transfers"
  effectiveDate := none
  scope := ⟨domains,["/transfer"],["agent"]⟩
  conditions := [⟨"limits","eq",.dict limits⟩]
  requirements := ⟨[],[],0⟩
  constraints := []
  outcome := ⟨.deny,""⟩
  obligations := []
  testVectors := []
  sourceRefs := []
  metadata := []

def lowHigh : Dict := [field "low" (.int 1),field "high" (.int 2)]
def highLow : Dict := [field "high" (.int 2),field "low" (.int 1)]

theorem sampleSource_json (json : isJson (.dict limits) = true) : JsonValued (sampleSource domains limits) where
  conditions := by
    intro expression listed
    obtain rfl := List.mem_singleton.mp listed
    exact json
  constraints _ listed := absurd listed List.not_mem_nil
  inputs _ listed := absurd listed List.not_mem_nil
  metadata := rfl

theorem sameItems_refl (items : List String) : SameItems items items := fun _ => Iff.rfl

theorem sampleSource_reordered : OrderOnly (sampleSource ["payments","treasury"] lowHigh) (sampleSource ["treasury"," payments","payments"] highLow) where
  schemaVersion := rfl
  policyId := rfl
  version := rfl
  title := rfl
  description := rfl
  effectiveDate := rfl
  domains item := by
    have plain : cleaned ["payments","treasury"] = ["payments","treasury"] := by decide
    have untidy : cleaned ["treasury"," payments","payments"] = ["treasury","payments","payments"] := by decide
    change item ∈ cleaned ["payments","treasury"] ↔ item ∈ cleaned ["treasury"," payments","payments"]
    rw [plain,untidy]
    simp [or_comm]
  routes := sameItems_refl _
  actors := sameItems_refl _
  conditions := ⟨_,.refl _,.cons ⟨rfl,rfl,.single (.mapping (List.Perm.swap _ _ _))⟩ .nil⟩
  requiredEvidence := sameItems_refl _
  requiredReviewers := sameItems_refl _
  minimumApprovalCount := rfl
  constraints := ⟨_,.refl _,.nil⟩
  outcome := rfl
  obligations := sameItems_refl _
  testVectors := ⟨_,.refl _,.nil⟩
  sourceRefs := sameItems_refl _
  metadata := .refl

theorem semantic_hash_canonical_sample : ∃ policy again ir reir digest,
    (sampleSource ["payments","treasury"] lowHigh).validated WatVerifier.samplePython = some policy ∧
    (sampleSource ["treasury"," payments","payments"] highLow).validated WatVerifier.samplePython = some again ∧
    toCanonicalIr policy = .ok ir ∧ toCanonicalIr again = .ok reir ∧
    semanticPolicyHash standInSha256 ir = .ok digest ∧ semanticPolicyHash standInSha256 reir = .ok digest := by
  obtain ⟨policy,valid⟩ : ∃ policy, (sampleSource ["payments","treasury"] lowHigh).validated WatVerifier.samplePython = some policy := ⟨_,rfl⟩
  obtain ⟨again,revalid⟩ : ∃ again, (sampleSource ["treasury"," payments","payments"] highLow).validated WatVerifier.samplePython = some again :=
    ⟨_,rfl⟩
  obtain ⟨ir,reir,digest,redigest,_,_,made,remade,hash,rehash,_,_,same,_⟩ := semantic_hash_canonical WatVerifier.samplePython standInSha256
    standInSha256_injective _ _ policy again valid revalid (sampleSource_json (by decide)) (sampleSource_json (by decide))
  exact ⟨policy,again,ir,reir,digest,valid,revalid,made,remade,hash,same sampleSource_reordered ▸ rehash⟩

end VeritasOs.CanonicalPolicy
