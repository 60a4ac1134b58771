import VeritasOs.PipelineEnforcement
import VeritasOs.PolicyEvaluator

namespace VeritasOs.PolicyReadings
open BindArtifacts PolicyBundle PolicyEvaluator
open PipelinePolicy (Outcome PolicyEvaluationResult lookup_filter_other)

variable {runtime : Runtime} {context changed : Dict} {policy : RuntimePolicy}

def tests (policy : RuntimePolicy) : List Dict := policy.conditions ++ policy.constraints

def Holds (runtime : Runtime) (context expression : Dict) : Prop := evaluateExpression runtime expression context = .ok true

structure Triggers (runtime : Runtime) (context : Dict) (policy : RuntimePolicy) : Prop where
  scope : scopeMatches policy context = true
  holds : ∀ expression ∈ tests policy, Holds runtime context expression

variable {expressions : List Dict} {one : Evaluated} {name : String} {expression : Dict} {bundle : RuntimePolicyBundle}
variable {result : PolicyEvaluationResult} {actual : Value}

theorem matching_length (made : matching runtime context expressions = .ok matched) : matched.length ≤ expressions.length := by
  induction expressions generalizing matched with
  | nil =>
    cases made
    exact Nat.le_refl _
  | cons expression rest ih =>
    simp only [matching,bind_ok] at made
    obtain ⟨answer,-,others,later,done⟩ := made
    cases done
    have shorter := ih later
    cases answer with
    | true => simpa using shorter
    | false => exact Nat.le_succ_of_le shorter

theorem matching_full (made : matching runtime context expressions = .ok matched) :
    matched.length = expressions.length ↔ ∀ expression ∈ expressions, Holds runtime context expression := by
  induction expressions generalizing matched with
  | nil =>
    cases made
    simp
  | cons expression rest ih =>
    simp only [matching,bind_ok] at made
    obtain ⟨answer,evaluated,others,later,done⟩ := made
    cases done
    rw [List.forall_mem_cons,Holds,evaluated,← ih later]
    cases answer with
    | true => simp
    | false =>
      have shorter := matching_length later
      simp only [Bool.false_eq_true,if_false,List.length_cons,Except.ok.injEq,false_and,iff_false]
      omega

theorem matching_returns : (∃ matched, matching runtime context expressions = .ok matched) ↔
    ∀ expression ∈ expressions, ∃ answer, evaluateExpression runtime expression context = .ok answer := by
  induction expressions with
  | nil => simp [matching]
  | cons expression rest ih =>
    rw [List.forall_mem_cons,← ih]
    simp only [matching,bind_ok]
    constructor
    · rintro ⟨_,answer,evaluated,others,later,_⟩
      exact ⟨⟨answer,evaluated⟩,others,later⟩
    · rintro ⟨⟨answer,evaluated⟩,others,later⟩
      exact ⟨_,answer,evaluated,others,later,rfl⟩

theorem triggered_iff (evaluates : Evaluates runtime context policy one) : one.triggered = true ↔ Triggers runtime context policy := by
  have full : ∀ {expressions matched : List Dict}, matching runtime context expressions = .ok matched →
      ((expressions.isEmpty || matched.length == expressions.length) = true ↔ ∀ expression ∈ expressions, Holds runtime context expression) := by
    intro expressions matched made
    rw [← matching_full made,Bool.or_eq_true,beq_iff_eq,List.isEmpty_iff]
    constructor
    · rintro (rfl | same)
      · cases made
        rfl
      · exact same
    · exact .inr
  rw [Evaluated.triggered,evaluates.about,Bool.and_eq_true,Bool.and_eq_true,full evaluates.conditions,full evaluates.constraints,
    evaluates.applies]
  constructor
  · rintro ⟨⟨scope,conditions⟩,constraints⟩
    exact ⟨scope,List.forall_mem_append.mpr ⟨conditions,constraints⟩⟩
  · rintro ⟨scope,holds⟩
    obtain ⟨conditions,constraints⟩ := List.forall_mem_append.mp holds
    exact ⟨⟨scope,conditions⟩,constraints⟩

-- A change of the context that the policy does not read.
structure SameReadings (policy : RuntimePolicy) (context changed : Dict) : Prop where
  domain : changed.get "domain" = context.get "domain"
  route : changed.get "route" = context.get "route"
  actor : changed.get "actor" = context.get "actor"
  fields : ∀ expression ∈ tests policy, readPath changed (Expression.field expression) = readPath context (Expression.field expression)

theorem scope_same (policy : RuntimePolicy) (domain : changed.get "domain" = context.get "domain") (route : changed.get "route" = context.get "route")
    (actor : changed.get "actor" = context.get "actor") : scopeMatches policy changed = scopeMatches policy context := by
  unfold scopeMatches
  rw [domain,route,actor]

theorem triggers_kept (same : SameReadings policy context changed) : Triggers runtime changed policy ↔ Triggers runtime context policy := by
  have scopes := scope_same policy same.domain same.route same.actor
  have expressions : ∀ expression ∈ tests policy, (Holds runtime changed expression ↔ Holds runtime context expression) := by
    intro expression listed
    rw [Holds,Holds,evaluateExpression,evaluateExpression,same.fields expression listed]
  constructor
  · rintro ⟨scope,holds⟩
    exact ⟨scopes ▸ scope,fun expression listed => (expressions expression listed).mp (holds expression listed)⟩
  · rintro ⟨scope,holds⟩
    exact ⟨scopes.symm ▸ scope,fun expression listed => (expressions expression listed).mpr (holds expression listed)⟩

def without (name : String) (context : Dict) : Dict := context.filter fun member => !decide (member.1 = .str name)

theorem without_get (other : wanted ≠ name) : (without name context).get wanted = context.get wanted := by
  rw [Dict.get,without,lookup_filter_other other,Dict.get]

theorem lookup_without (name : String) : lookup (.str name) (without name context) = none := by
  cases found : lookup (.str name) (without name context) with
  | none => rfl
  | some value => simpa [without] using lookup_mem found

theorem without_none (name : String) : (without name context).get name = .none := by
  rw [Dict.get,lookup_without,Option.getD_none]

theorem readPath_without (context : Dict) (name fieldPath : String) : readPath (without name context) fieldPath = .none ∨
    readPath (without name context) fieldPath = readPath context fieldPath := by
  unfold readPath
  cases parts : pathParts fieldPath with
  | nil => exact absurd (List.map_eq_nil_iff.mp parts) (List.splitOn_ne_nil '.' fieldPath.toList)
  | cons part rest =>
    by_cases same : part = name
    · subst part
      left
      rw [readFrom,lookup_without]
    · right
      rw [readFrom,readFrom,without,lookup_filter_other same]

theorem evaluateAgainst_none (runtime : Runtime) (expression : Dict) : ∃ answer, evaluateAgainst runtime expression .none = .ok answer := by
  unfold evaluateAgainst
  dsimp only
  split
  · exact ⟨_,rfl⟩
  split
  · exact ⟨_,rfl⟩
  split
  · exact ⟨_,rfl⟩
  split
  · exact ⟨_,rfl⟩
  split
  · exact ⟨false,rfl⟩
  split
  · exact ⟨_,rfl⟩
  split
  · refine ⟨false,?_⟩
    unfold safeRegexSearch
    cases Expression.expected expression <;> rfl
  · exact ⟨_,rfl⟩

theorem evaluateExpression_without (name : String) (returned : ∃ answer, evaluateExpression runtime expression context = .ok answer) :
    ∃ answer, evaluateExpression runtime expression (without name context) = .ok answer := by
  unfold evaluateExpression at returned ⊢
  obtain absent | same := readPath_without context name (Expression.field expression)
  · rw [absent]
    exact evaluateAgainst_none runtime expression
  · rw [same]
    exact returned

theorem requirements_frame (evidence : changed.get "evidence" = context.get "evidence")
    (approvals : changed.get "approvals" = context.get "approvals") :
    evaluateRequirements runtime policy changed = evaluateRequirements runtime policy context := by
  unfold evaluateRequirements approvedBy evidenceAvailable listUnder
  rw [evidence,approvals]

def scopeNames : List String := ["domain","route","actor"]

theorem unscoped (listed : name ∈ scopeNames) : scopeMatches policy (without name context) = false := by
  unfold scopeMatches
  rw [if_pos]
  simp only [scopeNames,List.mem_cons,List.not_mem_nil,or_false] at listed
  obtain rfl | rfl | rfl := listed
  · exact .inl (without_none _)
  · exact .inr (.inl (without_none _))
  · exact .inr (.inr (without_none _))

theorem evaluates_without (listed : name ∈ scopeNames) (evaluates : Evaluates runtime context policy one) :
    ∃ silent, Evaluates runtime (without name context) policy silent ∧ silent.applies = false := by
  have others : ∀ wanted ∈ ["evidence","approvals"], wanted ≠ name := by
    rintro wanted member rfl
    simp only [scopeNames,List.mem_cons,List.not_mem_nil,or_false] at listed member
    obtain rfl | rfl := member <;> simp at listed
  have returned : ∀ {expressions matched}, matching runtime context expressions = .ok matched →
      ∃ again, matching runtime (without name context) expressions = .ok again := fun made =>
    matching_returns.mpr fun expression member => evaluateExpression_without name (matching_returns.mp ⟨_,made⟩ expression member)
  obtain ⟨conditions,hc⟩ := returned evaluates.conditions
  obtain ⟨constraints,hk⟩ := returned evaluates.constraints
  have requirements := evaluates.requirements
  have framed : evaluateRequirements runtime policy (without name context) = evaluateRequirements runtime policy context :=
    requirements_frame (without_get (others _ (by simp))) (without_get (others _ (by simp)))
  rw [← framed] at requirements
  exact ⟨⟨policy,false,conditions,constraints,one.reqEval⟩,⟨rfl,(unscoped listed).symm,hc,hk,requirements⟩,rfl⟩

theorem evaluations_without (listed : name ∈ scopeNames) (evaluated : Evaluations runtime context policies ones) :
    ∃ silent, Evaluations runtime (without name context) policies silent ∧ ∀ one ∈ silent, one.applies = false := by
  unfold Evaluations at evaluated ⊢
  generalize policies.filter (isEffective runtime) = inForce at evaluated ⊢
  induction inForce generalizing ones with
  | nil => exact ⟨[],rfl,by simp⟩
  | cons policy rest ih =>
    obtain ⟨one,others,rfl,first,later⟩ := List.map_eq_cons_iff.mp evaluated.symm
    obtain ⟨head,again,quiet⟩ := evaluates_without listed (evaluatePolicy_ok.mp first.symm)
    obtain ⟨silent,same,all⟩ := ih later.symm
    refine ⟨head :: silent,?_,List.forall_mem_cons.mpr ⟨quiet,all⟩⟩
    rw [List.map_cons,List.map_cons,same,evaluatePolicy_ok.mpr again]

theorem silent_flatMap {ones : List Evaluated} {flag : Evaluated → Bool} {adds : Evaluated → List Value}
    (silent : ∀ one ∈ ones, flag one = false) : (ones.flatMap fun one => if flag one then adds one else []) = [] := by
  refine List.flatMap_eq_nil_iff.mpr fun one listed => ?_
  rw [silent one listed,if_neg Bool.false_ne_true]

theorem evaluation_without (listed : name ∈ scopeNames) (evaluated : evaluateRuntimePolicies runtime bundle context = .ok result) :
    ∃ later, evaluateRuntimePolicies runtime bundle (without name context) = .ok later ∧
      later.applicablePolicies = [] ∧ later.triggeredPolicies = [] ∧ later.finalOutcome = .allow := by
  obtain ⟨ones,evaluations,-⟩ := evaluation_ok.mp evaluated
  obtain ⟨silent,again,quiet⟩ := evaluations_without listed evaluations
  have untriggered : ∀ one ∈ silent, one.triggered = false := by
    intro one member
    rw [Evaluated.triggered,quiet one member]
    rfl
  refine ⟨⟨[],[],.allow,[],[],[],(collected silent).approvalRequirements,(collected silent).evidenceGaps,
    (collected silent).explanations,(collected silent).policyResults⟩,evaluation_ok.mpr ⟨silent,again,summarize_ok.mpr ?_⟩,rfl,rfl,rfl⟩
  refine ⟨?_,?_,?_,?_,?_,?_,rfl,rfl,rfl,rfl⟩
  · rw [collected_outcomes,silent_flatMap untriggered]
    rfl
  · rw [collected_applicable,silent_flatMap quiet]
    rfl
  · rw [collected_triggered,silent_flatMap untriggered]
    rfl
  · rw [collected_reasons,silent_flatMap untriggered]
    rfl
  · rw [collected_requiredActions,silent_flatMap untriggered]
    rfl
  · rw [collected_obligations,silent_flatMap untriggered]
    rfl

def nonNumeric (runtime : Runtime) : Value → Bool
  | .int _ | .bool _ | .float _ => false
  | .str s => (runtime.parseFloat s).isNone
  | _ => true

-- A number is asked for and there is none, or the text is too long to be searched.
inductive Unevaluable (runtime : Runtime) (expression : Dict) : Value → Prop where
  | noNumber {actual : Value} : Expression.operator expression ∈ orderings → nonNumeric runtime actual = true →
      Unevaluable runtime expression actual
  | tooLong {s : String} : Expression.operator expression = "regex" → regexMaxTargetLength < s.length →
      Unevaluable runtime expression (.str s)

theorem toFloat_nonNumeric (none : nonNumeric runtime actual = true) :
    ∃ error, toFloat runtime actual = .error error ∧ error.kind ∈ [ExcKind.valueError,.typeError] := by
  cases actual with
  | int n => cases none
  | bool b => cases none
  | float x => cases none
  | str s =>
    have unparsed : runtime.parseFloat s = Option.none := Option.isNone_iff_eq_none.mp none
    exact ⟨_,by rw [toFloat,unparsed],.head _⟩
  | none => exact ⟨_,rfl,.tail _ (.head _)⟩
  | list items => exact ⟨_,rfl,.tail _ (.head _)⟩
  | tuple items => exact ⟨_,rfl,.tail _ (.head _)⟩
  | dict members => exact ⟨_,rfl,.tail _ (.head _)⟩
  | object text truth => exact ⟨_,rfl,.tail _ (.head _)⟩

theorem compare_nonNumeric (operator : String) (none : nonNumeric runtime actual = true) :
    safeNumericCompare runtime operator actual expected = .ok false := by
  obtain ⟨error,failed,caught⟩ := toFloat_nonNumeric none
  rw [safeNumericCompare]
  split
  · rfl
  · simp only [failed,bind,Except.bind,caught,if_true]

theorem search_tooLong (tooLong : regexMaxTargetLength < s.length) : safeRegexSearch runtime expected (.str s) = .ok false := by
  cases expected with
  | str pattern =>
    by_cases oversized : regexMaxPatternLength < pattern.length
    · rw [safeRegexSearch,if_pos oversized]
    · rw [safeRegexSearch,if_neg oversized,if_pos tooLong]
  | _ => rfl

theorem orderings_apart : ∀ operator ∈ orderings, operator ∉ ["eq","neq","in","not_in"] := by decide

theorem unevaluable_false (unevaluable : Unevaluable runtime expression actual) :
    evaluateAgainst runtime expression actual = .ok false := by
  cases unevaluable with
  | noNumber ordering none =>
    unfold evaluateAgainst
    have others : ∀ other ∈ ["eq","neq","in","not_in"], Expression.operator expression ≠ other := by
      rintro other listed same
      exact orderings_apart _ ordering (same ▸ listed)
    rw [if_neg (others _ (by simp)),if_neg (others _ (by simp)),if_neg (others _ (by simp)),if_neg (others _ (by simp)),if_pos ordering]
    exact compare_nonNumeric _ none
  | tooLong regex long =>
    unfold evaluateAgainst
    simp only [regex,orderings]
    exact search_tooLong long

theorem unevaluable_silent (asked : expression ∈ tests policy)
    (unevaluable : Unevaluable runtime expression (readPath context (Expression.field expression))) : ¬ Triggers runtime context policy := by
  intro triggers
  have holds := triggers.holds expression asked
  rw [Holds,evaluateExpression,unevaluable_false unevaluable] at holds
  cases holds

def decisionOf (policy : RuntimePolicy) : Value := policy.outcome.getD "decision" (.str "allow")

def Restricts (policy : RuntimePolicy) : Prop := ∃ outcome : Outcome, outcome ≠ .allow ∧ decisionOf policy = .str outcome.text

theorem restricted_outcome (restricts : Restricts one.policy) (triggered : one.triggered = true) : one.outcome = decisionOf one.policy := by
  obtain ⟨outcome,strict,decided⟩ := restricts
  have notAllow : one.decision ≠ .str "allow" := by
    rw [Evaluated.decision,← decisionOf,decided]
    cases outcome <;> first | exact absurd rfl strict | decide
  rw [Evaluated.outcome,triggered,if_neg (by decide),if_pos notAllow,Evaluated.decision,decisionOf]

theorem final_atLeast (member : policy ∈ bundle.runtimePolicies) (active : isEffective runtime policy = true)
    (restricts : Restricts policy) (triggers : Triggers runtime context policy)
    (evaluated : evaluateRuntimePolicies runtime bundle context = .ok result) :
    strictness (decisionOf policy) ≤ precedence result.finalOutcome := by
  obtain ⟨ones,evaluations,summarized⟩ := evaluation_ok.mp evaluated
  obtain ⟨one,listed,evaluates⟩ := evaluations_mem evaluations member active
  have strict := (chooseFinalOutcome_ok.mp (summarize_ok.mp summarized).finalOutcome).2
  have triggered := (triggered_iff evaluates).mpr triggers
  obtain rfl := evaluates.about
  rw [strict,collected_outcomes,← restricted_outcome restricts triggered]
  refine strictest_le.mp (Nat.le_refl _) _ (List.mem_flatMap.mpr ⟨one,listed,?_⟩)
  rw [if_pos triggered]
  exact List.mem_singleton_self _

theorem final_atMost (restricts : ∀ policy ∈ bundle.runtimePolicies, Restricts policy)
    (evaluated : evaluateRuntimePolicies runtime bundle context = .ok result)
    (each : ∀ policy ∈ bundle.runtimePolicies, isEffective runtime policy = true → Triggers runtime context policy → strictness (decisionOf policy) ≤ bound) :
    precedence result.finalOutcome ≤ bound := by
  obtain ⟨ones,evaluations,summarized⟩ := evaluation_ok.mp evaluated
  rw [(chooseFinalOutcome_ok.mp (summarize_ok.mp summarized).finalOutcome).2,collected_outcomes]
  refine strictest_le.mpr fun outcome listed => ?_
  obtain ⟨one,among,shown⟩ := List.mem_flatMap.mp listed
  obtain ⟨policy,member,active,evaluates⟩ := mem_evaluations evaluations among
  cases triggered : one.triggered with
  | false => simp [triggered] at shown
  | true =>
    rw [triggered,if_pos rfl] at shown
    obtain rfl := List.mem_singleton.mp shown
    obtain rfl := evaluates.about
    rw [restricted_outcome (restricts _ member) triggered]
    exact each _ member active ((triggered_iff evaluates).mp triggered)

theorem unevaluated_policies_stay_silent (runtime : Runtime) (bundle : RuntimePolicyBundle) (context : Dict) (result : PolicyEvaluationResult)
    (restricts : ∀ policy ∈ bundle.runtimePolicies, Restricts policy)
    (evaluated : evaluateRuntimePolicies runtime bundle context = .ok result) :
    (∀ name ∈ scopeNames, ∃ later, evaluateRuntimePolicies runtime bundle (without name context) = .ok later ∧
      later.applicablePolicies = [] ∧ later.triggeredPolicies = [] ∧ later.finalOutcome = .allow) ∧
    ∀ changed later, evaluateRuntimePolicies runtime bundle changed = .ok later →
      (∀ policy ∈ bundle.runtimePolicies, ∀ expression ∈ tests policy,
        Unevaluable runtime expression (readPath changed (Expression.field expression)) → ¬ Triggers runtime changed policy) ∧
      (∀ policy ∈ bundle.runtimePolicies, isEffective runtime policy = true → Triggers runtime context policy →
        SameReadings policy context changed → strictness (decisionOf policy) ≤ precedence later.finalOutcome) ∧
      ((∀ policy ∈ bundle.runtimePolicies, isEffective runtime policy = true → Triggers runtime context policy →
        SameReadings policy context changed) → precedence result.finalOutcome ≤ precedence later.finalOutcome) := by
  refine ⟨fun name listed => evaluation_without listed evaluated,fun changed later again => ?_⟩
  have kept : ∀ policy ∈ bundle.runtimePolicies, isEffective runtime policy = true → Triggers runtime context policy →
      SameReadings policy context changed → strictness (decisionOf policy) ≤ precedence later.finalOutcome :=
    fun policy member active triggers same => final_atLeast member active (restricts policy member) ((triggers_kept same).mpr triggers) again
  refine ⟨fun policy _ expression asked unevaluable => unevaluable_silent asked unevaluable,kept,fun unread => ?_⟩
  exact final_atMost restricts evaluated fun policy member active triggers =>
    kept policy member active triggers (unread policy member active triggers)

def amountAbove : Dict := [field "field" (.str "amount"),field "operator" (.str "gt"),field "value" (.float WatVerifier.zero)]

def denyingBundle : RuntimePolicyBundle := sampleBundle [samplePolicy "p1" "deny" [amountAbove] []]

def transferOf (amount : Value) : Dict := field "amount" amount :: sampleRequest

theorem denyingBundle_restricts : ∀ policy ∈ denyingBundle.runtimePolicies, Restricts policy := by
  intro policy listed
  obtain rfl := List.mem_singleton.mp listed
  exact ⟨.deny,by decide,rfl⟩

theorem unevaluated_policies_stay_silent_sample :
    ∃ result, evaluateRuntimePolicies sampleRuntime denyingBundle (transferOf (.float WatVerifier.one)) = .ok result ∧
    ∃ later, evaluateRuntimePolicies sampleRuntime denyingBundle (without "actor" (transferOf (.float WatVerifier.one))) = .ok later ∧
      later.applicablePolicies = [] ∧ later.triggeredPolicies = [] ∧ later.finalOutcome = .allow := by
  obtain ⟨result,evaluated⟩ : ∃ result, evaluateRuntimePolicies sampleRuntime denyingBundle (transferOf (.float WatVerifier.one)) = .ok result := ⟨_,rfl⟩
  exact ⟨result,evaluated,(unevaluated_policies_stay_silent _ _ _ result denyingBundle_restricts evaluated).1 "actor" (by decide)⟩

theorem unevaluable_lifts_denial : (∀ policy ∈ denyingBundle.runtimePolicies, Restricts policy) ∧
    ∃ result unscoped unread, evaluateRuntimePolicies sampleRuntime denyingBundle (transferOf (.float WatVerifier.one)) = .ok result ∧
      evaluateRuntimePolicies sampleRuntime denyingBundle (without "domain" (transferOf (.float WatVerifier.one))) = .ok unscoped ∧
      evaluateRuntimePolicies sampleRuntime denyingBundle (transferOf (.str "a lot")) = .ok unread ∧
      precedence unscoped.finalOutcome < precedence result.finalOutcome ∧ precedence unread.finalOutcome < precedence result.finalOutcome :=
  ⟨denyingBundle_restricts,_,_,_,rfl,rfl,rfl,by decide,by decide⟩

end VeritasOs.PolicyReadings
