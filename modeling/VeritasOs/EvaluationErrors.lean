import VeritasOs.CanonicalPolicy
import VeritasOs.PolicyReadings

namespace VeritasOs.EvaluationErrors
open Text JsonText BindArtifacts PolicyBundle PolicyCompiler PolicyAuthoring CompiledPolicy PolicyEvaluator PolicyReadings
open PolicyOrder (StringTexts texts_when texts_single texts_nonempty reasons_texts texts_flatMap evaluated_texts all_returned)
open PipelinePolicy (Outcome PolicyEvaluationResult World PipelineContext evaluateBundle applyCompiledPolicyRuntimeBridge enforceOutcome appendReason
  setGovernance subDict)
open FujiPolicy (floatOverflow)
open WatVerifier (Python)

variable {runtime : Runtime} {context : Dict} {policy : RuntimePolicy}

def tooLarge : Value → Bool
  | .int n => decide (floatOverflow ≤ n.natAbs)
  | _ => false

-- An ordering with an integer that no float holds, or a pattern whose compilation raises
-- something else than re.error.
inductive Raises (runtime : Runtime) (expression : Dict) : Value → Prop where
  | actual {actual : Value} : Expression.operator expression ∈ orderings → tooLarge actual = true → Raises runtime expression actual
  | expected {actual : Value} : Expression.operator expression ∈ orderings → nonNumeric runtime actual = false →
      tooLarge (Expression.expected expression) = true → Raises runtime expression actual
  | pattern {s pattern : String} {error : Exc} : Expression.operator expression = "regex" →
      Expression.expected expression = .str pattern → pattern.length ≤ regexMaxPatternLength → s.length ≤ regexMaxTargetLength →
      nestedQuantifier pattern.toList = false → runtime.compileRegex pattern = .raised error → Raises runtime expression (.str s)

theorem toFloat_exact (runtime : Runtime) (value : Value) :
    (tooLarge value = false ∧ nonNumeric runtime value = false ∧ ∃ x, toFloat runtime value = .ok x) ∨
    (tooLarge value = true ∧ ∃ error, toFloat runtime value = .error error ∧ error.kind ∉ [ExcKind.valueError,.typeError]) ∨
    (tooLarge value = false ∧ nonNumeric runtime value = true ∧
      ∃ error, toFloat runtime value = .error error ∧ error.kind ∈ [ExcKind.valueError,.typeError]) := by
  cases value with
  | int n =>
    by_cases fits : n.natAbs < floatOverflow
    · refine .inl ⟨?_,rfl,_,by rw [toFloat,if_pos fits]⟩
      rw [tooLarge,decide_eq_false_iff_not]
      exact Nat.not_le.mpr fits
    · refine .inr (.inl ⟨?_,_,by rw [toFloat,if_neg fits],by simp⟩)
      rw [tooLarge,decide_eq_true_iff]
      exact Nat.not_lt.mp fits
  | bool b => exact .inl ⟨rfl,rfl,_,rfl⟩
  | float x => exact .inl ⟨rfl,rfl,_,rfl⟩
  | str s =>
    cases parsed : runtime.parseFloat s with
    | some x => exact .inl ⟨rfl,by rw [nonNumeric,parsed]; rfl,x,by rw [toFloat,parsed]⟩
    | none => exact .inr (.inr ⟨rfl,by rw [nonNumeric,parsed]; rfl,toFloat_nonNumeric (by rw [nonNumeric,parsed]; rfl)⟩)
  | none => exact .inr (.inr ⟨rfl,rfl,toFloat_nonNumeric rfl⟩)
  | list items => exact .inr (.inr ⟨rfl,rfl,toFloat_nonNumeric rfl⟩)
  | tuple items => exact .inr (.inr ⟨rfl,rfl,toFloat_nonNumeric rfl⟩)
  | dict members => exact .inr (.inr ⟨rfl,rfl,toFloat_nonNumeric rfl⟩)
  | object text truth => exact .inr (.inr ⟨rfl,rfl,toFloat_nonNumeric rfl⟩)

theorem compare_returns (operator : String) (actual expected : Value) :
    (∃ answer, safeNumericCompare runtime operator actual expected = .ok answer) ↔
    ¬(tooLarge actual = true ∨ nonNumeric runtime actual = false ∧ tooLarge expected = true) := by
  rw [safeNumericCompare]
  by_cases absent : actual = .none
  · subst absent
    rw [if_pos rfl]
    exact ⟨fun _ => by simp [tooLarge,nonNumeric],fun _ => ⟨_,rfl⟩⟩
  · rw [if_neg absent]
    dsimp only
    rcases toFloat_exact runtime actual with ⟨small,number,x,read⟩ | ⟨large,error,failed,escapes⟩ | ⟨small,none,error,failed,caught⟩
    · rw [read,small,number]
      rcases toFloat_exact runtime expected with ⟨small,-,y,reread⟩ | ⟨large,error,failed,escapes⟩ | ⟨small,-,error,failed,caught⟩
      · rw [reread,small]
        exact ⟨fun _ => by simp,fun _ => ⟨_,rfl⟩⟩
      · simp only [failed,large,bind,Except.bind,escapes,if_false]
        simp
      · simp only [failed,small,bind,Except.bind,caught,if_true]
        simp
    · simp only [failed,large,bind,Except.bind,escapes,if_false]
      simp
    · simp only [failed,small,none,bind,Except.bind,caught,if_true]
      simp

theorem search_returns (expected actual : Value) : (∃ answer, safeRegexSearch runtime expected actual = .ok answer) ↔
    ¬∃ pattern s error, expected = .str pattern ∧ actual = .str s ∧ pattern.length ≤ regexMaxPatternLength ∧
      s.length ≤ regexMaxTargetLength ∧ nestedQuantifier pattern.toList = false ∧ runtime.compileRegex pattern = .raised error := by
  unfold safeRegexSearch
  split
  · rename_i pattern s
    by_cases long : regexMaxPatternLength < pattern.length
    · rw [if_pos long]
      refine ⟨?_,fun _ => ⟨_,rfl⟩⟩
      rintro - ⟨other,_,_,same,-,short,-⟩
      obtain rfl := Value.str.inj same
      omega
    by_cases wide : regexMaxTargetLength < s.length
    · rw [if_neg long,if_pos wide]
      refine ⟨?_,fun _ => ⟨_,rfl⟩⟩
      rintro - ⟨_,other,_,-,same,-,short,-⟩
      obtain rfl := Value.str.inj same
      omega
    rw [if_neg long,if_neg wide]
    cases guarded : nestedQuantifier pattern.toList with
    | true =>
      rw [if_pos rfl]
      refine ⟨?_,fun _ => ⟨_,rfl⟩⟩
      rintro - ⟨other,_,_,same,-,-,-,unguarded,-⟩
      obtain rfl := Value.str.inj same
      rw [guarded] at unguarded
      cases unguarded
    | false =>
      rw [if_neg Bool.false_ne_true]
      cases compiled : runtime.compileRegex pattern with
      | rejected =>
        refine ⟨?_,fun _ => ⟨_,rfl⟩⟩
        rintro - ⟨other,_,_,same,-,-,-,-,raised⟩
        obtain rfl := Value.str.inj same
        rw [compiled] at raised
        cases raised
      | raised error =>
        constructor
        · rintro ⟨answer,done⟩
          cases done
        · exact fun fine => absurd ⟨pattern,s,error,rfl,rfl,Nat.not_lt.mp long,Nat.not_lt.mp wide,guarded,compiled⟩ fine
      | pattern search =>
        refine ⟨?_,fun _ => ⟨_,rfl⟩⟩
        rintro - ⟨other,_,_,same,-,-,-,-,raised⟩
        obtain rfl := Value.str.inj same
        rw [compiled] at raised
        cases raised
  · rename_i other
    refine ⟨?_,fun _ => ⟨_,rfl⟩⟩
    rintro - ⟨pattern,s,_,rfl,rfl,-⟩
    exact other pattern s rfl rfl

theorem evaluateAgainst_returns (expression : Dict) (actual : Value) :
    (∃ answer, evaluateAgainst runtime expression actual = .ok answer) ↔ ¬ Raises runtime expression actual := by
  have quiet : ∀ {operator : String}, Expression.operator expression = operator → operator ∉ orderings → operator ≠ "regex" →
      ¬ Raises runtime expression actual := by
    rintro operator rfl unordered plain raises
    cases raises with
    | actual ordering _ => exact unordered ordering
    | expected ordering _ _ => exact unordered ordering
    | pattern regex _ _ _ _ _ => exact plain regex
  unfold evaluateAgainst
  dsimp only
  split
  · rename_i named
    exact ⟨fun _ => quiet named (by decide) (by decide),fun _ => ⟨_,rfl⟩⟩
  split
  · rename_i named
    exact ⟨fun _ => quiet named (by decide) (by decide),fun _ => ⟨_,rfl⟩⟩
  split
  · rename_i named
    exact ⟨fun _ => quiet named (by decide) (by decide),fun _ => ⟨_,rfl⟩⟩
  split
  · rename_i named
    exact ⟨fun _ => quiet named (by decide) (by decide),fun _ => ⟨_,rfl⟩⟩
  split
  · rename_i ordering
    have plain : Expression.operator expression ≠ "regex" := fun same => absurd (same ▸ ordering) (by decide)
    rw [compare_returns]
    refine not_congr ⟨?_,?_⟩
    · rintro (large | ⟨number,large⟩)
      · exact .actual ordering large
      · exact .expected ordering number large
    · intro raises
      cases raises with
      | actual _ large => exact .inl large
      | expected _ number large => exact .inr ⟨number,large⟩
      | pattern regex _ _ _ _ _ => exact absurd regex plain
  rename_i unordered
  split
  · rename_i named
    exact ⟨fun _ => quiet named (by decide) (by decide),fun _ => ⟨_,rfl⟩⟩
  split
  · rename_i regex
    rw [search_returns]
    refine not_congr ⟨?_,?_⟩
    · rintro ⟨pattern,s,error,asked,rfl,short,narrow,unguarded,raised⟩
      exact .pattern regex asked short narrow unguarded raised
    · intro raises
      cases raises with
      | actual ordering _ => exact absurd ordering unordered
      | expected ordering _ _ => exact absurd ordering unordered
      | pattern _ asked short narrow unguarded raised => exact ⟨_,_,_,asked,rfl,short,narrow,unguarded,raised⟩
  · rename_i plain
    exact ⟨fun _ => quiet rfl unordered plain,fun _ => ⟨_,rfl⟩⟩

structure Typed (policy : RuntimePolicy) : Prop where
  texts : StringTexts policy
  decision : ∃ s, policy.outcome.getD "decision" (.str "allow") = .str s
  evidence : Texts (requiredEvidence policy)
  reviewers : Texts (requiredReviewers policy)
  minimum : ∃ n, policy.requirements.getD "minimum_approval_count" (.int 0) = .int n

-- The caller's approvals can be sorted, and no expression raises.
structure Evaluable (runtime : Runtime) (policy : RuntimePolicy) (context : Dict) : Prop where
  approvals : (approvedBy context).Pairwise fun a b => comparable a b = true
  expressions : ∀ expression ∈ tests policy, ¬ Raises runtime expression (readPath context (Expression.field expression))

theorem pySorted_texts (texts : Texts items) : ∃ sorted, pySorted items = .ok sorted := by
  obtain ⟨names,rfl⟩ := texts_map texts
  exact ⟨_,pySorted_strs names⟩

theorem pySorted_returns (items : List Value) : (∃ sorted, pySorted items = .ok sorted) ↔ items.Pairwise fun a b => comparable a b = true := by
  unfold pySorted
  split
  · rename_i told
    exact ⟨fun _ => told,fun _ => ⟨_,rfl⟩⟩
  · rename_i untold
    constructor
    · rintro ⟨sorted,done⟩
      cases done
    · exact fun told => absurd told untold

theorem requirements_return (typed : Typed policy) : (∃ req, evaluateRequirements runtime policy context = .ok req) ↔
    (approvedBy context).Pairwise fun a b => comparable a b = true := by
  have filtered : ∀ {items : List Value} (given : List Value), Texts items → Texts (items.filter (absentFrom given)) :=
    fun _ texts item listed => texts item (List.mem_of_mem_filter listed)
  rw [← pySorted_returns]
  constructor
  · rintro ⟨req,done⟩
    exact ⟨_,(evaluateRequirements_ok.mp done).approvers⟩
  · rintro ⟨approvers,sorted⟩
    obtain ⟨n,counted⟩ := typed.minimum
    obtain ⟨missingEvidence,he⟩ := pySorted_texts (filtered (evidenceAvailable context) typed.evidence)
    obtain ⟨missingReviewers,hr⟩ := pySorted_texts (filtered (approvedBy context) typed.reviewers)
    obtain ⟨reviewers,ha⟩ := pySorted_texts typed.reviewers
    obtain ⟨evidence,hq⟩ := pySorted_texts typed.evidence
    exact ⟨⟨reviewers,approvers,n,(approvedBy context).length,missingReviewers,decide (n ≤ (approvedBy context).length),evidence,missingEvidence⟩,
      evaluateRequirements_ok.mpr ⟨by rw [minimumApprovalCount,counted]; rfl,he,hr,ha,sorted,hq,rfl,rfl⟩⟩

theorem evaluatePolicy_returns (typed : Typed policy) : (∃ one, evaluatePolicy runtime policy context = .ok one) ↔ Evaluable runtime policy context := by
  have expressions : ((∃ matched, matching runtime context policy.conditions = .ok matched) ∧
      ∃ matched, matching runtime context policy.constraints = .ok matched) ↔
      ∀ expression ∈ tests policy, ¬ Raises runtime expression (readPath context (Expression.field expression)) := by
    rw [matching_returns,matching_returns,tests,List.forall_mem_append]
    refine and_congr (forall₂_congr fun expression _ => ?_) (forall₂_congr fun expression _ => ?_)
    · exact evaluateAgainst_returns expression _
    · exact evaluateAgainst_returns expression _
  constructor
  · rintro ⟨one,done⟩
    have evaluates := evaluatePolicy_ok.mp done
    exact ⟨(requirements_return typed).mp ⟨_,evaluates.requirements⟩,expressions.mp ⟨⟨_,evaluates.conditions⟩,_,evaluates.constraints⟩⟩
  · rintro ⟨approvals,quiet⟩
    obtain ⟨⟨conditions,hc⟩,constraints,hk⟩ := expressions.mpr quiet
    obtain ⟨req,hr⟩ := (requirements_return typed).mpr approvals
    exact ⟨⟨policy,scopeMatches policy context,conditions,constraints,req⟩,evaluatePolicy_ok.mpr ⟨rfl,rfl,hc,hk,hr⟩⟩

def TypedBundle (bundle : RuntimePolicyBundle) : Prop := ∀ policy ∈ bundle.runtimePolicies, Typed policy

def EvaluableBy (runtime : Runtime) (bundle : RuntimePolicyBundle) (context : Dict) : Prop :=
  ∀ policy ∈ bundle.runtimePolicies, isEffective runtime policy = true → Evaluable runtime policy context

theorem outcome_text {one : Evaluated} (typed : Typed one.policy) : ∃ s, one.outcome = .str s := by
  obtain ⟨s,decided⟩ := typed.decision
  have decision : one.decision = .str s := decided
  unfold Evaluated.outcome
  split
  · exact ⟨_,rfl⟩
  split
  · exact ⟨s,decision⟩
  split
  · exact ⟨_,rfl⟩
  split
  · exact ⟨_,rfl⟩
  · exact ⟨s,decision⟩

theorem summary_returns {ones : List Evaluated} (typed : ∀ one ∈ ones, Typed one.policy) : ∃ result, summarize (collected ones) = .ok result := by
  have sorted : ∀ (items : List Value), Texts items → ∃ names, sortedSet items = .ok names := fun items texts => by
    obtain ⟨names,-,made⟩ := sortedSet_texts texts
    exact ⟨_,made⟩
  have named : ∀ one ∈ ones, Texts [one.policy.policyId] := fun one listed => texts_single (typed one listed).texts.policyId
  have owed : ∀ one ∈ ones, Texts one.policy.obligations := fun one listed => (typed one listed).texts.obligations
  obtain ⟨final,chosen⟩ : ∃ final, chooseFinalOutcome (collected ones).outcomes = .ok final := by
    have texts : Texts (collected ones).outcomes := by
      rw [collected_outcomes]
      exact texts_flatMap fun one listed => texts_when (texts_single (outcome_text (typed one listed)))
    have named : ∃ final, precedence final = strictest (collected ones).outcomes := by
      have most : strictest (collected ones).outcomes ≤ 4 := strictest_le.mpr fun outcome _ => by
        unfold strictness
        cases PolicyEvaluator.outcomeOf outcome <;> decide
      interval_cases held : strictest (collected ones).outcomes
      · exact ⟨.allow,rfl⟩
      · exact ⟨.requireHumanReview,rfl⟩
      · exact ⟨.escalate,rfl⟩
      · exact ⟨.halt,rfl⟩
      · exact ⟨.deny,rfl⟩
    obtain ⟨final,strict⟩ := named
    refine ⟨final,chooseFinalOutcome_ok.mpr ⟨fun outcome listed => ?_,strict⟩⟩
    obtain ⟨s,rfl⟩ := texts outcome listed
    rfl
  obtain ⟨applicable,ha⟩ := sorted (collected ones).applicable (by
    rw [collected_applicable]
    exact texts_flatMap fun one listed => texts_when (named one listed))
  obtain ⟨triggered,ht⟩ := sorted (collected ones).triggered (by
    rw [collected_triggered]
    exact texts_flatMap fun one listed => texts_when (named one listed))
  obtain ⟨reasons,hr⟩ := sorted (nonempty (collected ones).reasons) (texts_nonempty (by
    rw [collected_reasons]
    exact texts_flatMap fun one listed => texts_when (reasons_texts (typed one listed).texts)))
  obtain ⟨actions,hq⟩ := sorted (nonempty (collected ones).requiredActions) (texts_nonempty (by
    rw [collected_requiredActions]
    exact texts_flatMap fun one listed => texts_when (owed one listed)))
  obtain ⟨obligations,ho⟩ := sorted (nonempty (collected ones).obligations) (texts_nonempty (by
    rw [collected_obligations]
    exact texts_flatMap fun one listed => texts_when (owed one listed)))
  exact ⟨⟨applicable,triggered,final,reasons,actions,obligations,_,_,_,_⟩,summarize_ok.mpr ⟨chosen,ha,ht,hr,hq,ho,rfl,rfl,rfl,rfl⟩⟩

theorem evaluation_returns (typed : TypedBundle bundle) :
    (∃ result, evaluateRuntimePolicies runtime bundle context = .ok result) ↔ EvaluableBy runtime bundle context := by
  constructor
  · rintro ⟨result,done⟩ policy member active
    obtain ⟨ones,evaluated,-⟩ := evaluation_ok.mp done
    obtain ⟨one,-,evaluates⟩ := evaluations_mem evaluated member active
    exact (evaluatePolicy_returns (typed policy member)).mp ⟨one,evaluatePolicy_ok.mpr evaluates⟩
  · intro evaluable
    have each : ∀ outcome ∈ (bundle.runtimePolicies.filter (isEffective runtime)).map fun policy => evaluatePolicy runtime policy context,
        ∃ one, outcome = .ok one := by
      intro outcome listed
      obtain ⟨policy,inForce,rfl⟩ := List.mem_map.mp listed
      obtain ⟨member,active⟩ := List.mem_filter.mp inForce
      exact (evaluatePolicy_returns (typed policy member)).mpr (evaluable policy member active)
    obtain ⟨ones,evaluated⟩ := all_returned each
    have kept : ∀ one ∈ ones, Typed one.policy := by
      intro one listed
      obtain ⟨policy,member,-,evaluates⟩ := mem_evaluations evaluated listed
      rw [evaluates.about]
      exact typed policy member
    obtain ⟨result,summarized⟩ := summary_returns kept
    exact ⟨result,evaluation_ok.mpr ⟨ones,evaluated,summarized⟩⟩

theorem adapted_typed (made : toCanonicalIr source = .ok ir) (adapted : Adapted ir policy) : Typed policy := by
  obtain ⟨text,members,dumped,loaded,adapts⟩ := adapted
  obtain ⟨conditions,constraints,testVectors,metadata,-,rfl⟩ := toCanonicalIr_ok.mp made
  obtain ⟨written,spelled,reloaded⟩ := stableJsonDumps_ok dumped
  obtain rfl := Value.dict.inj (Except.ok.inj (loaded.symm.trans reloaded))
  have record : Record (canonicalIr source conditions constraints testVectors metadata) :=
    ⟨by simp [StrKeys,canonicalIr,field],by simp [canonicalIr,field]⟩
  have held : ∀ {name : String} {value : Value},
      lookup (.str name) (canonicalIr source conditions constraints testVectors metadata) = some value →
      subscript (.dict (Dict.update [] (fromMembers written))) name = .ok (reread value) := written_subscript record spelled
  have policyId : subscript _ "policy_id" = .ok (reread (.str source.policyId)) := held rfl
  have title : subscript _ "title" = .ok (reread (.str source.title)) := held rfl
  have required : subscript _ "requirements" = .ok (reread (.dict (requirementsOf source))) := held rfl
  have decided : subscript _ "outcome" = .ok (reread (.dict (CompiledPolicy.outcomeOf source))) := held rfl
  have owed : subscript _ "obligations" = .ok (reread (strList (dedupeSorted source.obligations))) := held rfl
  obtain ⟨-,-,-,requirementsRead⟩ := CompiledPolicy.reread_dict (requirementsOf_json source)
  obtain ⟨-,-,-,outcomeRead⟩ := CompiledPolicy.reread_dict (outcomeOf_json source)
  rw [reread_str] at policyId title
  rw [requirementsRead] at required
  rw [outcomeRead] at decided
  rw [reread_texts] at owed
  clear held record dumped loaded reloaded spelled made
  generalize Dict.update [] (fromMembers written) = members at *
  have fields : adaptFields members = .ok policy := by
    rw [adaptCanonicalIr] at adapts
    cases parts : adaptFields members with
    | ok other =>
      rw [parts] at adapts
      exact adapts
    | error error =>
      rw [parts] at adapts
      cases adapts
  simp only [adaptFields,policyId,title,required,decided,owed,bind_ok,dictFrom,listFrom_texts,Except.ok.injEq,exists_eq_left'] at fields
  obtain ⟨version,-,description,-,domains,-,routes,-,actors,-,conditions,-,constraints,-,testVectors,-,metadata,-,sourceRefs,-,made⟩ := fields
  cases made
  have requirements {name : String} {value default : Value} (there : lookup (.str name) (requirementsOf source) = some value) :
      (rereadDict (requirementsOf source)).getD name default = reread value :=
    getD_of_subscript (reread_subscript (requirementsOf_json source) there)
  have outcome {name : String} {value default : Value} (there : lookup (.str name) (CompiledPolicy.outcomeOf source) = some value) :
      (rereadDict (CompiledPolicy.outcomeOf source)).getD name default = reread value :=
    getD_of_subscript (reread_subscript (outcomeOf_json source) there)
  have listed {names : List String} : Texts (listify (strList names)) := by
    intro item member
    obtain ⟨name,-,rfl⟩ := List.mem_map.mp member
    exact ⟨name,rfl⟩
  have evidence : (rereadDict (requirementsOf source)).get "required_evidence" = _ := requirements rfl
  have reviewers : (rereadDict (requirementsOf source)).get "required_reviewers" = _ := requirements rfl
  rw [reread_texts] at evidence reviewers
  have minimum : (rereadDict (requirementsOf source)).getD "minimum_approval_count" (.int 0) =
      reread (.int source.requirements.minimumApprovalCount) := requirements rfl
  have decision : (rereadDict (CompiledPolicy.outcomeOf source)).getD "decision" (.str "allow") = reread (.str source.outcome.decision.text) := outcome rfl
  have reason : (rereadDict (CompiledPolicy.outcomeOf source)).getD "reason" (.str "") = reread (.str source.outcome.reason) := outcome rfl
  refine ⟨⟨⟨_,rfl⟩,⟨_,rfl⟩,⟨_,reason⟩,?_⟩,⟨_,decision⟩,?_,?_,⟨_,minimum⟩⟩
  · exact listed
  · unfold requiredEvidence
    rw [evidence]
    exact listed
  · unfold requiredReviewers
    rw [reviewers]
    exact listed

-- Every policy of the bundle is what a valid source compiles to.
def CompiledBundle (python : Python) (bundle : RuntimePolicyBundle) : Prop :=
  ∀ policy ∈ bundle.runtimePolicies, ∃ given source ir,
    SourcePolicy.validated python given = some source ∧ toCanonicalIr source = .ok ir ∧ Adapted ir policy

def storedVerdict (ctx : PipelineContext) : Value := (subDict ctx.responseExtras "governance").get "compiled_policy"

structure Names (world : World) (runtime : Runtime) (ctx : PipelineContext) (bundle : RuntimePolicyBundle) (directory : String) : Prop where
  evaluator : world.evaluateRuntimePolicies = evaluateRuntimePolicies runtime
  named : ctx.context.get "compiled_policy_bundle_dir" = .str directory
  filled : directory ≠ ""
  loaded : loadRuntimeBundle world.setting directory (world.disk directory) none = .ok bundle

theorem enforceOutcome_extras (outcome : Outcome) (ctx : PipelineContext) : (enforceOutcome outcome ctx).2.responseExtras = ctx.responseExtras := by
  have appended : ∀ reason (ctx : PipelineContext), (appendReason reason ctx).2.responseExtras = ctx.responseExtras := by
    intro reason ctx
    unfold appendReason
    split <;> rfl
  cases outcome with
  | allow => rfl
  | requireHumanReview => exact appended _ _
  | escalate => exact appended _ _
  | halt => exact appended _ _
  | deny => exact appended _ _

theorem governance_set (name : String) (value : Value) (ctx : PipelineContext) :
    subDict (setGovernance name value ctx).responseExtras "governance" = (subDict ctx.responseExtras "governance").set name value := by
  have shown : (Dict.set ctx.responseExtras "governance" (.dict ((subDict ctx.responseExtras "governance").set name value))).getD "governance" (.dict []) =
      .dict ((subDict ctx.responseExtras "governance").set name value) := by
    rw [Dict.getD,Dict.set,lookup_store,if_pos rfl,Option.getD_some]
  rw [setGovernance,subDict,shown]

section Bridge
variable {world : World} {ctx : PipelineContext} {bundle : RuntimePolicyBundle} {directory : String}

theorem bundle_evaluated (names : Names world runtime ctx bundle directory) : evaluateBundle world (.str directory) ctx.context =
    (evaluateRuntimePolicies runtime bundle ctx.context).map fun result => (bundle,result) := by
  unfold evaluateBundle
  dsimp only
  rw [names.loaded,names.evaluator]
  change (evaluateRuntimePolicies runtime bundle ctx.context >>= fun result => .ok (bundle,result)) = _
  cases evaluateRuntimePolicies runtime bundle ctx.context with
  | error error => rfl
  | ok result => rfl

theorem bridge_stores (names : Names world runtime ctx bundle directory)
    (evaluated : evaluateRuntimePolicies runtime bundle ctx.context = .ok decision) :
    storedVerdict (applyCompiledPolicyRuntimeBridge world ctx).2 = .dict decision.toDict := by
  have truthy : (Value.str directory).truthy = true := by simpa [Value.truthy] using names.filled
  have both := bundle_evaluated names
  rw [evaluated] at both
  have kept : ∀ (state : PipelineContext), state.responseExtras = (setGovernance "compiled_policy" (.dict decision.toDict) ctx).responseExtras →
      storedVerdict state = .dict decision.toDict := by
    intro state same
    rw [storedVerdict,same,governance_set,get_set]
  have rolledOut : ∀ (state : PipelineContext) value, state.responseExtras = (setGovernance "compiled_policy" (.dict decision.toDict) ctx).responseExtras →
      storedVerdict (setGovernance "compiled_policy_rollout" value state) = .dict decision.toDict := by
    intro state value same
    rw [storedVerdict,governance_set,get_set_other (by decide)]
    exact kept state same
  unfold applyCompiledPolicyRuntimeBridge
  dsimp only
  rw [names.named,truthy,both]
  simp only [Except.map,Bool.not_true,Bool.false_eq_true,if_false]
  split
  · exact kept _ rfl
  · split
    · rw [storedVerdict,enforceOutcome_extras]
      exact rolledOut _ _ rfl
    · exact rolledOut _ _ rfl

theorem bridge_skips (names : Names world runtime ctx bundle directory) (silent : ¬∃ decision, evaluateRuntimePolicies runtime bundle ctx.context = .ok decision) :
    (applyCompiledPolicyRuntimeBridge world ctx).2 = ctx := by
  have truthy : (Value.str directory).truthy = true := by simpa [Value.truthy] using names.filled
  have both := bundle_evaluated names
  cases evaluated : evaluateRuntimePolicies runtime bundle ctx.context with
  | ok decision => exact absurd ⟨decision,evaluated⟩ silent
  | error error =>
    rw [evaluated] at both
    unfold applyCompiledPolicyRuntimeBridge
    dsimp only
    rw [names.named,truthy,both]
    simp only [Except.map,Bool.not_true,Bool.false_eq_true,if_false]
    split <;> rfl

end Bridge

theorem compiled_typed (compiled : CompiledBundle python bundle) : TypedBundle bundle := by
  intro policy member
  obtain ⟨given,source,ir,-,made,adapted⟩ := compiled policy member
  exact adapted_typed made adapted

theorem compiled_policies_evaluate (runtime : Runtime) (bundle : RuntimePolicyBundle) (context : Dict) (compiled : CompiledBundle runtime.python bundle) :
    ((∃ result, evaluateRuntimePolicies runtime bundle context = .ok result) ↔ EvaluableBy runtime bundle context) ∧
    ∀ world ctx directory, Names world runtime ctx bundle directory → ctx.context = context →
      (EvaluableBy runtime bundle context → ∃ decision, evaluateRuntimePolicies runtime bundle context = .ok decision ∧
        storedVerdict (applyCompiledPolicyRuntimeBridge world ctx).2 = .dict decision.toDict) ∧
      (¬EvaluableBy runtime bundle context → (applyCompiledPolicyRuntimeBridge world ctx).2 = ctx) := by
  have returns : (∃ result, evaluateRuntimePolicies runtime bundle context = .ok result) ↔ EvaluableBy runtime bundle context :=
    evaluation_returns (compiled_typed compiled)
  refine ⟨returns,?_⟩
  rintro world ctx directory names rfl
  refine ⟨fun evaluable => ?_,fun blocked => bridge_skips names fun done => blocked (returns.mp done)⟩
  obtain ⟨decision,done⟩ := returns.mpr evaluable
  exact ⟨decision,done,bridge_stores names done⟩

def compiledFiles (text : String) : Files := fun path =>
  if path = "manifest.json" then .content (.text (dumps compact (.obj [])))
  else if path = canonicalIrPath then .content (.text text)
  else .absent

def compiledWorld (text : String) : World :=
  { PipelinePolicy.escalatingWorld with disk := fun _ => compiledFiles text,evaluateRuntimePolicies := evaluateRuntimePolicies sampleRuntime }

def approvedRequest (approvals : List Value) : PipelineContext :=
  let ctx := PipelinePolicy.requestContext (.str "bundle")
  { ctx with context := ctx.context ++ [field "approvals" (.dict [field "approved_by" (.list approvals)])] }

def limitsTest : Dict := [field "field" (.str "limits"),field "operator" (.str "eq"),field "value" (.dict [])]

theorem sample_compiled : ∃ text bundle policy, CompiledBundle WatVerifier.samplePython bundle ∧ bundle.runtimePolicies = [policy] ∧
    policy.effectiveDate = .none ∧ tests policy = [limitsTest] ∧
    ∀ approvals, Names (compiledWorld text) sampleRuntime (approvedRequest approvals) bundle "bundle" := by
  have valid : (CanonicalPolicy.sampleSource ["payments"] []).validated WatVerifier.samplePython =
      some (CanonicalPolicy.sampleSource ["payments"] []) := rfl
  have json : JsonValued (CanonicalPolicy.sampleSource ["payments"] []) := CanonicalPolicy.sampleSource_json rfl
  obtain ⟨ir,conditions,constraints,testVectors,mapping,normalized,made,-,adapts⟩ := compiles json
  obtain ⟨text,members,dumped,loaded,adapted⟩ := (adapts _).mpr rfl
  have strict : isStrict PipelinePolicy.escalatingWorld.setting = false := by decide +kernel
  have loads : ∃ bundle, loadRuntimeBundle PipelinePolicy.escalatingWorld.setting "bundle" (compiledFiles text) none = .ok bundle := by
    refine load_of_parts (readJsonFile_dumps _ compact []) (show declaredAlgorithm _ = .ok (.str "sha256") from rfl) ?_ ?_ (readJsonFile_text loaded) adapted
    · simp [checkSignature,compiledFiles,strict,canonicalIrPath,File.exists_]
    · simp [checkAlgorithm,strict]
  obtain ⟨bundle,loads⟩ := loads
  obtain ⟨_,reread,policy,_,parts⟩ := load_ok loads
  obtain rfl := Except.ok.inj ((readJsonFile_text loaded).symm.trans parts.irRead)
  obtain rfl := Except.ok.inj (adapted.symm.trans parts.adapted)
  refine ⟨text,bundle,_,?_,parts.policies,rfl,?_,fun approvals => ⟨rfl,rfl,by decide,loads⟩⟩
  · intro policy member
    rw [parts.policies] at member
    obtain rfl := List.mem_singleton.mp member
    exact ⟨_,_,ir,valid,made,text,members,dumped,loaded,adapted⟩
  · have first : normalizeExpressionList (CanonicalPolicy.sampleSource ["payments"] []).conditions = .ok [limitsTest] := rfl
    have second : normalizeExpressionList (CanonicalPolicy.sampleSource ["payments"] []).constraints = .ok [] := rfl
    obtain rfl := Except.ok.inj (first.symm.trans normalized.conditions)
    obtain rfl := Except.ok.inj (second.symm.trans normalized.constraints)
    rfl

theorem limitsTest_returns (actual : Value) : ¬ Raises sampleRuntime limitsTest actual := by
  intro raises
  cases raises with
  | actual ordering _ => exact absurd ordering (by decide)
  | expected ordering _ _ => exact absurd ordering (by decide)
  | pattern regex _ _ _ _ _ => exact absurd regex (by decide)

theorem compiled_policies_evaluate_sample : ∃ text bundle decision,
    loadRuntimeBundle (compiledWorld text).setting "bundle" (compiledFiles text) none = .ok bundle ∧
    evaluateRuntimePolicies sampleRuntime bundle (approvedRequest [.str "a"]).context = .ok decision ∧
    storedVerdict (applyCompiledPolicyRuntimeBridge (compiledWorld text) (approvedRequest [.str "a"])).2 = .dict decision.toDict := by
  obtain ⟨text,bundle,policy,compiled,policies,undated,tested,names⟩ := sample_compiled
  have evaluable : EvaluableBy sampleRuntime bundle (approvedRequest [.str "a"]).context := by
    intro other member _
    rw [policies] at member
    obtain rfl := List.mem_singleton.mp member
    refine ⟨by decide,fun expression listed => ?_⟩
    rw [tested] at listed
    obtain rfl := List.mem_singleton.mp listed
    exact limitsTest_returns _
  obtain ⟨decision,done,stored⟩ := ((compiled_policies_evaluate sampleRuntime bundle _ compiled).2 _ _ _ (names [.str "a"]) rfl).1 evaluable
  exact ⟨text,bundle,decision,(names []).loaded,done,stored⟩

theorem mixed_approvals_silence_policy : ∃ text bundle, CompiledBundle WatVerifier.samplePython bundle ∧
    Names (compiledWorld text) sampleRuntime (approvedRequest [.str "a",.int 1]) bundle "bundle" ∧
    (¬∃ result, evaluateRuntimePolicies sampleRuntime bundle (approvedRequest [.str "a",.int 1]).context = .ok result) ∧
    (applyCompiledPolicyRuntimeBridge (compiledWorld text) (approvedRequest [.str "a",.int 1])).2 = approvedRequest [.str "a",.int 1] := by
  obtain ⟨text,bundle,policy,compiled,policies,undated,-,names⟩ := sample_compiled
  have silent : ¬∃ result, evaluateRuntimePolicies sampleRuntime bundle (approvedRequest [.str "a",.int 1]).context = .ok result := by
    rw [evaluation_returns (compiled_typed compiled)]
    intro evaluable
    have inForce : isEffective sampleRuntime policy = true := by rw [isEffective,undated]; rfl
    have sorted := (evaluable policy (by simp [policies]) inForce).approvals
    exact absurd sorted (by decide)
  exact ⟨text,bundle,compiled,names _,silent,bridge_skips (names _) silent⟩

end VeritasOs.EvaluationErrors
