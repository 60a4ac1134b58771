import Mathlib.Data.List.Perm.Basic
import VeritasOs.PolicyEvaluator

namespace VeritasOs.PolicyOrder
open BindArtifacts PolicyBundle PolicyEvaluator
open PipelinePolicy (Outcome PolicyEvaluationResult)

-- A policy whose identifier, title, reason and obligations are texts.
structure StringTexts (policy : RuntimePolicy) : Prop where
  policyId : ∃ s, policy.policyId = .str s
  title : ∃ s, policy.title = .str s
  reason : ∃ s, policy.outcome.getD "reason" (.str "") = .str s
  obligations : Texts policy.obligations

structure SameVerdict (left right : PolicyEvaluationResult) : Prop where
  applicablePolicies : left.applicablePolicies = right.applicablePolicies
  triggeredPolicies : left.triggeredPolicies = right.triggeredPolicies
  finalOutcome : left.finalOutcome = right.finalOutcome
  reasons : left.reasons = right.reasons
  requiredActions : left.requiredActions = right.requiredActions
  obligations : left.obligations = right.obligations

def triggeredOutcomes (result : PolicyEvaluationResult) : List Value :=
  (result.policyResults.filter fun entry => entry.get "triggered" == .bool true).map fun entry => entry.get "outcome"

def withPolicies (bundle : RuntimePolicyBundle) (policies : List RuntimePolicy) : RuntimePolicyBundle :=
  { bundle with runtimePolicies := policies }

variable {runtime : Runtime} {bundle : RuntimePolicyBundle} {context : Dict}

variable {ones : List Evaluated}

theorem texts_flatMap (each : ∀ one ∈ ones, Texts (adds one)) : Texts (ones.flatMap adds) := by
  intro item listed
  obtain ⟨one,member,there⟩ := List.mem_flatMap.mp listed
  exact each one member item there

theorem texts_when {condition : Bool} {items : List Value} (texts : Texts items) : Texts (if condition then items else []) := by
  cases condition with
  | true => exact texts
  | false => exact fun item listed => by cases listed

theorem texts_single (text : ∃ s, item = .str s) : Texts [item] := by
  intro other listed
  obtain rfl := List.mem_singleton.mp listed
  exact text

theorem texts_nonempty (texts : Texts items) : Texts (nonempty items) :=
  fun item listed => texts item (List.mem_of_mem_filter listed)

theorem reasons_texts {one : Evaluated} (texts : StringTexts one.policy) : Texts one.reasons := by
  intro item listed
  rw [Evaluated.reasons,List.mem_cons] at listed
  obtain rfl | later := listed
  · split
    · exact texts.reason
    · exact texts.title
  · split at later
    · cases later
    · split at later
      · exact ⟨_,List.mem_singleton.mp later⟩
      · split at later
        · exact ⟨_,List.mem_singleton.mp later⟩
        · cases later

theorem evaluated_texts (texts : ∀ policy ∈ policies, StringTexts policy)
    (evaluated : Evaluations runtime context policies ones) : ∀ one ∈ ones, StringTexts one.policy := by
  intro one listed
  obtain ⟨policy,member,-,evaluates⟩ := mem_evaluations evaluated listed
  rw [evaluates.about]
  exact texts policy member

theorem all_returned {outcomes : List (Except Exc Evaluated)} (each : ∀ outcome ∈ outcomes, ∃ one, outcome = .ok one) :
    ∃ ones : List Evaluated, outcomes = ones.map .ok := by
  induction outcomes with
  | nil => exact ⟨[],rfl⟩
  | cons head rest ih =>
    obtain ⟨one,rfl⟩ := each head (by simp)
    obtain ⟨ones,rfl⟩ := ih fun outcome listed => each outcome (List.mem_cons_of_mem _ listed)
    exact ⟨one :: ones,rfl⟩

theorem evaluations_perm {policies others : List RuntimePolicy} (reordered : others.Perm policies)
    (evaluated : Evaluations runtime context policies ones) : ∃ again, Evaluations runtime context others again ∧ again.Perm ones := by
  have outcomes := (reordered.filter (isEffective runtime)).map fun policy => evaluatePolicy runtime policy context
  rw [Evaluations] at evaluated
  rw [evaluated] at outcomes
  obtain ⟨again,same⟩ := all_returned fun outcome listed => by
    obtain ⟨one,-,rfl⟩ := List.mem_map.mp (outcomes.mem_iff.mp listed)
    exact ⟨one,rfl⟩
  refine ⟨again,same,?_⟩
  rw [same] at outcomes
  exact (List.map_perm_map_iff fun _ _ equal => Except.ok.inj equal).mp outcomes

section Reordered
variable {ones again : List Evaluated} (reordered : again.Perm ones)
include reordered

theorem flatMap_mem (adds : Evaluated → List Value) (x : Value) : x ∈ again.flatMap adds ↔ x ∈ ones.flatMap adds :=
  (reordered.flatMap_right adds).mem_iff

variable {adds : Evaluated → List Value}

theorem set_reordered (each : ∀ one ∈ ones, Texts (adds one)) : sortedSet (again.flatMap adds) = sortedSet (ones.flatMap adds) :=
  (sortedSet_same (texts_flatMap each) fun x => (flatMap_mem reordered adds x).symm).symm

theorem nonempty_reordered (each : ∀ one ∈ ones, Texts (adds one)) :
    sortedSet (nonempty (again.flatMap adds)) = sortedSet (nonempty (ones.flatMap adds)) := by
  refine (sortedSet_same (texts_nonempty (texts_flatMap each)) fun x => ?_).symm
  simp only [nonempty,List.mem_filter,flatMap_mem reordered]

theorem strictest_reordered : strictest (again.flatMap adds) = strictest (ones.flatMap adds) := by
  refine Nat.le_antisymm (strictest_le.mpr fun x listed => ?_) (strictest_le.mpr fun x listed => ?_)
  · exact strictest_le.mp (Nat.le_refl _) x ((flatMap_mem reordered adds x).mp listed)
  · exact strictest_le.mp (Nat.le_refl _) x ((flatMap_mem reordered adds x).mpr listed)

theorem summary_reordered (texts : ∀ one ∈ ones, StringTexts one.policy) (summarizes : Summarizes (collected ones) result) :
    ∃ other, Summarizes (collected again) other ∧ SameVerdict result other := by
  let all := collected again
  refine ⟨⟨result.applicablePolicies,result.triggeredPolicies,result.finalOutcome,result.reasons,result.requiredActions,
    result.obligations,all.approvalRequirements,all.evidenceGaps,all.explanations,all.policyResults⟩,?_,⟨rfl,rfl,rfl,rfl,rfl,rfl⟩⟩
  have named : ∀ one ∈ ones, Texts [one.policy.policyId] := fun one listed => texts_single (texts one listed).policyId
  refine ⟨?_,?_,?_,?_,?_,?_,rfl,rfl,rfl,rfl⟩
  · obtain ⟨hashed,strict⟩ := chooseFinalOutcome_ok.mp summarizes.finalOutcome
    rw [collected_outcomes] at hashed strict ⊢
    exact chooseFinalOutcome_ok.mpr ⟨fun x listed => hashed x ((flatMap_mem reordered _ x).mp listed),by
      rw [strict,strictest_reordered reordered]⟩
  · rw [collected_applicable,set_reordered reordered fun one listed => texts_when (named one listed),← collected_applicable]
    exact summarizes.applicablePolicies
  · rw [collected_triggered,set_reordered reordered fun one listed => texts_when (named one listed),← collected_triggered]
    exact summarizes.triggeredPolicies
  · rw [collected_reasons,nonempty_reordered reordered fun one listed => texts_when (reasons_texts (texts one listed)),← collected_reasons]
    exact summarizes.reasons
  · rw [collected_requiredActions,nonempty_reordered reordered fun one listed => texts_when (texts one listed).obligations,
      ← collected_requiredActions]
    exact summarizes.requiredActions
  · rw [collected_obligations,nonempty_reordered reordered fun one listed => texts_when (texts one listed).obligations,
      ← collected_obligations]
    exact summarizes.obligations

end Reordered

theorem reported_outcomes (ones : List Evaluated) :
    ((ones.map Evaluated.policyResult).filter fun entry => entry.get "triggered" == .bool true).map (fun entry => entry.get "outcome") =
    ones.flatMap fun one => if one.triggered then [one.outcome] else [] := by
  induction ones with
  | nil => rfl
  | cons one rest ih =>
    have flag : Dict.get one.policyResult "triggered" = .bool one.triggered := rfl
    have shown : Dict.get one.policyResult "outcome" = one.outcome := rfl
    rw [List.map_cons,List.flatMap_cons]
    cases triggered : one.triggered with
    | true => rw [List.filter_cons_of_pos (by rw [flag,triggered]; rfl),List.map_cons,ih,shown,if_pos rfl,List.singleton_append]
    | false => rw [List.filter_cons_of_neg (by rw [flag,triggered]; decide),ih,if_neg Bool.false_ne_true,List.nil_append]

theorem outcome_strictest (summarizes : Summarizes (collected ones) result) :
    precedence result.finalOutcome = strictest (triggeredOutcomes result) := by
  have reported : triggeredOutcomes result = (collected ones).outcomes := by
    rw [triggeredOutcomes,summarizes.policyResults,collected_policyResults,reported_outcomes,collected_outcomes]
  rw [reported]
  exact (chooseFinalOutcome_ok.mp summarizes.finalOutcome).2

theorem strictest_more (first second : List Value) : strictest first ≤ strictest (first ++ second) :=
  strictest_le.mpr fun outcome listed => strictest_le.mp (Nat.le_refl _) outcome (List.mem_append_left second listed)

theorem samplePolicy_texts (policyId decision : String) (conditions : List Dict) (requirements : Dict) :
    StringTexts (samplePolicy policyId decision conditions requirements) :=
  ⟨⟨_,rfl⟩,⟨_,rfl⟩,⟨_,rfl⟩,texts_single ⟨_,rfl⟩⟩

end VeritasOs.PolicyOrder
