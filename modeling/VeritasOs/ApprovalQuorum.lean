import VeritasOs.ModelReader
import VeritasOs.PolicyReadings

namespace VeritasOs.ApprovalQuorum
open BindArtifacts PolicyBundle PolicyEvaluator PolicyReadings
open ModelReader (pyEq_textual)
open PipelinePolicy (Outcome PolicyEvaluationResult)

variable {runtime : Runtime} {context repeated : Dict} {policy : RuntimePolicy}

def HoldsDistinct (items : List Value) (count : Int) : Prop :=
  ∃ approvers : List Value, approvers.Sublist items ∧ (approvers.Pairwise fun a b => a ≠ b ∧ pyEq a b = false) ∧ count ≤ approvers.length

-- The approvals stay below the minimum, or reach it without the repeats.
def Quorate (runtime : Runtime) (policy : RuntimePolicy) (context : Dict) : Prop :=
  ∀ minimum, minimumApprovalCount runtime policy = .ok minimum →
    ((approvedBy context).length : Int) < minimum ∨ HoldsDistinct (approvedBy context) minimum

-- PolicyRequirements._approval_consistency, for reviewers that are texts
def ApprovalConsistent (runtime : Runtime) (policy : RuntimePolicy) : Prop :=
  Texts (requiredReviewers policy) ∧
  ∀ minimum, minimumApprovalCount runtime policy = .ok minimum → HoldsDistinct (requiredReviewers policy) minimum

-- Nobody new approves, and all else that the policies ask is as before.
structure Repeats (runtime : Runtime) (policies : List RuntimePolicy) (context repeated : Dict) : Prop where
  approvers : ∀ item, item ∈ approvedBy repeated ↔ item ∈ approvedBy context
  evidence : evidenceAvailable repeated = evidenceAvailable context
  triggers : ∀ policy ∈ policies, Triggers runtime context policy → Triggers runtime repeated policy

theorem met_distinct (evaluated : evaluateRequirements runtime policy context = .ok req) :
    (req.minimumApprovalMet = true → HoldsDistinct (approvedBy context) req.minimumApprovalCount) ↔ Quorate runtime policy context := by
  have requires := evaluateRequirements_ok.mp evaluated
  rw [requires.met,decide_eq_true_eq]
  constructor
  · intro distinct minimum counted
    obtain rfl := Except.ok.inj (requires.minimum.symm.trans counted)
    by_cases reached : req.minimumApprovalCount ≤ (approvedBy context).length
    · exact .inr (distinct reached)
    · exact .inl (Int.not_le.mp reached)
  · intro quorate reached
    obtain below | distinct := quorate _ requires.minimum
    · exact absurd reached (Int.not_le.mpr below)
    · exact distinct

theorem distinct_length {items others : List Value} {count : Int} (distinct : HoldsDistinct items count)
    (members : ∀ item ∈ items, item ∈ others) : count ≤ others.length := by
  obtain ⟨approvers,listed,apart,enough⟩ := distinct
  have alone : approvers.Nodup := apart.imp And.left
  have fits : approvers.length ≤ others.length := (alone.subperm fun item held => members item (listed.subset held)).length_le
  omega

theorem text_listed {s : String} {items : List Value} : items.any (pyEq (.str s)) = true ↔ .str s ∈ items := by
  rw [List.any_eq_true]
  constructor
  · rintro ⟨item,listed,same⟩
    exact pyEq_textual same ▸ listed
  · intro listed
    exact ⟨_,listed,(pyEq_str _ s).mpr rfl⟩

theorem absent_same (same : ∀ item, item ∈ items ↔ item ∈ others) : absentFrom items = absentFrom others := by
  funext item
  rw [absentFrom,absentFrom,Bool.not_inj_iff,Bool.eq_iff_iff,List.any_eq_true,List.any_eq_true]
  exact exists_congr fun other => and_congr_left fun _ => same other

theorem sorted_isEmpty (made : pySorted items = .ok sorted) : sorted.isEmpty = items.isEmpty :=
  (pySorted_perm made).isEmpty_eq

section Repeated
variable {policies : List RuntimePolicy} {one again : Evaluated} (repeats : Repeats runtime policies context repeated)
  (evaluates : Evaluates runtime context policy one) (evaluatesAgain : Evaluates runtime repeated policy again)
include repeats evaluates evaluatesAgain

theorem evidence_repeated : again.evidenceUnmet = one.evidenceUnmet := by
  have before := evaluateRequirements_ok.mp evaluates.requirements
  have after := evaluateRequirements_ok.mp evaluatesAgain.requirements
  rw [Evaluated.evidenceUnmet,Evaluated.evidenceUnmet,sorted_isEmpty after.missingEvidence,sorted_isEmpty before.missingEvidence,
    repeats.evidence]

theorem approvals_repeated (people : Quorate runtime policy repeated ∨ ApprovalConsistent runtime policy)
    (unmet : one.approvalsUnmet = true) : again.approvalsUnmet = true := by
  have before := evaluateRequirements_ok.mp evaluates.requirements
  have after := evaluateRequirements_ok.mp evaluatesAgain.requirements
  have sameCount : again.reqEval.minimumApprovalCount = one.reqEval.minimumApprovalCount :=
    Except.ok.inj (after.minimum.symm.trans before.minimum)
  have missing : again.reqEval.missingReviewers.isEmpty = one.reqEval.missingReviewers.isEmpty := by
    rw [sorted_isEmpty after.missingReviewers,sorted_isEmpty before.missingReviewers,absent_same repeats.approvers]
  rw [Evaluated.approvalsUnmet,missing,after.met,sameCount]
  rw [Evaluated.approvalsUnmet,before.met] at unmet
  cases complete : one.reqEval.missingReviewers.isEmpty with
  | false => rfl
  | true =>
    simp only [complete,Bool.not_true,Bool.false_or,Bool.not_eq_true',decide_eq_false_iff_not] at unmet ⊢
    intro reached
    have enough : ∀ {items}, HoldsDistinct items one.reqEval.minimumApprovalCount → (∀ item ∈ items, item ∈ approvedBy context) → False :=
      fun distinct members => unmet (distinct_length distinct members)
    obtain quorate | ⟨texts,consistent⟩ := people
    · obtain below | distinct := quorate _ (sameCount ▸ after.minimum)
      · exact absurd reached (Int.not_le.mpr below)
      · exact enough distinct fun item listed => (repeats.approvers item).mp listed
    · -- every required reviewer approved, and they are enough people
      refine enough (consistent _ before.minimum) fun item listed => ?_
      rw [sorted_isEmpty before.missingReviewers,List.isEmpty_iff,List.filter_eq_nil_iff] at complete
      have present := complete item listed
      obtain ⟨s,rfl⟩ := texts item listed
      rw [absentFrom,Bool.not_eq_true',Bool.not_eq_false] at present
      exact text_listed.mp present

theorem outcome_repeated (member : policy ∈ policies) (people : Quorate runtime policy repeated ∨ ApprovalConsistent runtime policy)
    (triggered : one.triggered = true) (strict : 0 < strictness one.outcome) : again.triggered = true ∧ 0 < strictness again.outcome := by
  have triggers := (triggered_iff evaluatesAgain).mpr (repeats.triggers policy member ((triggered_iff evaluates).mp triggered))
  refine ⟨triggers,?_⟩
  have decision : again.decision = one.decision := by rw [Evaluated.decision,Evaluated.decision,evaluatesAgain.about,evaluates.about]
  rw [Evaluated.outcome,triggered] at strict
  rw [Evaluated.outcome,triggers,decision,evidence_repeated repeats evaluates evaluatesAgain]
  simp only [Bool.not_true,Bool.false_eq_true,if_false] at strict ⊢
  split
  · rename_i decided
    rwa [if_pos decided] at strict
  · rename_i allowed
    rw [if_neg allowed] at strict
    split
    · decide
    · rename_i evidenced
      rw [if_neg evidenced] at strict
      split
      · decide
      · rename_i approved
        split at strict
        · rename_i unmet
          exact absurd (approvals_repeated repeats evaluates evaluatesAgain people unmet) approved
        · exact strict

end Repeated

def quorumPolicy (reviewers : List String) : RuntimePolicy :=
  samplePolicy "p1" "allow" [] [field "required_reviewers" (strList reviewers),field "minimum_approval_count" (.int 2)]

def approvedRequest (approvers : List String) : Dict := field "approvals" (.dict [field "approved_by" (strList approvers)]) :: sampleRequest

theorem quorumPolicy_consistent : ApprovalConsistent sampleRuntime (quorumPolicy ["a","b"]) := by
  refine ⟨?_,fun minimum counted => ?_⟩
  · intro item listed
    obtain rfl | rfl := List.mem_pair.mp listed
    · exact ⟨_,rfl⟩
    · exact ⟨_,rfl⟩
  · obtain rfl := Except.ok.inj counted
    exact ⟨_,List.Sublist.refl _,by decide,by decide⟩

theorem approved_again (policies : List RuntimePolicy) (quiet : ∀ policy ∈ policies, tests policy = []) :
    Repeats sampleRuntime policies (approvedRequest ["a"]) (approvedRequest ["a","a"]) where
  approvers item := by
    have once : approvedBy (approvedRequest ["a"]) = [.str "a"] := rfl
    have twice : approvedBy (approvedRequest ["a","a"]) = [.str "a",.str "a"] := rfl
    rw [once,twice]
    simp
  evidence := rfl
  triggers policy member triggers :=
    ⟨triggers.scope,fun expression listed => by rw [quiet policy member] at listed; cases listed⟩

end VeritasOs.ApprovalQuorum
