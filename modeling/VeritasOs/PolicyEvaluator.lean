import VeritasOs.FujiPolicy
import VeritasOs.KeyOrder
import VeritasOs.MemoryParity
import VeritasOs.PipelinePolicy

namespace VeritasOs.PolicyEvaluator
open Text JsonText BindArtifacts PolicyBundle DateTime
open PipelinePolicy (Outcome PolicyEvaluationResult floatAtLeast isFinite)
open WatVerifier (Python toInt floatLess zero one)
open FujiPolicy (floatOverflow)

-- What re.compile makes of a pattern: re.error, another exception, or a search that answers
-- unless its second runs out.
inductive Compiled where
  | rejected
  | raised (error : Exc)
  | pattern (search : String → Option Bool)

structure Runtime where
  python : Python
  -- float(n), for an int that a float can hold
  roundInt : Int → FloatValue
  parseFloat : String → Option FloatValue
  compileRegex : String → Compiled
  today : Nat

def isReal : Value → Bool
  | .int _ | .bool _ | .float _ => true
  | _ => false

-- Whether a < b returns. Lists are compared at their first items that differ.
mutual
def comparable : Value → Value → Bool
  | .str _,.str _ => true
  | .list a,.list b => comparableItems a b
  | .tuple a,.tuple b => comparableItems a b
  | a,b => isReal a && isReal b
def comparableItems : List Value → List Value → Bool
  | a :: as,b :: bs => if pyEq a b then comparableItems as bs else comparable a b
  | _,_ => true
end

-- a < b, where it returns.
mutual
def valueLt : Value → Value → Bool
  | .str a,.str b => !textLe b a
  | .list a,.list b => itemsLt a b
  | .tuple a,.tuple b => itemsLt a b
  | a,b =>
    match a.number,b.number with
    | some m,some n => !n.le m
    | _,_ => false
def itemsLt : List Value → List Value → Bool
  | a :: as,b :: bs => if pyEq a b then itemsLt as bs else valueLt a b
  | [],_ :: _ => true
  | _,[] => false
end

-- sorted(items): the sort asks for the order of every two items, at least through others.
def pySorted (items : List Value) : Except Exc (List Value) :=
  if items.Pairwise fun a b => comparable a b = true then
    .ok (items.insertionSort fun a b => valueLt b a = false)
  else .error (typeError "'<' not supported between instances")

def added (kept : List Value) (item : Value) : List Value := if kept.any (pyEq item) then kept else kept ++ [item]

def setOf (items : List Value) : Except Exc (List Value) :=
  if items.all fun item => (keyOf item).isSome then .ok (items.foldl added []) else .error (typeError "unhashable type")

def sortedSet (items : List Value) : Except Exc (List Value) := setOf items >>= pySorted

def toFloat (runtime : Runtime) : Value → Except Exc FloatValue
  | .bool b => .ok (if b then one else zero)
  | .int n =>
    if n.natAbs < floatOverflow then .ok (runtime.roundInt n) else .error ⟨.overflowError,"int too large to convert to float"⟩
  | .float x => .ok x
  | .str s =>
    match runtime.parseFloat s with
    | some x => .ok x
    | none => .error (valueError ("could not convert string to float: " ++ quoteStr s))
  | other => .error (typeError ("float() argument must be a string or a real number, not '" ++ typeName other ++ "'"))

def readFrom : Value → List String → Value
  | current,[] => current
  | .dict members,part :: rest =>
    match lookup (.str part) members with
    | some next => readFrom next rest
    | none => .none
  | _,_ :: _ => .none

-- field_path.split(".")
def pathParts (fieldPath : String) : List String := (fieldPath.toList.splitOn '.').map String.ofList

def readPath (context : Dict) (fieldPath : String) : Value := readFrom (.dict context) (pathParts fieldPath)

def compareFloats (operator : String) (a b : FloatValue) : Bool :=
  if !isFinite a || !isFinite b then false
  else if operator = "gt" then floatLess b a
  else if operator = "gte" then floatAtLeast a b
  else if operator = "lt" then floatLess a b
  else floatAtLeast b a

-- Only what float() has to say about a text or a type makes the comparison false.
def safeNumericCompare (runtime : Runtime) (operator : String) (actual expected : Value) : Except Exc Bool :=
  if actual = .none then .ok false
  else
    let compared := do
      let a ← toFloat runtime actual
      let b ← toFloat runtime expected
      return compareFloats operator a b
    match compared with
    | .ok answer => .ok answer
    | .error error => if error.kind ∈ [.valueError,.typeError] then .ok false else .error error

def regexMaxPatternLength : Nat := 256
def regexMaxTargetLength : Nat := 1024

-- The rest of \((?:[^()\\]|\\.)*[+*](?:[^()\\]|\\.)*\)[+*] after its first character; the
-- flag says that a quantifier was read.
def inGroup (quantified : Bool) : List Char → Bool
  | [] => false
  | '\\' :: [] => false
  | '\\' :: c :: rest => c != '\n' && inGroup quantified rest
  | '(' :: _ => false
  | ')' :: [] => false
  | ')' :: c :: _ => quantified && (c == '+' || c == '*')
  | c :: rest => inGroup (quantified || c == '+' || c == '*') rest

def nestedQuantifier : List Char → Bool
  | [] => false
  | c :: rest => (c == '(' && inGroup false rest) || nestedQuantifier rest

def safeRegexSearch (runtime : Runtime) (expected actual : Value) : Except Exc Bool :=
  match expected,actual with
  | .str pattern,.str target =>
    if regexMaxPatternLength < pattern.length then .ok false
    else if regexMaxTargetLength < target.length then .ok false
    else if nestedQuantifier pattern.toList then .ok false
    else
      match runtime.compileRegex pattern with
      | .rejected => .ok false
      | .raised error => .error error
      | .pattern search => .ok ((search target).getD false)
  | _,_ => .ok false

def listed (actual expected : Value) : Option Bool :=
  match expected with
  | .list items => some (items.any (pyEq actual))
  | _ => none

def containsValue (actual expected : Value) : Bool :=
  match actual with
  | .str s =>
    match expected with
    | .str part => hasSub part s
    | _ => false
  | .list items | .tuple items => items.any (pyEq expected)
  | _ => false

def orderings : List String := ["gt","gte","lt","lte"]

def Expression.field (expression : Dict) : String := (expression.getD "field" (.str "")).text
def Expression.operator (expression : Dict) : String := (expression.getD "operator" (.str "eq")).text
def Expression.expected (expression : Dict) : Value := expression.get "value"

-- An expression against the value its field has.
def evaluateAgainst (runtime : Runtime) (expression : Dict) (actual : Value) : Except Exc Bool :=
  let operator := Expression.operator expression
  let expected := Expression.expected expression
  if operator = "eq" then .ok (pyEq actual expected)
  else if operator = "neq" then .ok (!pyEq actual expected)
  else if operator = "in" then .ok ((listed actual expected).getD false)
  else if operator = "not_in" then .ok (((listed actual expected).map (!·)).getD false)
  else if operator ∈ orderings then safeNumericCompare runtime operator actual expected
  else if operator = "contains" then .ok (containsValue actual expected)
  else if operator = "regex" then safeRegexSearch runtime expected actual
  else .ok false

def evaluateExpression (runtime : Runtime) (expression context : Dict) : Except Exc Bool :=
  evaluateAgainst runtime expression (readPath context (Expression.field expression))

def matching (runtime : Runtime) (context : Dict) : List Dict → Except Exc (List Dict)
  | [] => .ok []
  | expression :: rest => do
    let matched ← evaluateExpression runtime expression context
    let others ← matching runtime context rest
    return if matched then expression :: others else others

def scopeMatches (policy : RuntimePolicy) (context : Dict) : Bool :=
  let domain := context.get "domain"
  let route := context.get "route"
  let actor := context.get "actor"
  if domain = .none ∨ route = .none ∨ actor = .none then false
  else policy.domains.any (pyEq domain) && policy.routes.any (pyEq route) && policy.actors.any (pyEq actor)

def listify : Value → List Value
  | .list items => items
  | _ => []

def listUnder (context : Dict) (outer inner : String) : List Value :=
  match context.get outer with
  | .dict members => listify (Dict.get members inner)
  | _ => []

def approvedBy (context : Dict) : List Value := listUnder context "approvals" "approved_by"

structure RequirementsEvaluation where
  requiredReviewers : List Value
  approvedBy : List Value
  minimumApprovalCount : Int
  approvedCount : Nat
  missingReviewers : List Value
  minimumApprovalMet : Bool
  requiredEvidence : List Value
  missingEvidence : List Value

def absentFrom (given : List Value) (item : Value) : Bool := !given.any (pyEq item)

def requiredEvidence (policy : RuntimePolicy) : List Value := listify (policy.requirements.get "required_evidence")
def requiredReviewers (policy : RuntimePolicy) : List Value := listify (policy.requirements.get "required_reviewers")

def minimumApprovalCount (runtime : Runtime) (policy : RuntimePolicy) : Except Exc Int :=
  toInt runtime.python (policy.requirements.getD "minimum_approval_count" (.int 0))

def evidenceAvailable (context : Dict) : List Value := listUnder context "evidence" "available"

def evaluateRequirements (runtime : Runtime) (policy : RuntimePolicy) (context : Dict) : Except Exc RequirementsEvaluation := do
  let minimumApprovalCount ← minimumApprovalCount runtime policy
  let approved := approvedBy context
  let missingEvidence ← pySorted ((requiredEvidence policy).filter (absentFrom (evidenceAvailable context)))
  let missingReviewers ← pySorted ((requiredReviewers policy).filter (absentFrom approved))
  let reviewers ← pySorted (requiredReviewers policy)
  let approvers ← pySorted approved
  let evidence ← pySorted (requiredEvidence policy)
  return { requiredReviewers := reviewers,approvedBy := approvers,minimumApprovalCount,approvedCount := approved.length,
           missingReviewers,minimumApprovalMet := decide (minimumApprovalCount ≤ approved.length),
           requiredEvidence := evidence,missingEvidence }

def precedence : Outcome → Nat
  | .allow => 0
  | .requireHumanReview => 1
  | .escalate => 2
  | .halt => 3
  | .deny => 4

def outcomes : List Outcome := [.allow,.requireHumanReview,.escalate,.halt,.deny]

-- OUTCOME_PRECEDENCE.get(outcome), as the outcome of that name
def knownOutcome (outcome : Value) : Option Outcome := outcomes.find? fun known => outcome = .str known.text

-- An outcome that is not listed there counts as deny.
def outcomeOf (outcome : Value) : Outcome := (knownOutcome outcome).getD .deny

def chooseFrom (selected : Outcome) (bestScore : Int) : List Value → Except Exc Outcome
  | [] => .ok selected
  | outcome :: rest =>
    if (keyOf outcome).isNone then .error (typeError ("unhashable type: '" ++ typeName outcome ++ "'"))
    else
      let score : Int := precedence (outcomeOf outcome)
      if bestScore < score then chooseFrom (outcomeOf outcome) score rest else chooseFrom selected bestScore rest

def chooseFinalOutcome (outcomes : List Value) : Except Exc Outcome := chooseFrom .allow (-1) outcomes

-- date.fromisoformat(text).toordinal()
def dateFromisoformat (chars : List Char) : Option Nat :=
  if chars.length = 7 ∨ chars.length = 8 ∨ chars.length = 10 then do
    let (year,month,day) ← parseDate chars
    if 1 ≤ year ∧ year ≤ 9999 ∧ 1 ≤ month ∧ month ≤ 12 ∧ 1 ≤ day ∧ day ≤ daysInMonth year month then
      some (ymd2ord year month day)
    else none
  else none

def isEffective (runtime : Runtime) (policy : RuntimePolicy) : Bool :=
  if !policy.effectiveDate.truthy then true
  else
    match policy.effectiveDate with
    | .str s => ((dateFromisoformat s.toList).map fun day => decide (day ≤ runtime.today)).getD true
    | _ => true

structure Evaluated where
  policy : RuntimePolicy
  applies : Bool
  matchedConditions : List Dict
  matchedConstraints : List Dict
  reqEval : RequirementsEvaluation

def evaluatePolicy (runtime : Runtime) (policy : RuntimePolicy) (context : Dict) : Except Exc Evaluated := do
  let applies := scopeMatches policy context
  let matchedConditions ← matching runtime context policy.conditions
  let matchedConstraints ← matching runtime context policy.constraints
  let reqEval ← evaluateRequirements runtime policy context
  return { policy,applies,matchedConditions,matchedConstraints,reqEval }

namespace Evaluated

def triggered (one : Evaluated) : Bool :=
  one.applies && (one.policy.conditions.isEmpty || one.matchedConditions.length == one.policy.conditions.length) &&
    (one.policy.constraints.isEmpty || one.matchedConstraints.length == one.policy.constraints.length)

def approvalsUnmet (one : Evaluated) : Bool := !one.reqEval.missingReviewers.isEmpty || !one.reqEval.minimumApprovalMet

def evidenceUnmet (one : Evaluated) : Bool := !one.reqEval.missingEvidence.isEmpty

def unmetRequirements (one : Evaluated) : List String :=
  (if one.evidenceUnmet then ["required_evidence"] else []) ++ (if one.approvalsUnmet then ["required_approvals"] else [])

def decision (one : Evaluated) : Value := one.policy.outcome.getD "decision" (.str "allow")

def outcomeReason (one : Evaluated) : Value := one.policy.outcome.getD "reason" (.str "")

def outcome (one : Evaluated) : Value :=
  if !one.triggered then .str "allow"
  else if one.decision ≠ .str "allow" then one.decision
  else if one.evidenceUnmet then .str "halt"
  else if one.approvalsUnmet then .str "require_human_review"
  else one.decision

def reasons (one : Evaluated) : List Value :=
  (if one.outcomeReason.truthy then one.outcomeReason else one.policy.title) :: (if one.decision ≠ .str "allow" then []
     else if one.evidenceUnmet then [.str "missing required evidence"]
     else if one.approvalsUnmet then [.str "required approvals are not satisfied"]
     else [])

def explanation (one : Evaluated) : Value :=
  if one.triggered then
    if one.outcomeReason.truthy then .str (one.policy.title.text ++ ": " ++ one.outcomeReason.text) else one.policy.title
  else if one.applies then .str "Policy applied but did not trigger conditions/constraints."
  else .str "Policy did not apply."

def approvalRequirement (one : Evaluated) : Dict :=
  [field "policy_id" one.policy.policyId,field "required_reviewers" (.list one.reqEval.requiredReviewers),
   field "minimum_approval_count" (.int one.reqEval.minimumApprovalCount),field "approved_by" (.list one.reqEval.approvedBy),
   field "missing_reviewers" (.list one.reqEval.missingReviewers),field "minimum_approval_met" (.bool one.reqEval.minimumApprovalMet)]

def evidenceGap (one : Evaluated) : Dict :=
  [field "policy_id" one.policy.policyId,field "required_evidence" (.list one.reqEval.requiredEvidence),
   field "missing_evidence" (.list one.reqEval.missingEvidence)]

def explained (one : Evaluated) : Dict :=
  [field "policy_id" one.policy.policyId,field "summary" one.explanation,field "matched_conditions" (dictList one.matchedConditions),
   field "matched_constraints" (dictList one.matchedConstraints),field "unmet_requirements" (strList one.unmetRequirements)]

def policyResult (one : Evaluated) : Dict :=
  [field "policy_id" one.policy.policyId,field "applicable" (.bool one.applies),field "triggered" (.bool one.triggered),
   field "outcome" one.outcome,field "matched_conditions" (dictList one.matchedConditions),
   field "matched_constraints" (dictList one.matchedConstraints),field "unmet_requirements" (strList one.unmetRequirements),
   field "missing_evidence" (.list one.reqEval.missingEvidence),field "approval_requirements" (.dict
     [field "required_reviewers" (.list one.reqEval.requiredReviewers),
      field "minimum_approval_count" (.int one.reqEval.minimumApprovalCount),
      field "missing_reviewers" (.list one.reqEval.missingReviewers),field "minimum_approval_met" (.bool one.reqEval.minimumApprovalMet)]),
   field "obligations" (.list one.policy.obligations),field "metadata" (.dict one.policy.metadata),field "explanation" one.explanation]

end Evaluated

structure Accumulated where
  applicable : List Value
  triggered : List Value
  reasons : List Value
  requiredActions : List Value
  obligations : List Value
  approvalRequirements : List Dict
  evidenceGaps : List Dict
  explanations : List Dict
  outcomes : List Value
  policyResults : List Dict

def nothingYet : Accumulated := ⟨[],[],[],[],[],[],[],[],[],[]⟩

def Accumulated.add (sofar : Accumulated) (one : Evaluated) : Accumulated where
  applicable := sofar.applicable ++ (if one.applies then [one.policy.policyId] else [])
  triggered := sofar.triggered ++ (if one.triggered then [one.policy.policyId] else [])
  reasons := sofar.reasons ++ (if one.triggered then one.reasons else [])
  requiredActions := sofar.requiredActions ++ (if one.triggered then one.policy.obligations else [])
  obligations := sofar.obligations ++ (if one.triggered then one.policy.obligations else [])
  approvalRequirements := sofar.approvalRequirements ++ [one.approvalRequirement]
  evidenceGaps := sofar.evidenceGaps ++ [one.evidenceGap]
  explanations := sofar.explanations ++ [one.explained]
  outcomes := sofar.outcomes ++ (if one.triggered then [one.outcome] else [])
  policyResults := sofar.policyResults ++ [one.policyResult]

def evaluateLoop (runtime : Runtime) (context : Dict) : Accumulated → List RuntimePolicy → Except Exc Accumulated
  | sofar,[] => .ok sofar
  | sofar,policy :: rest =>
    if isEffective runtime policy then do
      let one ← evaluatePolicy runtime policy context
      evaluateLoop runtime context (sofar.add one) rest
    else evaluateLoop runtime context sofar rest

def nonempty (items : List Value) : List Value := items.filter Value.truthy

def summarize (all : Accumulated) : Except Exc PolicyEvaluationResult := do
  let finalOutcome ← chooseFinalOutcome all.outcomes
  let applicablePolicies ← sortedSet all.applicable
  let triggeredPolicies ← sortedSet all.triggered
  let reasons ← sortedSet (nonempty all.reasons)
  let requiredActions ← sortedSet (nonempty all.requiredActions)
  let obligations ← sortedSet (nonempty all.obligations)
  return { applicablePolicies,triggeredPolicies,finalOutcome,reasons,requiredActions,obligations,
           approvalRequirements := all.approvalRequirements,evidenceGaps := all.evidenceGaps,
           explanations := all.explanations,policyResults := all.policyResults }

def evaluateRuntimePolicies (runtime : Runtime) (runtimeBundle : RuntimePolicyBundle) (context : Dict) :
    Except Exc PolicyEvaluationResult :=
  evaluateLoop runtime context nothingYet runtimeBundle.runtimePolicies >>= summarize

def Texts (items : List Value) : Prop := ∀ item ∈ items, ∃ s, item = .str s

variable {items : List Value} {policy : RuntimePolicy} {policies : List RuntimePolicy} {ones : List Evaluated}

theorem texts_map (texts : Texts items) : ∃ names : List String, items = names.map .str := by
  induction items with
  | nil => exact ⟨[],rfl⟩
  | cons head rest ih =>
    obtain ⟨s,rfl⟩ := texts head (by simp)
    obtain ⟨names,rfl⟩ := ih fun item listed => texts item (List.mem_cons_of_mem _ listed)
    exact ⟨s :: names,rfl⟩

def keepText (kept : List String) (name : String) : List String := if name ∈ kept then kept else kept ++ [name]

def distinct (names : List String) : List String := names.foldl keepText []

theorem added_strs (kept : List String) (name : String) : added (kept.map .str) (.str name) = (keepText kept name).map .str := by
  have found : (kept.map Value.str).any (pyEq (.str name)) = true ↔ name ∈ kept := by
    simp [List.any_map,Function.comp_def]
  by_cases listed : name ∈ kept
  · rw [added,keepText,if_pos (found.mpr listed),if_pos listed]
  · rw [added,keepText,if_neg (fun held => listed (found.mp held)),if_neg listed]
    simp

theorem foldl_added (names kept : List String) : (names.map Value.str).foldl added (kept.map .str) =
    (names.foldl keepText kept).map .str := by
  induction names generalizing kept with
  | nil => rfl
  | cons name rest ih =>
    rw [List.map_cons,List.foldl_cons,added_strs,ih,List.foldl_cons]

theorem distinct_from (names kept : List String) (alone : kept.Nodup) :
    (names.foldl keepText kept).Nodup ∧ ∀ x, x ∈ names.foldl keepText kept ↔ x ∈ kept ∨ x ∈ names := by
  induction names generalizing kept with
  | nil => simp [alone]
  | cons name rest ih =>
    rw [List.foldl_cons]
    by_cases listed : name ∈ kept
    · obtain ⟨single,members⟩ := ih kept alone
      rw [keepText,if_pos listed]
      refine ⟨single,fun x => ?_⟩
      rw [members x,List.mem_cons]
      constructor
      · rintro (old | later)
        · exact .inl old
        · exact .inr (.inr later)
      · rintro (old | rfl | later)
        · exact .inl old
        · exact .inl listed
        · exact .inr later
    · obtain ⟨single,members⟩ := ih (kept ++ [name]) (List.nodup_append.mpr ⟨alone,by simp,by
        intro a held b last same
        obtain rfl := List.mem_singleton.mp last
        exact listed (same ▸ held)⟩)
      rw [keepText,if_neg listed]
      refine ⟨single,fun x => ?_⟩
      rw [members x,List.mem_append,List.mem_singleton,List.mem_cons,or_assoc]

theorem distinct_nodup (names : List String) : (distinct names).Nodup := (distinct_from names [] .nil).1

theorem mem_distinct (names : List String) (x : String) : x ∈ distinct names ↔ x ∈ names := by
  rw [distinct,(distinct_from names [] .nil).2]
  simp

def orderedTexts (names : List String) : List String := (distinct names).insertionSort fun a b => textLe a b = true

theorem orderedTexts_same (same : ∀ x, x ∈ xs ↔ x ∈ ys) : orderedTexts xs = orderedTexts ys :=
  KeyOrder.sort_members _ (distinct_nodup xs) (distinct_nodup ys) fun x => by rw [mem_distinct,mem_distinct,same]

theorem pySorted_strs (names : List String) :
    pySorted (names.map .str) = .ok ((names.insertionSort fun a b => textLe a b = true).map .str) := by
  have told : (names.map Value.str).Pairwise fun a b => comparable a b = true :=
    List.pairwise_map.mpr (List.pairwise_of_forall fun _ _ => rfl)
  rw [pySorted,if_pos told]
  exact congrArg Except.ok (List.map_insertionSort _ _ Value.str names fun a _ b _ => by simp [valueLt]).symm

theorem sortedSet_strs (names : List String) : sortedSet (names.map .str) = .ok ((orderedTexts names).map .str) := by
  have hashed : (names.map Value.str).all (fun item => (keyOf item).isSome) = true := by simp [keyOf]
  rw [sortedSet,setOf,if_pos hashed]
  have kept := foldl_added names []
  rw [List.map_nil] at kept
  rw [kept]
  exact pySorted_strs (distinct names)

theorem sortedSet_texts (texts : Texts items) : ∃ names : List String, items = names.map .str ∧
    sortedSet items = .ok ((orderedTexts names).map .str) := by
  obtain ⟨names,rfl⟩ := texts_map texts
  exact ⟨names,rfl,sortedSet_strs names⟩

theorem sortedSet_same (texts : Texts xs) (same : ∀ x, x ∈ xs ↔ x ∈ ys) : sortedSet xs = sortedSet ys := by
  obtain ⟨first,rfl⟩ := texts_map texts
  obtain ⟨second,rfl⟩ := texts_map fun item listed => texts item ((same item).mpr listed)
  rw [sortedSet_strs,sortedSet_strs,orderedTexts_same fun x => by simpa using same (.str x)]

def strictness (outcome : Value) : Nat := precedence (outcomeOf outcome)

def strictest (outcomes : List Value) : Nat := (outcomes.map strictness).foldr max 0

theorem strictest_cons (outcome : Value) (rest : List Value) : strictest (outcome :: rest) = max (strictness outcome) (strictest rest) := rfl

theorem strictest_le {outcomes : List Value} {n : Nat} : strictest outcomes ≤ n ↔ ∀ outcome ∈ outcomes, strictness outcome ≤ n := by
  induction outcomes with
  | nil => simp [strictest]
  | cons head rest ih => rw [strictest_cons,max_le_iff,ih,List.forall_mem_cons]

theorem precedence_injective : Function.Injective precedence := by
  intro a b same
  cases a <;> cases b <;> first | rfl | cases same

-- The running choice is the strictest outcome so far; at the start nothing was chosen yet.
theorem chooseFrom_ok {rest : List Value} {selected final : Outcome} {bestScore : Int}
    (start : bestScore = precedence selected ∨ bestScore < 0 ∧ selected = .allow) : chooseFrom selected bestScore rest = .ok final ↔
    (∀ outcome ∈ rest, (keyOf outcome).isSome = true) ∧ precedence final = max (precedence selected) (strictest rest) := by
  induction rest generalizing selected bestScore with
  | nil =>
    rw [chooseFrom,Except.ok.injEq,strictest,List.map_nil,List.foldr_nil,Nat.max_zero]
    constructor
    · rintro rfl
      simp
    · rintro ⟨-,same⟩
      exact (precedence_injective same).symm
  | cons outcome rest ih =>
    rw [chooseFrom,List.forall_mem_cons,strictest_cons]
    cases hashed : keyOf outcome with
    | none => simp
    | some key =>
      simp only [Option.isNone_some,Bool.false_eq_true,if_false,Option.isSome_some,true_and]
      by_cases better : bestScore < (precedence (outcomeOf outcome) : Int)
      · rw [if_pos better,ih (.inl rfl)]
        have above : precedence selected ≤ strictness outcome := by
          obtain rfl | ⟨-,rfl⟩ := start
          · exact Int.ofNat_le.mp (Int.le_of_lt better)
          · exact Nat.zero_le _
        rw [← max_assoc,max_eq_right above]
        rfl
      · have below : strictness outcome ≤ precedence selected := by
          obtain rfl | ⟨unset,-⟩ := start
          · exact Int.ofNat_le.mp (Int.not_lt.mp better)
          · exact absurd (Int.lt_of_lt_of_le unset (Int.natCast_nonneg _)) better
        rw [if_neg better,ih start,← max_assoc,max_eq_left below]

theorem chooseFinalOutcome_ok {outcomes : List Value} {final : Outcome} : chooseFinalOutcome outcomes = .ok final ↔
    (∀ outcome ∈ outcomes, (keyOf outcome).isSome = true) ∧ precedence final = strictest outcomes := by
  rw [chooseFinalOutcome,chooseFrom_ok (.inr ⟨by decide,rfl⟩),precedence,Nat.zero_max]

variable {runtime : Runtime} {context : Dict}

theorem pySorted_perm (made : pySorted items = .ok sorted) : sorted.Perm items := by
  unfold pySorted at made
  split at made
  · cases made
    exact List.perm_insertionSort _ items
  · cases made

structure Requires (runtime : Runtime) (policy : RuntimePolicy) (context : Dict) (req : RequirementsEvaluation) : Prop where
  minimum : minimumApprovalCount runtime policy = .ok req.minimumApprovalCount
  missingEvidence : pySorted ((requiredEvidence policy).filter (absentFrom (evidenceAvailable context))) = .ok req.missingEvidence
  missingReviewers : pySorted ((requiredReviewers policy).filter (absentFrom (approvedBy context))) = .ok req.missingReviewers
  reviewers : pySorted (requiredReviewers policy) = .ok req.requiredReviewers
  approvers : pySorted (approvedBy context) = .ok req.approvedBy
  evidence : pySorted (requiredEvidence policy) = .ok req.requiredEvidence
  count : req.approvedCount = (approvedBy context).length
  met : req.minimumApprovalMet = decide (req.minimumApprovalCount ≤ (approvedBy context).length)

theorem evaluateRequirements_ok : evaluateRequirements runtime policy context = .ok req ↔ Requires runtime policy context req := by
  simp only [evaluateRequirements,bind_ok]
  constructor
  · rintro ⟨minimum,hm,evidence,he,reviewers,hr,allReviewers,ha,approvers,hp,allEvidence,hq,made⟩
    cases made
    exact ⟨hm,he,hr,ha,hp,hq,rfl,rfl⟩
  · rintro ⟨hm,he,hr,ha,hp,hq,count,met⟩
    refine ⟨_,hm,_,he,_,hr,_,ha,_,hp,_,hq,?_⟩
    rw [← met,← count]
    rfl

structure Evaluates (runtime : Runtime) (context : Dict) (policy : RuntimePolicy) (one : Evaluated) : Prop where
  about : one.policy = policy
  applies : one.applies = scopeMatches policy context
  conditions : matching runtime context policy.conditions = .ok one.matchedConditions
  constraints : matching runtime context policy.constraints = .ok one.matchedConstraints
  requirements : evaluateRequirements runtime policy context = .ok one.reqEval

theorem evaluatePolicy_ok {one : Evaluated} : evaluatePolicy runtime policy context = .ok one ↔ Evaluates runtime context policy one := by
  simp only [evaluatePolicy,bind_ok]
  constructor
  · rintro ⟨conditions,hc,constraints,hk,req,hr,made⟩
    cases made
    exact ⟨rfl,rfl,hc,hk,hr⟩
  · rintro ⟨rfl,applies,hc,hk,hr⟩
    refine ⟨_,hc,_,hk,_,hr,?_⟩
    rw [← applies]
    rfl

def Evaluations (runtime : Runtime) (context : Dict) (policies : List RuntimePolicy) (ones : List Evaluated) : Prop :=
  (policies.filter (isEffective runtime)).map (fun policy => evaluatePolicy runtime policy context) = ones.map .ok

theorem evaluateLoop_ok : evaluateLoop runtime context sofar policies = .ok all ↔
    ∃ ones, Evaluations runtime context policies ones ∧ all = ones.foldl Accumulated.add sofar := by
  induction policies generalizing sofar with
  | nil =>
    simp only [evaluateLoop,Evaluations,List.filter_nil,List.map_nil,Except.ok.injEq]
    constructor
    · rintro rfl
      exact ⟨[],rfl,rfl⟩
    · rintro ⟨ones,none,rfl⟩
      rw [List.map_eq_nil_iff.mp none.symm]
      rfl
  | cons policy rest ih =>
    unfold evaluateLoop Evaluations
    by_cases active : isEffective runtime policy = true
    · simp only [active,if_true,List.filter_cons_of_pos,List.map_cons]
      rw [bind_ok]
      constructor
      · rintro ⟨one,evaluated,later⟩
        obtain ⟨ones,others,rfl⟩ := ih.mp later
        exact ⟨one :: ones,by rw [evaluated,others,List.map_cons],rfl⟩
      · rintro ⟨ones,evaluated,rfl⟩
        obtain ⟨one,others,rfl,first,later⟩ := List.map_eq_cons_iff.mp evaluated.symm
        exact ⟨one,first.symm,ih.mpr ⟨others,later.symm,rfl⟩⟩
    · simp only [active,Bool.false_eq_true,if_false,List.filter_cons_of_neg,not_false_eq_true]
      exact ih

theorem mem_evaluations (evaluated : Evaluations runtime context policies ones) {one : Evaluated} (listed : one ∈ ones) :
    ∃ policy ∈ policies, isEffective runtime policy = true ∧ Evaluates runtime context policy one := by
  have shown : (.ok one : Except Exc Evaluated) ∈ ones.map Except.ok := List.mem_map_of_mem listed
  rw [← evaluated] at shown
  obtain ⟨policy,inForce,done⟩ := List.mem_map.mp shown
  obtain ⟨member,active⟩ := List.mem_filter.mp inForce
  exact ⟨policy,member,active,evaluatePolicy_ok.mp done⟩

theorem evaluations_mem (evaluated : Evaluations runtime context policies ones) (member : policy ∈ policies)
    (active : isEffective runtime policy = true) : ∃ one ∈ ones, Evaluates runtime context policy one := by
  have shown := List.mem_map_of_mem (f := fun policy => evaluatePolicy runtime policy context) (List.mem_filter.mpr ⟨member,active⟩)
  rw [evaluated] at shown
  obtain ⟨one,listed,done⟩ := List.mem_map.mp shown
  exact ⟨one,listed,evaluatePolicy_ok.mp done.symm⟩

theorem evaluations_append : Evaluations runtime context (first ++ second) ones ↔
    ∃ early late, ones = early ++ late ∧ Evaluations runtime context first early ∧ Evaluations runtime context second late := by
  rw [Evaluations,List.filter_append,List.map_append]
  constructor
  · intro evaluated
    obtain ⟨early,late,rfl,he,hl⟩ := List.map_eq_append_iff.mp evaluated.symm
    exact ⟨early,late,rfl,he.symm,hl.symm⟩
  · rintro ⟨early,late,rfl,he,hl⟩
    rw [List.map_append,← he,← hl]

def collected (ones : List Evaluated) : Accumulated := ones.foldl Accumulated.add nothingYet

theorem foldl_collects {β : Type} (part : Accumulated → List β) (adds : Evaluated → List β)
    (step : ∀ sofar one, part (sofar.add one) = part sofar ++ adds one) (ones : List Evaluated) (sofar : Accumulated) :
    part (ones.foldl Accumulated.add sofar) = part sofar ++ ones.flatMap adds := by
  induction ones generalizing sofar with
  | nil => simp
  | cons one rest ih => rw [List.foldl_cons,ih,step,List.append_assoc,List.flatMap_cons]

theorem collected_applicable (ones : List Evaluated) : (collected ones).applicable =
    ones.flatMap fun one => if one.applies then [one.policy.policyId] else [] := foldl_collects _ _ (fun _ _ => rfl) ones nothingYet

theorem collected_triggered (ones : List Evaluated) : (collected ones).triggered =
    ones.flatMap fun one => if one.triggered then [one.policy.policyId] else [] := foldl_collects _ _ (fun _ _ => rfl) ones nothingYet

theorem collected_reasons (ones : List Evaluated) : (collected ones).reasons =
    ones.flatMap fun one => if one.triggered then one.reasons else [] := foldl_collects _ _ (fun _ _ => rfl) ones nothingYet

theorem collected_requiredActions (ones : List Evaluated) : (collected ones).requiredActions =
    ones.flatMap fun one => if one.triggered then one.policy.obligations else [] := foldl_collects _ _ (fun _ _ => rfl) ones nothingYet

theorem collected_obligations (ones : List Evaluated) : (collected ones).obligations =
    ones.flatMap fun one => if one.triggered then one.policy.obligations else [] := foldl_collects _ _ (fun _ _ => rfl) ones nothingYet

theorem collected_outcomes (ones : List Evaluated) : (collected ones).outcomes =
    ones.flatMap fun one => if one.triggered then [one.outcome] else [] := foldl_collects _ _ (fun _ _ => rfl) ones nothingYet

theorem collected_policyResults (ones : List Evaluated) : (collected ones).policyResults = ones.map Evaluated.policyResult := by
  rw [collected,foldl_collects Accumulated.policyResults (fun one => [one.policyResult]) (fun _ _ => rfl)]
  exact List.map_eq_flatMap.symm

theorem evaluation_ok : evaluateRuntimePolicies runtime bundle context = .ok result ↔
    ∃ ones, Evaluations runtime context bundle.runtimePolicies ones ∧ summarize (collected ones) = .ok result := by
  rw [evaluateRuntimePolicies,bind_ok]
  constructor
  · rintro ⟨all,looped,summarized⟩
    obtain ⟨ones,evaluated,rfl⟩ := evaluateLoop_ok.mp looped
    exact ⟨ones,evaluated,summarized⟩
  · rintro ⟨ones,evaluated,summarized⟩
    exact ⟨collected ones,evaluateLoop_ok.mpr ⟨ones,evaluated,rfl⟩,summarized⟩

structure Summarizes (all : Accumulated) (result : PolicyEvaluationResult) : Prop where
  finalOutcome : chooseFinalOutcome all.outcomes = .ok result.finalOutcome
  applicablePolicies : sortedSet all.applicable = .ok result.applicablePolicies
  triggeredPolicies : sortedSet all.triggered = .ok result.triggeredPolicies
  reasons : sortedSet (nonempty all.reasons) = .ok result.reasons
  requiredActions : sortedSet (nonempty all.requiredActions) = .ok result.requiredActions
  obligations : sortedSet (nonempty all.obligations) = .ok result.obligations
  approvalRequirements : result.approvalRequirements = all.approvalRequirements
  evidenceGaps : result.evidenceGaps = all.evidenceGaps
  explanations : result.explanations = all.explanations
  policyResults : result.policyResults = all.policyResults

theorem summarize_ok : summarize all = .ok result ↔ Summarizes all result := by
  simp only [summarize,bind_ok]
  constructor
  · rintro ⟨outcome,chosen,applicable,ha,triggered,ht,reasons,hr,actions,hq,obligations,ho,made⟩
    cases made
    exact ⟨chosen,ha,ht,hr,hq,ho,rfl,rfl,rfl,rfl⟩
  · rintro ⟨chosen,ha,ht,hr,hq,ho,approvals,gaps,explained,results⟩
    obtain ⟨_,_,_,_,_,_,_,_,_,_⟩ := result
    cases approvals
    cases gaps
    cases explained
    cases results
    exact ⟨_,chosen,_,ha,_,ht,_,hr,_,hq,_,ho,rfl⟩

def sampleRuntime : Runtime where
  python := WatVerifier.samplePython
  roundInt n := if n = 0 then zero else one
  parseFloat _ := none
  compileRegex _ := .pattern fun target => some (target != "")
  today := 738000

def samplePolicy (policyId decision : String) (conditions : List Dict) (requirements : Dict) : RuntimePolicy where
  policyId := .str policyId
  version := .str "1"
  title := .str "Transfers"
  description := .str "Transfers of the treasury"
  effectiveDate := .none
  domains := [.str "payments"]
  routes := [.str "/transfer"]
  actors := [.str "agent"]
  conditions := conditions
  constraints := []
  requirements := requirements
  outcome := [field "decision" (.str decision),field "reason" (.str "")]
  obligations := [.str "notify"]
  testVectors := []
  metadata := []
  sourceRefs := []

def sampleBundle (policies : List RuntimePolicy) : RuntimePolicyBundle where
  schemaVersion := "0.1"
  policyId := .str "policy.transfer"
  version := .str "1"
  semanticHash := "00"
  compilerVersion := "0.1.0"
  compiledAt := "2026-01-01T00:00:00Z"
  runtimePolicies := policies
  manifest := []

def sampleRequest : Dict := [field "domain" (.str "payments"),field "route" (.str "/transfer"),field "actor" (.str "agent")]

end VeritasOs.PolicyEvaluator
