import Mathlib.Data.List.ReduceOption
import VeritasOs.Scores
import VeritasOs.WatVerifier

namespace VeritasOs.FujiPolicy
open Text JsonText BindArtifacts PolicyBundle
open WatVerifier (Python toInt)

-- Python's int(), the float() of a text, and f"{x:.3f}".
structure Reading (K : Type) where
  python : Python
  float : String → Option (Score K)
  fixed : Nat → Score K → String

section Numbers
variable {K : Type} [Field K]

def numberScore : Number → Score K
  | .finite mantissa exponent =>
    .finite (if 0 ≤ exponent then (mantissa : K) * 10 ^ exponent.toNat else (mantissa : K) / 10 ^ (-exponent).toNat)
  | .infinity negative => .infinity negative

def floatScore (x : FloatValue) : Score K := ((floatNumber x).map numberScore).getD .nan

-- From here on an int is too large for a float.
def floatOverflow : Nat := 2 ^ 1024 - 2 ^ 970

def toFloat (reading : Reading K) : Value → Except Exc (Score K)
  | .bool b => .ok (.finite (if b then 1 else 0))
  | .int n => if n.natAbs < floatOverflow then .ok (.finite n) else .error ⟨.overflowError,"int too large to convert to float"⟩
  | .float x => .ok (floatScore x)
  | .str s =>
    match reading.float s with
    | some x => .ok x
    | none => .error (valueError ("could not convert string to float: " ++ quoteStr s))
  | other => .error (typeError ("float() argument must be a string or a real number, not '" ++ typeName other ++ "'"))

def safeFloat (reading : Reading K) (x : Value) (default : K) : K :=
  match toFloat reading x with
  | .ok (.finite value) => value
  | _ => default

end Numbers

theorem float_sevenTenths : isFloatText "0.7".toList = true := by decide
theorem float_sixtyFive : isFloatText "0.65".toList = true := by decide
theorem float_eightyFive : isFloatText "0.85".toList = true := by decide
theorem float_thirtyFive : isFloatText "0.35".toList = true := by decide
theorem float_fifteen : isFloatText "0.15".toList = true := by decide
theorem float_twentieth : isFloatText "0.05".toList = true := by decide

def zero : Value := .float (.finite ⟨"0.0",float_zero⟩)
def one : Value := .float (.finite ⟨"1.0",float_one⟩)

def categoryRule (maxRiskAllow : Value) (actionOnExceed : String) : Value :=
  .dict [field "max_risk_allow" maxRiskAllow,field "action_on_exceed" (.str actionOnExceed)]

def actionRule (riskUpper : Value) : Value := .dict [field "risk_upper" riskUpper]

def thresholds (default high low : Value) : Value :=
  .dict [field "default" default,field "high_stakes" high,field "low_stakes" low]

def tenth (text : String) (valid : isFloatText text.toList = true) : Value := .float (.finite ⟨text,valid⟩)

def defaultPolicy : Dict :=
  [field "version" (.str "fuji_v2_default"),
   field "base_thresholds" (thresholds (tenth "0.5" float_half) (tenth "0.35" float_thirtyFive) (tenth "0.7" float_sevenTenths)),
   field "categories" (.dict [field "PII" (categoryRule (tenth "0.2" float_two_tenths) "human_review"),
     field "self_harm" (categoryRule (tenth "0.05" float_twentieth) "deny"),
     field "illicit" (categoryRule (tenth "0.1" float_tenth) "deny"),
     field "violence" (categoryRule (tenth "0.2" float_two_tenths) "human_review"),
     field "minors" (categoryRule (tenth "0.15" float_fifteen) "human_review"),
     field "safety_head_error" (categoryRule zero "human_review")]),field "actions" (.dict [
     field "allow" (actionRule (tenth "0.4" float_four_tenths)),field "warn" (actionRule (tenth "0.65" float_sixtyFive)),
     field "human_review" (actionRule (tenth "0.85" float_eightyFive)),field "deny" (actionRule one)])]

def strictDenyPolicy : Dict :=
  [field "version" (.str "fuji_v2_strict_deny"),field "base_thresholds" (thresholds zero zero zero),
   field "categories" (.dict []),field "actions" (.dict [field "deny" (actionRule one)])]

theorem toFloat_decimal {K : Type} [Field K] (reading : Reading K)
    (mantissa : Int) (places : Nat) (value : floatNumber (.finite ⟨text,valid⟩) = some (.finite mantissa (Int.negSucc places))) :
    toFloat reading (tenth text valid) = .ok (.finite ((mantissa : K) / 10 ^ (places + 1))) := by
  unfold tenth toFloat floatScore
  simp only [value,Option.map_some,Option.getD_some,numberScore]
  rw [if_neg (by omega)]
  rfl

-- What the loader finds of its surroundings: the capability flag with the YAML library, and the strict mode.
structure Loader where
  yaml : Option (String → Except Exc Value)
  strictMode : Bool

def strictPolicyLoadEnabled (env : String → Option String) : Bool :=
  ["1","true","yes","on"].contains (lower (strip ((env "VERITAS_FUJI_STRICT_POLICY_LOAD").getD "0")))

def fallbackPolicy (loader : Loader) : Dict := if loader.strictMode then strictDenyPolicy else defaultPolicy

-- A document that is no mapping passes where it holds the text "version" and raises everywhere else.
def withVersion (fileName : String) : Value → Except Exc Value
  | .dict data => .ok (.dict (if Dict.has data "version" then data else Dict.set data "version" (.str ("fuji_file_" ++ fileName))))
  | .list items =>
    if items.any (pyEq · (.str "version")) then .ok (.list items)
    else .error (typeError "list indices must be integers or slices, not str")
  | .str text =>
    if hasSub "version" text then .ok (.str text)
    else .error (typeError "'str' object does not support item assignment")
  | other => .error (typeError ("argument of type '" ++ typeName other ++ "' is not iterable"))

def loadPolicyFromStr (loader : Loader) (content fileName : String) : Except Exc Value :=
  match loader.yaml with
  | none => .ok (.dict defaultPolicy)
  | some safeLoad =>
    match safeLoad content with
    | .error _ => .ok (.dict (fallbackPolicy loader))
    | .ok data => withVersion fileName (if data.truthy then data else .dict [])

def loadPolicy (loader : Loader) (content : Option String) (fileName : String) : Except Exc Value :=
  match loader.yaml,content with
  | none,_ => .ok (.dict defaultPolicy)
  | some _,none => .ok (.dict (fallbackPolicy loader))
  | some _,some text => loadPolicyFromStr loader text fileName

inductive Action where
  | allow | warn | humanReview | deny
deriving DecidableEq

def Action.text : Action → String
  | .allow => "allow"
  | .warn => "warn"
  | .humanReview => "human_review"
  | .deny => "deny"

def Action.named : String → Option Action
  | "allow" => some .allow
  | "warn" => some .warn
  | "human_review" => some .humanReview
  | "deny" => some .deny
  | _ => none

inductive InternalStatus where
  | allow | allowWithWarning | needsHumanReview | deny
deriving DecidableEq

def InternalStatus.text : InternalStatus → String
  | .allow => "allow"
  | .allowWithWarning => "allow_with_warning"
  | .needsHumanReview => "needs_human_review"
  | .deny => "deny"

inductive DecisionStatus where
  | allow | hold | deny
deriving DecidableEq

def DecisionStatus.text : DecisionStatus → String
  | .allow => "allow"
  | .hold => "hold"
  | .deny => "deny"

def DecisionStatus.severity : DecisionStatus → Nat
  | .allow => 0
  | .hold => 1
  | .deny => 2

-- precedence[action], each read from the policy or set to its default.
structure Precedence where
  deny : Int
  humanReview : Int
  warn : Int
  allow : Int
deriving DecidableEq

def Precedence.rank (precedence : Precedence) : Action → Int
  | .allow => precedence.allow
  | .warn => precedence.warn
  | .humanReview => precedence.humanReview
  | .deny => precedence.deny

def defaultPrecedence : Precedence := ⟨3,2,1,0⟩

structure ViolationDetail (K : Type) where
  category : String
  maxRiskAllow : Score K
  actionOnExceed : Value

structure Rung (K : Type) where
  action : Key
  limit : K

structure PolicyResult (K : Type) where
  policyAction : Key
  status : InternalStatus
  decisionStatus : DecisionStatus
  reasons : List String
  violations : List String
  violationDetails : List (ViolationDetail K)
  risk : K
  policyVersion : Value

def mapping (called : String) (value : Value) : Except Exc Dict :=
  if value.truthy then
    match value with
    | .dict members => .ok members
    | other => .error (attributeError ("'" ++ typeName other ++ "' object has no attribute '" ++ called ++ "'"))
  else .ok []

def section_ (policy : Dict) (name : String) : Except Exc Dict := mapping "get" (policy.get name)

def excessAction (stated : Value) : Action := (Action.named stated.text).getD .deny

def wrongNumber (error : Exc) : Bool := error.kind = .typeError || error.kind = .valueError

section Apply
variable {K : Type} [Field K] [LinearOrder K] (reading : Reading K) (policy : Dict)

def baseThreshold (stakes : Score K) : Except Exc K := do
  let overrides ← section_ policy "overrides"
  let high ← section_ overrides "high_stakes"
  let low ← section_ overrides "low_stakes"
  let base ← section_ policy "base_thresholds"
  let highStakesGte := safeFloat reading (high.get "when_stakes_gte") (7 / 10)
  let lowStakesLte := safeFloat reading (low.get "when_stakes_lte") (3 / 10)
  let default := base.getD "default" (tenth "0.5" float_half)
  if (Score.finite highStakesGte).atMost stakes then return safeFloat reading (base.getD "high_stakes" default) (1 / 2)
  else if stakes.atMost (.finite lowStakesLte) then return safeFloat reading (base.getD "low_stakes" default) (1 / 2)
  else return safeFloat reading default (1 / 2)

-- A limit that is no number is passed over.
def categoryViolation (risk : K) (category : String) : Except Exc (Option (ViolationDetail K)) := do
  let categories ← section_ policy "categories"
  let cfg ← mapping "get" (categories.get category)
  match cfg.get "max_risk_allow" with
  | .none => return none
  | maxAllow =>
    match toFloat reading maxAllow with
    | .error error => if wrongNumber error then return none else .error error
    | .ok limit =>
      if limit.less (.finite risk) then return some ⟨category,limit,cfg.getD "action_on_exceed" (.str "human_review")⟩
      else return none

def violationDetails (risk : K) (categories : List String) : Except Exc (List (ViolationDetail K)) := do
  let found ← categories.mapM (categoryViolation reading policy risk)
  return found.reduceOption

def precedenceOf (action : Action) : Except Exc Int := do
  let configured ← section_ policy "action_precedence"
  match toInt reading.python (configured.getD action.text (.int (defaultPrecedence.rank action))) with
  | .ok rank => return rank
  | .error error => if wrongNumber error then return defaultPrecedence.rank action else .error error

def actionPrecedence : Except Exc Precedence := do
  let deny ← precedenceOf reading policy .deny
  let humanReview ← precedenceOf reading policy .humanReview
  let warn ← precedenceOf reading policy .warn
  let allow ← precedenceOf reading policy .allow
  return ⟨deny,humanReview,warn,allow⟩

def ViolationDetail.action (detail : ViolationDetail K) : Action := excessAction detail.actionOnExceed

def worstAction (precedence : Precedence) (details : List (ViolationDetail K)) : Action :=
  details.foldl (fun best detail => if precedence.rank best < precedence.rank detail.action then detail.action else best) .allow

-- A limit that is not finite counts as 1.0.
def riskUpper (conf : Dict) : Except Exc K := do
  match ← toFloat reading (conf.getD "risk_upper" one) with
  | .finite upper => return upper
  | _ => return 1

def rungOf (entry : Key × Value) : Except Exc (Rung K) :=
  match entry.2 with
  | .dict conf => do
    let limit ← riskUpper reading conf
    return ⟨entry.1,limit⟩
  | other => .error (attributeError ("'" ++ typeName other ++ "' object has no attribute 'get'"))

def actionLadder : Except Exc (List (Rung K)) := do
  let actions ← mapping "items" (policy.get "actions")
  let rungs ← actions.mapM (rungOf reading)
  return rungs.insertionSort fun a b => a.limit ≤ b.limit

-- The lowest rung that covers the risk; the action stays allow where none does.
def ladderAction (risk : K) (ladder : List (Rung K)) : Key :=
  ((ladder.find? fun rung => decide (risk ≤ rung.limit)).map Rung.action).getD (.str "allow")

def finalAction (precedence : Precedence) (risk : K) (details : List (ViolationDetail K)) : Except Exc Key :=
  if details.isEmpty then do
    let ladder ← actionLadder reading policy
    return ladderAction risk ladder
  else .ok (.str (worstAction precedence details).text)

def statusOf (action : Key) : InternalStatus × DecisionStatus :=
  if action = .str "allow" then (.allow,.allow)
  else if action = .str "warn" then (.allowWithWarning,.hold)
  else if action = .str "human_review" then (.needsHumanReview,.hold)
  else (.deny,.deny)

def sortedCategories (details : List (ViolationDetail K)) : List String :=
  (details.map ViolationDetail.category).dedup.insertionSort fun a b => textLe a b = true

def policyReasons (action : Key) (risk : K) (stakes : Score K) (threshold : K) (details : List (ViolationDetail K)) : List String :=
  ("policy_action=" ++ (keyValue action).text ++ ",risk=" ++ reading.fixed 3 (.finite risk) ++ ",stakes=" ++ reading.fixed 2 stakes ++
    ",base_thr=" ++ reading.fixed 2 (.finite threshold)) ::
    if details.isEmpty then [] else ["category_violations=" ++ ",".intercalate (sortedCategories details)]

def applyPolicy (risk : K) (categories : List String) (stakes : Score K) : Except Exc (PolicyResult K) := do
  let threshold ← baseThreshold reading policy stakes
  let details ← violationDetails reading policy risk categories
  let precedence ← actionPrecedence reading policy
  let action ← finalAction reading policy precedence risk details
  return {
    policyAction := action
    status := (statusOf action).1
    decisionStatus := (statusOf action).2
    reasons := policyReasons reading action risk stakes threshold details
    violations := sortedCategories details
    violationDetails := details
    risk
    policyVersion := policy.getD "version" (.str "fuji_v2_unknown") }

end Apply

section Rules
variable {K : Type} [Field K] [LinearOrder K] (reading : Reading K) (policy : Dict)

def Exceeds (risk : K) (category : String) (action : Value) : Prop :=
  ∃ categories cfg limit, section_ policy "categories" = .ok categories ∧ mapping "get" (Dict.get categories category) = .ok cfg ∧
    toFloat reading (Dict.get cfg "max_risk_allow") = .ok limit ∧ limit.less (.finite risk) = true ∧
    action = Dict.getD cfg "action_on_exceed" (.str "human_review")

def Calm (risk : K) (categories : List String) : Prop :=
  ∀ category ∈ categories, ∀ action, ¬Exceeds reading policy risk category action

-- The rung that decides on a risk lies above those that do not cover it.
def Decides (risk : K) (rung : Rung K) : Prop :=
  ∃ below above, actionLadder reading policy = .ok (below ++ rung :: above) ∧ (∀ other ∈ below, other.limit < risk) ∧ risk ≤ rung.limit

def Uncovered (risk : K) : Prop :=
  ∃ ladder, actionLadder reading policy = .ok ladder ∧ ∀ rung ∈ ladder, rung.limit < risk

end Rules

theorem mapM_parts {f : α → Except Exc β} {items : List α} {results : List β} (done : items.mapM f = .ok results) :
    List.Forall₂ (fun item result => f item = .ok result) items results := by
  induction items generalizing results with
  | nil =>
    cases done
    exact .nil
  | cons item rest ih =>
    rw [List.mapM_cons] at done
    obtain ⟨first,here,done⟩ := bind_ok.mp done
    obtain ⟨others,later,made⟩ := bind_ok.mp done
    cases made
    exact .cons here (ih later)

section Parts
variable {K : Type} [Field K] [LinearOrder K] {reading : Reading K} {policy : Dict}

variable {risk : K}

theorem exceeds_raise (exceeded : Exceeds reading policy risk category action)
    (raised : risk ≤ higher) : Exceeds reading policy higher category action := by
  obtain ⟨categories,cfg,limit,listed,entry,read,under,stated⟩ := exceeded
  exact ⟨categories,cfg,limit,listed,entry,read,Score.less_raise under raised,stated⟩

theorem categoryViolation_exceeds (checked : categoryViolation reading policy risk category = .ok found) (action : Value) :
    Exceeds reading policy risk category action ↔ ∃ detail, found = some detail ∧ detail.actionOnExceed = action := by
  unfold categoryViolation at checked
  obtain ⟨categories,listed,checked⟩ := bind_ok.mp checked
  obtain ⟨cfg,entry,checked⟩ := bind_ok.mp checked
  have here : Exceeds reading policy risk category action ↔ ∃ limit, toFloat reading (cfg.get "max_risk_allow") = .ok limit ∧
      limit.less (.finite risk) = true ∧ action = cfg.getD "action_on_exceed" (.str "human_review") := by
    constructor
    · rintro ⟨categories',cfg',limit,listed',entry',read,under,stated⟩
      rw [listed] at listed'
      cases listed'
      rw [entry] at entry'
      cases entry'
      exact ⟨limit,read,under,stated⟩
    · rintro ⟨limit,read,under,stated⟩
      exact ⟨categories,cfg,limit,listed,entry,read,under,stated⟩
  rw [here]
  split at checked
  · rename_i missing
    cases checked
    rw [missing]
    constructor
    · rintro ⟨limit,read,_⟩
      cases read
    · rintro ⟨detail,none,_⟩
      cases none
  · split at checked
    · rename_i error failed
      rw [failed]
      split at checked <;> cases checked
      constructor
      · rintro ⟨limit,read,_⟩
        cases read
      · rintro ⟨detail,none,_⟩
        cases none
    · rename_i limit read
      rw [read]
      split at checked
      · rename_i under
        cases checked
        constructor
        · rintro ⟨_,same,_,stated⟩
          exact ⟨_,rfl,stated.symm⟩
        · rintro ⟨detail,same,stated⟩
          cases same
          exact ⟨limit,rfl,under,stated.symm⟩
      · rename_i within
        cases checked
        constructor
        · rintro ⟨_,same,under,_⟩
          cases same
          exact absurd under within
        · rintro ⟨detail,none,_⟩
          cases none

theorem violationDetails_exceeds {categories : List String} {details : List (ViolationDetail K)}
    (checked : violationDetails reading policy risk categories = .ok details) (action : Value) :
    (∃ detail ∈ details, detail.actionOnExceed = action) ↔ ∃ category ∈ categories, Exceeds reading policy risk category action := by
  unfold violationDetails at checked
  obtain ⟨found,mapped,made⟩ := bind_ok.mp checked
  cases made
  have parts := mapM_parts mapped
  clear mapped checked
  induction parts with
  | nil => simp
  | @cons category result rest results here _ ih =>
    have first := categoryViolation_exceeds here action
    cases result with
    | none => simp_all
    | some detail => simp_all

theorem details_calm (checked : violationDetails reading policy risk categories = .ok details) :
    details = [] ↔ Calm reading policy risk categories := by
  constructor
  · intro none category listed action exceeded
    obtain ⟨detail,member,_⟩ := (violationDetails_exceeds checked action).mpr ⟨category,listed,exceeded⟩
    rw [none] at member
    cases member
  · intro calm
    apply List.eq_nil_iff_forall_not_mem.mpr
    intro detail member
    obtain ⟨category,listed,exceeded⟩ := (violationDetails_exceeds checked _).mp ⟨detail,member,rfl⟩
    exact calm category listed _ exceeded

end Parts

theorem worst_fold (precedence : Precedence) (details : List (ViolationDetail K)) (start : Action) :
    let worst := details.foldl (fun best detail => if precedence.rank best < precedence.rank detail.action then detail.action else best) start
    (worst = start ∨ ∃ detail ∈ details, detail.action = worst) ∧ precedence.rank start ≤ precedence.rank worst ∧
      ∀ detail ∈ details, precedence.rank detail.action ≤ precedence.rank worst := by
  induction details generalizing start with
  | nil => exact ⟨.inl rfl,le_refl _,fun _ member => nomatch member⟩
  | cons detail rest ih =>
    rw [List.foldl_cons]
    by_cases higher : precedence.rank start < precedence.rank detail.action
    · rw [if_pos higher]
      obtain ⟨named,above,bounds⟩ := ih detail.action
      refine ⟨.inr ?_,higher.le.trans above,List.forall_mem_cons.mpr ⟨above,bounds⟩⟩
      rcases named with kept | ⟨other,member,same⟩
      · exact ⟨detail,List.mem_cons_self,kept.symm⟩
      · exact ⟨other,List.mem_cons_of_mem _ member,same⟩
    · rw [if_neg higher]
      obtain ⟨named,above,bounds⟩ := ih start
      refine ⟨?_,above,List.forall_mem_cons.mpr ⟨(not_lt.mp higher).trans above,bounds⟩⟩
      rcases named with kept | ⟨other,member,same⟩
      · exact .inl kept
      · exact .inr ⟨other,List.mem_cons_of_mem _ member,same⟩

theorem worstAction_allow (precedence : Precedence) (details : List (ViolationDetail K)) :
    worstAction precedence details = .allow ↔ ∀ detail ∈ details, precedence.rank detail.action ≤ precedence.allow := by
  constructor
  · intro kept detail member
    have bound := (worst_fold precedence details .allow).2.2 detail member
    change _ ≤ precedence.rank (worstAction precedence details) at bound
    rwa [kept] at bound
  · intro low
    unfold worstAction
    induction details with
    | nil => rfl
    | cons detail rest ih =>
      have first : ¬precedence.rank .allow < precedence.rank detail.action := not_lt.mpr (low detail List.mem_cons_self)
      rw [List.foldl_cons,if_neg first]
      exact ih fun other member => low other (List.mem_cons_of_mem _ member)

section Verdict
variable {K : Type} [Field K] [LinearOrder K] {reading : Reading K} {policy : Dict}

variable {risk : K} {ladder : List (Rung K)}

theorem decides_action (decides : Decides reading policy risk rung) (read : actionLadder reading policy = .ok ladder) :
    ladderAction risk ladder = rung.action := by
  obtain ⟨below,above,placed,under,covers⟩ := decides
  rw [read] at placed
  cases placed
  have found : (below ++ rung :: above).find? (fun rung => decide (risk ≤ rung.limit)) = some rung := by
    refine List.find?_eq_some_iff_append.mpr ⟨decide_eq_true covers,below,above,rfl,fun other member => ?_⟩
    simpa using under other member
  unfold ladderAction
  rw [found]
  rfl

theorem uncovered_action (uncovered : Uncovered reading policy risk) (read : actionLadder reading policy = .ok ladder) :
    ladderAction risk ladder = .str "allow" := by
  obtain ⟨_,same,under⟩ := uncovered
  rw [read] at same
  cases same
  have found : ladder.find? (fun rung => decide (risk ≤ rung.limit)) = none := by
    refine List.find?_eq_none.mpr fun rung member => ?_
    simpa using under rung member
  unfold ladderAction
  rw [found]
  rfl

theorem ladder_settles (read : actionLadder reading policy = .ok ladder) (risk : K) :
    (∃ rung, Decides reading policy risk rung) ∨ Uncovered reading policy risk := by
  cases found : ladder.find? fun rung => decide (risk ≤ rung.limit) with
  | some rung =>
    obtain ⟨covers,below,above,placed,under⟩ := List.find?_eq_some_iff_append.mp found
    refine .inl ⟨rung,below,above,placed ▸ read,fun other member => ?_,of_decide_eq_true covers⟩
    simpa using under other member
  | none =>
    refine .inr ⟨ladder,read,fun rung member => ?_⟩
    simpa using List.find?_eq_none.mp found rung member

theorem applyPolicy_cases (answered : applyPolicy reading policy risk categories stakes = .ok result) :
    (Calm reading policy risk categories ∧ ((∃ rung, Decides reading policy risk rung ∧ result.decisionStatus = (statusOf rung.action).2) ∨
        Uncovered reading policy risk ∧ result.decisionStatus = .allow)) ∨
    (¬Calm reading policy risk categories ∧ ∃ details precedence, violationDetails reading policy risk categories = .ok details ∧
      actionPrecedence reading policy = .ok precedence ∧
      result.decisionStatus = (statusOf (.str (worstAction precedence details).text)).2) := by
  unfold applyPolicy at answered
  obtain ⟨threshold,_,answered⟩ := bind_ok.mp answered
  obtain ⟨details,checked,answered⟩ := bind_ok.mp answered
  obtain ⟨precedence,ranked,answered⟩ := bind_ok.mp answered
  obtain ⟨action,settled,answered⟩ := bind_ok.mp answered
  cases answered
  have calm := details_calm checked
  unfold finalAction at settled
  split at settled
  · rename_i empty
    obtain ⟨ladder,read,settled⟩ := bind_ok.mp settled
    cases settled
    refine .inl ⟨calm.mp (List.isEmpty_iff.mp empty),?_⟩
    rcases ladder_settles read risk with ⟨rung,decides⟩ | uncovered
    · exact .inl ⟨rung,decides,by rw [decides_action decides read]⟩
    · refine .inr ⟨uncovered,?_⟩
      simp only [uncovered_action uncovered read]
      rfl
  · rename_i exceeded
    cases settled
    refine .inr ⟨fun quiet => exceeded (List.isEmpty_iff.mpr (calm.mpr quiet)),details,precedence,checked,ranked,rfl⟩

end Verdict

section Gaps
variable {K : Type} [Field K] [LinearOrder K] (reading : Reading K) (policy : Dict)

-- The policy's allow action states a limit at or above the risk.
def AllowCovers (risk : K) : Prop :=
  ∃ actions conf limit, mapping "items" (policy.get "actions") = .ok actions ∧ (Key.str "allow",Value.dict conf) ∈ actions ∧
    toFloat reading (Dict.get conf "risk_upper") = .ok limit ∧ (Score.finite risk).atMost limit = true

def Grounded (risk : K) (categories : List String) : Prop :=
  AllowCovers reading policy risk ∨ (¬Calm reading policy risk categories ∧
      ∀ category ∈ categories, ∀ action, Exceeds reading policy risk category action → action.text = "allow")

-- The rank the policy gives an action stands above its rank of allow.
def RanksAboveAllow (action : Action) : Prop :=
  ∃ precedence, actionPrecedence reading policy = .ok precedence ∧ precedence.allow < precedence.rank action

-- A rung other than allow decides, or the categories over their limits are not outranked by allow.
def GapsClosed (risk : K) (categories : List String) : Prop :=
  Grounded reading policy risk categories ∨
    (Calm reading policy risk categories ∧ ∃ rung, Decides reading policy risk rung ∧ rung.action ≠ .str "allow") ∨
    (∃ category ∈ categories, ∃ action, Exceeds reading policy risk category action ∧ RanksAboveAllow reading policy (excessAction action))

end Gaps

section Allowed
variable {K : Type} [Field K] [LinearOrder K] {reading : Reading K} {policy : Dict}

theorem statusOf_allow (action : Key) : (statusOf action).2 = .allow ↔ action = .str "allow" := by
  unfold statusOf
  split
  · simp_all
  · split
    · simp_all
    · split <;> simp_all

theorem Action.text_allow (action : Action) : action.text = "allow" ↔ action = .allow := by
  cases action <;> decide

theorem worst_ranked
    (checked : violationDetails reading policy risk categories = .ok details) (ranked : actionPrecedence reading policy = .ok precedence) :
    worstAction precedence details ≠ .allow ↔ ∃ category ∈ categories, ∃ action, Exceeds reading policy risk category action ∧
      RanksAboveAllow reading policy (excessAction action) := by
  rw [ne_eq,worstAction_allow]
  constructor
  · intro higher
    push Not at higher
    obtain ⟨detail,member,above⟩ := higher
    obtain ⟨category,listed,exceeded⟩ := (violationDetails_exceeds checked _).mp ⟨detail,member,rfl⟩
    exact ⟨category,listed,detail.actionOnExceed,exceeded,precedence,ranked,above⟩
  · rintro ⟨category,listed,action,exceeded,_,same,above⟩ low
    rw [ranked] at same
    cases same
    obtain ⟨detail,member,stated⟩ := (violationDetails_exceeds checked action).mpr ⟨category,listed,exceeded⟩
    have bound := low detail member
    unfold ViolationDetail.action at bound
    rw [stated] at bound
    omega

theorem allowed_action (answered : applyPolicy reading policy risk categories stakes = .ok result) : result.decisionStatus = .allow ↔
      ¬(Calm reading policy risk categories ∧ ∃ rung, Decides reading policy risk rung ∧ rung.action ≠ .str "allow") ∧
      ¬∃ category ∈ categories, ∃ action, Exceeds reading policy risk category action ∧
        RanksAboveAllow reading policy (excessAction action) := by
  rcases applyPolicy_cases answered with ⟨calm,settled⟩ | ⟨exceeded,details,precedence,checked,ranked,status⟩
  · have quiet : ¬∃ category ∈ categories, ∃ action, Exceeds reading policy risk category action ∧
        RanksAboveAllow reading policy (excessAction action) :=
      fun ⟨category,listed,action,exceeds,_⟩ => calm category listed action exceeds
    rcases settled with ⟨rung,decides,status⟩ | ⟨uncovered,status⟩
    · rw [status,statusOf_allow]
      constructor
      · intro allowed
        refine ⟨fun ⟨_,other,decides',stern⟩ => stern ?_,quiet⟩
        have ⟨below,above,read,_⟩ := decides
        rw [← decides_action decides' read,decides_action decides read,allowed]
      · intro ⟨open_,_⟩
        by_contra stern
        exact open_ ⟨calm,rung,decides,stern⟩
    · refine ⟨fun _ => ⟨fun ⟨_,other,decides,stern⟩ => stern ?_,quiet⟩,fun _ => status⟩
      have ⟨below,above,read,_⟩ := decides
      rw [← decides_action decides read,uncovered_action uncovered read]
  · rw [status,statusOf_allow,Key.str.injEq,Action.text_allow]
    rw [← worst_ranked checked ranked,not_ne_iff]
    exact ⟨fun allowed => ⟨fun ⟨calm,_⟩ => exceeded calm,allowed⟩,And.right⟩

theorem allow_grounded {risk : K} {categories : List String} {stakes : Score K} {result : PolicyResult K}
    (answered : applyPolicy reading policy risk categories stakes = .ok result) :
    (result.decisionStatus = .allow → Grounded reading policy risk categories) ↔ GapsClosed reading policy risk categories := by
  unfold GapsClosed
  rw [allowed_action answered,imp_iff_not_or,not_and_or,not_not,not_not,or_comm]

end Allowed

def sampleReading : Reading ℚ := ⟨WatVerifier.samplePython,fun _ => none,fun _ _ => "0"⟩

theorem sample_answered (policy : Dict) (risk : ℚ) (categories : List String) (status : DecisionStatus)
    (told : (applyPolicy sampleReading policy risk categories (.finite 0)).toOption.map PolicyResult.decisionStatus = some status) :
    ∃ result, applyPolicy sampleReading policy risk categories (.finite 0) = .ok result ∧ result.decisionStatus = status :=
  toOption_shown told

theorem empty_policy_allows :
    ¬∀ (loader : Loader) (content fileName : String) (policy : Dict) (risk : ℚ) (categories : List String) (stakes : Score ℚ)
      (result : PolicyResult ℚ), loadPolicyFromStr loader content fileName = .ok (.dict policy) → 0 ≤ risk → risk ≤ 1 →
      applyPolicy sampleReading policy risk categories stakes = .ok result →
      result.decisionStatus = .allow → Grounded sampleReading policy risk categories := by
  intro closed
  obtain ⟨result,answered,allowed⟩ := sample_answered [field "version" (.str "fuji_file_fuji.yaml")] 1 [] .allow (by decide +kernel)
  have grounded := closed ⟨some fun _ => .ok .none,true⟩ "" "fuji.yaml" _ 1 [] (.finite 0) result rfl zero_le_one le_rfl answered allowed
  rcases grounded with ⟨actions,conf,limit,read,listed,_⟩ | ⟨exceeded,_⟩
  · cases read
    cases listed
  · exact exceeded fun category listed => absurd listed List.not_mem_nil

theorem allow_grounded_default : ∃ result, applyPolicy sampleReading defaultPolicy (1 / 5) ["PII"] (.finite 0) = .ok result ∧
      ((result.decisionStatus = .allow → Grounded sampleReading defaultPolicy (1 / 5) ["PII"]) ↔
        GapsClosed sampleReading defaultPolicy (1 / 5) ["PII"]) := by
  obtain ⟨result,answered,_⟩ := sample_answered defaultPolicy (1 / 5) ["PII"] .allow (by decide +kernel)
  exact ⟨result,answered,allow_grounded answered⟩

def sternness (action : Key) : Nat := (statusOf action).2.severity

section Milder
variable {K : Type} [Field K] [LinearOrder K] (reading : Reading K) (policy : Dict)

-- The verdict stays under a severity: no rung covers the risk, a milder rung decides, or each
-- category over its limit has something milder done.
inductive Milder (risk : K) (categories : List String) (bound : Nat) : Prop
  | uncovered (calm : Calm reading policy risk categories) (nothing : Uncovered reading policy risk) (stern : 0 < bound)
  | rung (calm : Calm reading policy risk categories) (next : Rung K) (decides : Decides reading policy risk next)
      (milder : sternness next.action < bound)
  | categories (exceeded : ¬Calm reading policy risk categories)
      (milder : ∀ category ∈ categories, ∀ action, Exceeds reading policy risk category action →
        sternness (.str (excessAction action).text) < bound)

end Milder

section Monotone
variable {K : Type} [Field K] [LinearOrder K] {reading : Reading K} {policy : Dict}

theorem rank_sternness (first second : Action) (below : defaultPrecedence.rank first ≤ defaultPrecedence.rank second) :
    sternness (.str first.text) ≤ sternness (.str second.text) := by
  cases first <;> cases second <;> revert below <;> decide

variable {risk : K} {categories : List String} {rung : Rung K}

theorem calm_lower (raised : risk ≤ higher) (grown : categories ⊆ more)
    (calm : Calm reading policy higher more) : Calm reading policy risk categories :=
  fun category listed action exceeded => calm category (grown listed) action (exceeds_raise exceeded raised)

theorem decides_same (decides : Decides reading policy risk rung) (again : Decides reading policy risk other) :
    other.action = rung.action := by
  have ⟨below,above,read,_⟩ := decides
  rw [← decides_action again read,decides_action decides read]

theorem decides_covered (decides : Decides reading policy risk rung) : ¬Uncovered reading policy risk := by
  intro ⟨ladder,read,under⟩
  obtain ⟨below,above,placed,_,covers⟩ := decides
  rw [read] at placed
  cases placed
  exact absurd covers (not_le.mpr (under rung (by simp)))

theorem worst_sternness (exceeded : ¬Calm reading policy risk categories)
    (checked : violationDetails reading policy risk categories = .ok details) :
    sternness (.str (worstAction defaultPrecedence details).text) < bound ↔
      ∀ category ∈ categories, ∀ action, Exceeds reading policy risk category action →
        sternness (.str (excessAction action).text) < bound := by
  obtain ⟨named,_,bounds⟩ := worst_fold defaultPrecedence details .allow
  change (worstAction defaultPrecedence details = .allow ∨ ∃ detail ∈ details, detail.action = worstAction defaultPrecedence details) at named
  constructor
  · intro under category listed action exceeds
    obtain ⟨detail,member,stated⟩ := (violationDetails_exceeds checked action).mpr ⟨category,listed,exceeds⟩
    have below := rank_sternness _ _ (bounds detail member)
    unfold ViolationDetail.action at below
    rw [stated] at below
    exact below.trans_lt under
  · intro milder
    rcases named with start | ⟨detail,member,same⟩
    · have some_ : details ≠ [] := fun none => exceeded ((details_calm checked).mp none)
      obtain ⟨detail,member⟩ := List.exists_mem_of_ne_nil details some_
      obtain ⟨category,listed,exceeds⟩ := (violationDetails_exceeds checked _).mp ⟨detail,member,rfl⟩
      rw [start]
      exact (Nat.zero_le _).trans_lt (milder category listed _ exceeds)
    · obtain ⟨category,listed,exceeds⟩ := (violationDetails_exceeds checked _).mp ⟨detail,member,rfl⟩
      rw [← same]
      exact milder category listed _ exceeds

theorem verdict_milder (standard : actionPrecedence reading policy = .ok defaultPrecedence)
    (answered : applyPolicy reading policy risk categories stakes = .ok result) :
    result.decisionStatus.severity < bound ↔ Milder reading policy risk categories bound := by
  rcases applyPolicy_cases answered with ⟨calm,⟨rung,decides,status⟩ | ⟨nothing,status⟩⟩ | ⟨exceeded,details,precedence,checked,ranked,status⟩
  · rw [status]
    refine ⟨fun milder => .rung calm rung decides milder,fun milder => ?_⟩
    cases milder with
    | uncovered _ nothing _ => exact absurd nothing (decides_covered decides)
    | rung _ next again milder => rwa [decides_same decides again] at milder
    | categories exceeded _ => exact absurd calm exceeded
  · rw [status]
    refine ⟨fun stern => .uncovered calm nothing stern,fun milder => ?_⟩
    cases milder with
    | uncovered _ _ stern => exact stern
    | rung _ next decides _ => exact absurd nothing (decides_covered decides)
    | categories exceeded _ => exact absurd calm exceeded
  · rw [standard] at ranked
    cases ranked
    rw [status]
    refine (worst_sternness exceeded checked).trans ⟨fun milder => .categories exceeded milder,fun milder => ?_⟩
    cases milder with
    | uncovered calm _ _ => exact absurd calm exceeded
    | rung calm _ _ _ => exact absurd calm exceeded
    | categories _ milder => exact milder

-- On a ladder of the known actions whose limits rise with their rank no milder rung decides on a larger risk.
structure Increasing (ladder : List (Rung K)) : Prop where
  named : ∀ rung ∈ ladder, ∃ action : Action, rung.action = .str action.text
  ordered : ∀ low ∈ ladder, ∀ high ∈ ladder, ∀ first second : Action, low.action = .str first.text → high.action = .str second.text →
    defaultPrecedence.rank first < defaultPrecedence.rank second → low.limit < high.limit

theorem actionLadder_sorted (read : actionLadder reading policy = .ok ladder) : ladder.Pairwise fun low high => low.limit ≤ high.limit := by
  unfold actionLadder at read
  obtain ⟨actions,_,read⟩ := bind_ok.mp read
  obtain ⟨rungs,_,read⟩ := bind_ok.mp read
  cases read
  have : Std.Total fun low high : Rung K => low.limit ≤ high.limit := ⟨fun low high => le_total low.limit high.limit⟩
  have : IsTrans (Rung K) fun low high => low.limit ≤ high.limit := ⟨fun _ _ _ => le_trans⟩
  exact List.pairwise_insertionSort _ _

theorem increasing_decides (raised : risk ≤ higher)
    (read : actionLadder reading policy = .ok ladder) (increasing : Increasing ladder) (decides : Decides reading policy risk rung)
    (later : Decides reading policy higher next) : sternness rung.action ≤ sternness next.action := by
  have sorted := actionLadder_sorted read
  obtain ⟨below,above,placed,under,_⟩ := decides
  obtain ⟨below',above',placed',_,covers⟩ := later
  rw [read] at placed placed'
  have split_ : ladder = below ++ rung :: above := Except.ok.inj placed
  have member : next ∈ ladder := by rw [Except.ok.inj placed']; simp
  have here : rung ∈ ladder := by rw [split_]; simp
  have above_ : rung.limit ≤ next.limit := by
    rw [split_] at member sorted
    rcases List.mem_append.mp member with early | late
    · exact absurd (covers.trans_lt (under next early)) (not_lt.mpr raised)
    · rcases List.mem_cons.mp late with rfl | late
      · exact le_refl _
      · exact (List.pairwise_cons.mp (List.pairwise_append.mp sorted).2.1).1 next late
  obtain ⟨first,named⟩ := increasing.named rung here
  obtain ⟨second,named'⟩ := increasing.named next member
  rw [named,named']
  apply rank_sternness
  by_contra lower
  exact absurd (increasing.ordered next member rung here second first named' named (not_le.mp lower)) (not_lt.mpr above_)

-- Above the last limit everything is allowed, and a category over its limit replaces the ladder's action.
theorem increasing_hardens {risk higher : K} {categories more : List String} {stakes other : Score K} {result raisedResult : PolicyResult K}
    (raised : risk ≤ higher) (grown : categories ⊆ more) (read : actionLadder reading policy = .ok ladder) (increasing : Increasing ladder)
    (covered : ¬Uncovered reading policy higher) (calm : Calm reading policy higher more)
    (answered : applyPolicy reading policy risk categories stakes = .ok result)
    (again : applyPolicy reading policy higher more other = .ok raisedResult) :
    result.decisionStatus.severity ≤ raisedResult.decisionStatus.severity := by
  have quiet := calm_lower raised grown calm
  rcases applyPolicy_cases again with ⟨_,⟨next,later,status⟩ | ⟨nothing,_⟩⟩ | ⟨exceeded,_⟩
  · rw [status]
    rcases applyPolicy_cases answered with ⟨_,⟨rung,decides,status'⟩ | ⟨_,status'⟩⟩ | ⟨exceeded,_⟩
    · rw [status']
      exact increasing_decides raised read increasing decides later
    · rw [status']
      exact Nat.zero_le _
    · exact absurd quiet exceeded
  · exact absurd nothing covered
  · exact absurd calm exceeded

-- Only a rung's verdict can be undone: the categories of a lower risk are over their limits at a higher one.
theorem verdict_monotone {risk higher : K} {categories more : List String} {stakes other : Score K} {result raisedResult : PolicyResult K}
    (standard : actionPrecedence reading policy = .ok defaultPrecedence) (raised : risk ≤ higher) (grown : categories ⊆ more)
    (answered : applyPolicy reading policy risk categories stakes = .ok result)
    (again : applyPolicy reading policy higher more other = .ok raisedResult) :
    result.decisionStatus.severity ≤ raisedResult.decisionStatus.severity ↔ ¬(Calm reading policy risk categories ∧
        ∃ rung, Decides reading policy risk rung ∧ Milder reading policy higher more (sternness rung.action)) := by
  rw [← not_lt,verdict_milder standard again,not_iff_not]
  rcases applyPolicy_cases answered with ⟨calm,⟨rung,decides,status⟩ | ⟨nothing,status⟩⟩ | ⟨exceeded,details,precedence,checked,ranked,status⟩
  · rw [status]
    constructor
    · exact fun milder => ⟨calm,rung,decides,milder⟩
    · intro ⟨_,rung',decides',milder⟩
      rwa [decides_same decides decides'] at milder
  · rw [status]
    constructor
    · intro milder
      cases (verdict_milder standard again).mpr milder
    · intro ⟨_,rung,decides,_⟩
      exact absurd nothing (decides_covered decides)
  · rw [standard] at ranked
    cases ranked
    rw [status]
    refine ⟨fun milder => ?_,fun ⟨calm,_⟩ => absurd calm exceeded⟩
    cases milder with
    | uncovered calm _ _ => exact absurd (calm_lower raised grown calm) exceeded
    | rung calm _ _ _ => exact absurd (calm_lower raised grown calm) exceeded
    | categories _ milder =>
      have lower := (worst_sternness exceeded checked).mpr fun category listed action exceeds =>
        milder category (grown listed) action (exceeds_raise exceeds raised)
      exact absurd lower (lt_irrefl _)

end Monotone

def defaultLimit : Action → ℚ
  | .allow => 2 / 5
  | .warn => 13 / 20
  | .humanReview => 17 / 20
  | .deny => 1

def defaultLadder : List (Rung ℚ) := [.allow,.warn,.humanReview,.deny].map fun action => ⟨.str action.text,defaultLimit action⟩

theorem defaultPolicy_ladder : actionLadder sampleReading defaultPolicy = .ok defaultLadder := by
  have shown : (actionLadder sampleReading defaultPolicy).toOption.map (List.map fun rung => (rung.action,rung.limit)) =
      some (defaultLadder.map fun rung => (rung.action,rung.limit)) := by
    decide +kernel
  obtain ⟨ladder,read,listed⟩ := toOption_shown shown
  rw [read,List.map_injective_iff.mpr (fun ⟨_,_⟩ ⟨_,_⟩ same => by cases same; rfl) listed]

theorem defaultLadder_increasing : Increasing defaultLadder := by
  have text (first second : Action) (same : Key.str first.text = .str second.text) : first = second := by
    cases first <;> cases second <;> first | rfl | simp [Action.text] at same
  constructor
  · intro rung listed
    obtain ⟨action,_,rfl⟩ := List.mem_map.mp listed
    exact ⟨action,rfl⟩
  · intro low listed high other first second named named' below
    obtain ⟨action,_,rfl⟩ := List.mem_map.mp listed
    obtain ⟨action',_,rfl⟩ := List.mem_map.mp other
    cases text _ _ named
    cases text _ _ named'
    cases first <;> cases second <;> first | exact absurd below (by decide) | norm_num [defaultLimit]

theorem increasing_hardens_default : ∃ result raised, applyPolicy sampleReading defaultPolicy (1 / 5) [] (.finite 0) = .ok result ∧
      applyPolicy sampleReading defaultPolicy (9 / 10) [] (.finite 0) = .ok raised ∧
      result.decisionStatus.severity ≤ raised.decisionStatus.severity := by
  have later : Decides sampleReading defaultPolicy (9 / 10 : ℚ) ⟨.str "deny",1⟩ :=
    ⟨defaultLadder.take 3,[],defaultPolicy_ladder,by norm_num [defaultLadder,defaultLimit],by norm_num⟩
  obtain ⟨result,answered,_⟩ := sample_answered defaultPolicy (1 / 5) [] .allow (by decide +kernel)
  obtain ⟨raised,again,_⟩ := sample_answered defaultPolicy (9 / 10) [] .deny (by decide +kernel)
  refine ⟨result,raised,answered,again,?_⟩
  exact increasing_hardens (by norm_num) (List.Subset.refl _) defaultPolicy_ladder defaultLadder_increasing (decides_covered later)
    (fun _ listed => absurd listed List.not_mem_nil) answered again

theorem category_softens_denial : ¬∀ (risk higher : ℚ) (categories more : List String) (stakes : Score ℚ) (result raised : PolicyResult ℚ),
      risk ≤ higher → categories ⊆ more → applyPolicy sampleReading defaultPolicy risk categories stakes = .ok result →
      applyPolicy sampleReading defaultPolicy higher more stakes = .ok raised →
      result.decisionStatus.severity ≤ raised.decisionStatus.severity := by
  intro monotone
  obtain ⟨result,answered,denied⟩ := sample_answered defaultPolicy (9 / 10) [] .deny (by decide +kernel)
  obtain ⟨raised,again,held⟩ := sample_answered defaultPolicy (9 / 10) ["PII"] .hold (by decide +kernel)
  have le := monotone _ _ _ _ _ result raised le_rfl (List.nil_subset _) answered again
  rw [denied,held] at le
  exact absurd le (by decide)

theorem verdict_monotone_default : ∃ result raised, applyPolicy sampleReading defaultPolicy (1 / 5) [] (.finite 0) = .ok result ∧
      applyPolicy sampleReading defaultPolicy (1 / 2) ["PII"] (.finite 0) = .ok raised ∧
      (result.decisionStatus.severity ≤ raised.decisionStatus.severity ↔
        ¬(Calm sampleReading defaultPolicy (1 / 5) [] ∧ ∃ rung, Decides sampleReading defaultPolicy (1 / 5) rung ∧
          Milder sampleReading defaultPolicy (1 / 2) ["PII"] (sternness rung.action))) := by
  obtain ⟨result,answered,_⟩ := sample_answered defaultPolicy (1 / 5) [] .allow (by decide +kernel)
  obtain ⟨raised,again,_⟩ := sample_answered defaultPolicy (1 / 2) ["PII"] .hold (by decide +kernel)
  exact ⟨result,raised,answered,again,verdict_monotone rfl (by norm_num) (List.nil_subset _) answered again⟩

end VeritasOs.FujiPolicy
