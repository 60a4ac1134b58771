import VeritasOs.DateTime
import VeritasOs.ValueJson

namespace VeritasOs.BindAdmissibility
open DateTime

inductive AdmissibilityOutcome where
  | eligibleToCommit | block | escalate
deriving DecidableEq

def AdmissibilityOutcome.value : AdmissibilityOutcome → String
  | .eligibleToCommit => "eligible_to_commit"
  | .block => "block"
  | .escalate => "escalate"

inductive CheckStatus where
  | pass | fail | escalate
deriving DecidableEq

def CheckStatus.value : CheckStatus → String
  | .pass => "pass"
  | .fail => "fail"
  | .escalate => "escalate"

structure CheckResult where
  status : CheckStatus
  reasonCode : String
  message : String
deriving DecidableEq

structure BindAdmissibilityInput where
  executionIntent : String
  currentTimestamp : String
  authoritySignal : Value
  constraintSignals : Value
  liveStateFingerprint : Value
  expectedStateFingerprint : Option String
  runtimeRiskSignal : Value
  driftSensitive : Bool := true
  ttlRequired : Bool := false
  approvalFreshnessRequired : Bool := false
  missingSignalOutcome : AdmissibilityOutcome := .block
  ttlExpiresAt : Option String := none
  approvalExpiresAt : Option String := none

structure BindAdmissibilityResult where
  authorityCheckResult : CheckResult
  constraintCheckResult : CheckResult
  driftCheckResult : CheckResult
  riskCheckResult : CheckResult
  freshnessCheckResult : CheckResult
  admissibilityResult : Bool
  recommendedOutcome : AdmissibilityOutcome
  reasonCodes : List String

def missingSignalStatus (input : BindAdmissibilityInput) : CheckStatus :=
  if input.missingSignalOutcome = .escalate then .escalate else .fail

-- The authority and risk signals are read the same way: None is missing, False
-- fails, and every other object passes.
def checkSignal (input : BindAdmissibilityInput) (signal : Value) (missing invalid valid : String × String) : CheckResult :=
  if signal = .none then ⟨missingSignalStatus input,missing.1,missing.2⟩
  else if signal = .bool false then ⟨.fail,invalid.1,invalid.2⟩
  else ⟨.pass,valid.1,valid.2⟩

def checkAuthority (input : BindAdmissibilityInput) : CheckResult :=
  checkSignal input input.authoritySignal
    ("BIND_AUTHORITY_MISSING","Authority signal is missing; policy fallback applied.")
    ("BIND_AUTHORITY_INVALID","Authority is not currently valid.")
    ("BIND_AUTHORITY_VALID","Authority remains valid.")

def checkRuntimeRisk (input : BindAdmissibilityInput) : CheckResult :=
  checkSignal input input.runtimeRiskSignal
    ("BIND_RUNTIME_RISK_MISSING","Runtime risk signal is missing; policy fallback applied.")
    ("BIND_RUNTIME_RISK_UNACCEPTABLE","Runtime risk is not currently acceptable.")
    ("BIND_RUNTIME_RISK_ACCEPTABLE","Runtime risk remains acceptable.")

-- sorted(names) joined by ", ": a single name need not compare, but only texts join.
def joinNames (names : List Key) : Except Exc String :=
  let texts := names.filterMap fun | .str s => some s | _ => none
  if texts.length = names.length then
    .ok (", ".intercalate (texts.insertionSort fun a b => ¬b < a))
  else .error ⟨.typeError,"sequence item 0: expected str instance"⟩

def checkConstraints (input : BindAdmissibilityInput) : Except Exc CheckResult :=
  if !input.constraintSignals.truthy then
    .ok ⟨missingSignalStatus input,"BIND_CONSTRAINTS_MISSING","Constraint signals are missing; policy fallback applied."⟩
  else
    match input.constraintSignals with
    | .dict signals =>
      let violating := (signals.filter fun signal => !signal.2.truthy).map Prod.fst
      if violating = [] then .ok ⟨.pass,"BIND_CONSTRAINTS_VALID","All constraints are currently satisfied."⟩
      else (joinNames violating).map fun names =>
        ⟨.fail,"BIND_CONSTRAINTS_VIOLATED","Constraints are not satisfied: " ++ names⟩
    | _ => .error ⟨.attributeError,"object has no attribute 'items'"⟩

def checkDrift (input : BindAdmissibilityInput) : CheckResult :=
  if !input.driftSensitive then
    ⟨.pass,"BIND_DRIFT_NOT_REQUIRED","Drift check is not required for this execution intent."⟩
  else if !input.liveStateFingerprint.truthy || (input.expectedStateFingerprint.getD "" == "") then
    ⟨missingSignalStatus input,"BIND_DRIFT_SIGNAL_MISSING","Drift-sensitive path lacks live or expected state fingerprint."⟩
  else if input.liveStateFingerprint ≠ .str (input.expectedStateFingerprint.getD "") then
    ⟨.fail,"BIND_DRIFT_DETECTED","Live state has drifted from decision-time assumptions."⟩
  else ⟨.pass,"BIND_DRIFT_NOT_DETECTED","No live-state drift detected."⟩

-- One expiry: absent and empty texts are skipped, the others must parse.
def expired (now : Int) (name : String) (expiry : Option String) (reasonCode : String) : Except Exc (List (String × String)) :=
  match expiry with
  | none => .ok []
  | some raw => if raw = "" then .ok [] else (parseTimestamp raw).map fun at_ => if now > at_ then [(name,reasonCode)] else []

def checkFreshness (input : BindAdmissibilityInput) : Except Exc CheckResult := do
  let now ← parseTimestamp input.currentTimestamp
  if input.ttlRequired && input.ttlExpiresAt.getD "" == "" then
    return ⟨missingSignalStatus input,"BIND_TTL_MISSING","TTL is required by policy but no TTL signal is available."⟩
  else if input.approvalFreshnessRequired && input.approvalExpiresAt.getD "" == "" then
    return ⟨missingSignalStatus input,"BIND_APPROVAL_FRESHNESS_MISSING","Approval freshness is required by policy but signal is missing."⟩
  else
    let ttl ← expired now "ttl" input.ttlExpiresAt "BIND_TTL_EXPIRED"
    let approval ← expired now "approval" input.approvalExpiresAt "BIND_APPROVAL_STALE"
    match ttl ++ approval with
    | [] => return ⟨.pass,"BIND_FRESHNESS_VALID","TTL and approval freshness checks are valid."⟩
    | first :: rest =>
      return ⟨.escalate,first.2,"Freshness window expired (" ++ ", ".intercalate ((first :: rest).map Prod.fst) ++
        "); escalation required before bind."⟩

def evaluateBindAdmissibility (input : BindAdmissibilityInput) : Except Exc BindAdmissibilityResult := do
  let authority := checkAuthority input
  let constraints ← checkConstraints input
  let drift := checkDrift input
  let risk := checkRuntimeRisk input
  let freshness ← checkFreshness input
  let checks := [authority,constraints,drift,risk,freshness]
  let hasFail := checks.any (·.status = .fail)
  let hasEscalate := checks.any (·.status = .escalate)
  let reasonCodes := (checks.filter fun check => check.status ≠ .pass).map (·.reasonCode)
  return ⟨authority,constraints,drift,risk,freshness,!hasFail && !hasEscalate,
    if hasFail then .block else if hasEscalate then .escalate else .eligibleToCommit,reasonCodes⟩

def NotBefore (now : Int) (expiry : Option String) : Prop :=
  ∀ raw, expiry = some raw → raw ≠ "" → ∃ at_, parseTimestamp raw = .ok at_ ∧ now ≤ at_

structure Admits (input : BindAdmissibilityInput) : Prop where
  authority : input.authoritySignal ≠ .none ∧ input.authoritySignal ≠ .bool false
  constraints : ∃ signals, input.constraintSignals = .dict signals ∧ signals ≠ [] ∧ ∀ signal ∈ signals, signal.2.truthy = true
  drift : input.driftSensitive = true → ∃ fingerprint, fingerprint ≠ "" ∧ input.expectedStateFingerprint = some fingerprint ∧
      input.liveStateFingerprint = .str fingerprint
  risk : input.runtimeRiskSignal ≠ .none ∧ input.runtimeRiskSignal ≠ .bool false
  ttlPresent : input.ttlRequired = true → ∃ raw, input.ttlExpiresAt = some raw ∧ raw ≠ ""
  approvalPresent : input.approvalFreshnessRequired = true → ∃ raw, input.approvalExpiresAt = some raw ∧ raw ≠ ""
  fresh : ∃ now, parseTimestamp input.currentTimestamp = .ok now ∧ NotBefore now input.ttlExpiresAt ∧ NotBefore now input.approvalExpiresAt

theorem missing_not_pass (input : BindAdmissibilityInput) : missingSignalStatus input ≠ .pass := by
  unfold missingSignalStatus
  split <;> simp

variable {input : BindAdmissibilityInput}

theorem checkSignal_pass (passed : (checkSignal input signal missing invalid valid).status = .pass) :
    signal ≠ .none ∧ signal ≠ .bool false := by
  unfold checkSignal at passed
  split at passed
  · exact absurd passed (missing_not_pass input)
  · split at passed
    · cases passed
    · exact ⟨‹_›,‹_›⟩

theorem checkConstraints_pass (made : checkConstraints input = .ok result) (passed : result.status = .pass) :
    ∃ signals, input.constraintSignals = .dict signals ∧ signals ≠ [] ∧ ∀ signal ∈ signals, signal.2.truthy = true := by
  unfold checkConstraints at made
  split at made
  · cases made
    exact absurd passed (missing_not_pass input)
  · rename_i present
    split at made
    · rename_i signals dict
      refine ⟨signals,dict,?_,?_⟩
      · rintro rfl
        simp [dict,Value.truthy] at present
      · dsimp only at made
        split at made
        · rename_i none_
          intro signal member
          by_contra violated
          have listed : signal.1 ∈ (signals.filter fun signal => !signal.2.truthy).map Prod.fst :=
            List.mem_map_of_mem (List.mem_filter.mpr ⟨member,by simpa using violated⟩)
          rw [none_] at listed
          simp at listed
        · cases joined : joinNames ((signals.filter fun signal => !signal.2.truthy).map Prod.fst) with
          | error e => simp [joined,Except.map] at made
          | ok names =>
            simp only [joined,Except.map,Except.ok.injEq] at made
            subst result
            cases passed
    · cases made

theorem checkDrift_pass (passed : (checkDrift input).status = .pass) (required : input.driftSensitive = true) :
    ∃ fingerprint, fingerprint ≠ "" ∧ input.expectedStateFingerprint = some fingerprint ∧
      input.liveStateFingerprint = .str fingerprint := by
  unfold checkDrift at passed
  simp only [required,Bool.not_true,Bool.false_eq_true,if_false] at passed
  split at passed
  · exact absurd passed (missing_not_pass input)
  · rename_i present
    split at passed
    · cases passed
    · rename_i same
      cases expected : input.expectedStateFingerprint with
      | none => simp [expected] at present
      | some fingerprint =>
        simp only [expected,Option.getD_some,ne_eq,not_not] at same
        refine ⟨fingerprint,?_,rfl,same⟩
        rintro rfl
        simp [expected] at present

theorem expired_none (made : expired now name expiry reasonCode = .ok []) : NotBefore now expiry := by
  rintro raw rfl some_
  simp only [expired,some_,if_false] at made
  cases parsed : parseTimestamp raw with
  | error e => simp [parsed,Except.map] at made
  | ok at_ =>
    refine ⟨at_,rfl,?_⟩
    by_contra later
    simp [parsed,Except.map,Int.not_le.mp later] at made

theorem present_of_required (checked : ¬(required && expiry.getD "" == "") = true) (needed : required = true) :
    ∃ raw, expiry = some raw ∧ raw ≠ "" := by
  cases expiry with
  | none => simp [needed] at checked
  | some raw => exact ⟨raw,rfl,by simpa [needed] using checked⟩

theorem checkFreshness_pass (made : checkFreshness input = .ok result) (passed : result.status = .pass) :
    (input.ttlRequired = true → ∃ raw, input.ttlExpiresAt = some raw ∧ raw ≠ "") ∧
      (input.approvalFreshnessRequired = true → ∃ raw, input.approvalExpiresAt = some raw ∧ raw ≠ "") ∧
      ∃ now, parseTimestamp input.currentTimestamp = .ok now ∧ NotBefore now input.ttlExpiresAt ∧ NotBefore now input.approvalExpiresAt := by
  unfold checkFreshness at made
  cases parsed : parseTimestamp input.currentTimestamp with
  | error e => simp [parsed,bind,Except.bind] at made
  | ok now =>
    simp only [parsed,bind,Except.bind,pure,Except.pure] at made
    split at made
    · cases made
      exact absurd passed (missing_not_pass input)
    · rename_i ttlChecked
      split at made
      · cases made
        exact absurd passed (missing_not_pass input)
      · rename_i approvalChecked
        cases ttl : expired now "ttl" input.ttlExpiresAt "BIND_TTL_EXPIRED" with
        | error e => simp [ttl] at made
        | ok first =>
          cases approval : expired now "approval" input.approvalExpiresAt "BIND_APPROVAL_STALE" with
          | error e => simp [ttl,approval] at made
          | ok second =>
            simp only [ttl,approval] at made
            split at made
            · rename_i none_
              obtain ⟨rfl,rfl⟩ := List.append_eq_nil_iff.mp none_
              exact ⟨present_of_required ttlChecked,present_of_required approvalChecked,now,rfl,expired_none ttl,expired_none approval⟩
            · cases made
              cases passed

theorem admissible_exact (made : evaluateBindAdmissibility input = .ok result) (admissible : result.admissibilityResult = true) :
    Admits input := by
  unfold evaluateBindAdmissibility at made
  simp only [bind,Except.bind,pure,Except.pure] at made
  cases constraints : checkConstraints input with
  | error e => simp [constraints] at made
  | ok second =>
    cases freshness : checkFreshness input with
    | error e => simp [constraints,freshness] at made
    | ok fifth =>
      simp only [constraints,freshness,Except.ok.injEq] at made
      subst result
      have passes : ∀ check ∈ [checkAuthority input,second,checkDrift input,checkRuntimeRisk input,fifth],check.status = .pass := by
        intro check member
        simp only [Bool.and_eq_true,Bool.not_eq_true',List.any_eq_false,decide_eq_true_eq] at admissible
        have notFail := admissible.1 check member
        have notEscalate := admissible.2 check member
        cases status : check.status with
        | pass => rfl
        | fail => exact absurd status notFail
        | escalate => exact absurd status notEscalate
      have fresh := checkFreshness_pass freshness (passes fifth (by simp))
      exact {
        authority := checkSignal_pass (passes (checkAuthority input) (by simp))
        constraints := checkConstraints_pass constraints (passes second (by simp))
        drift := checkDrift_pass (passes (checkDrift input) (by simp))
        risk := checkSignal_pass (passes (checkRuntimeRisk input) (by simp))
        ttlPresent := fresh.1
        approvalPresent := fresh.2.1
        fresh := fresh.2.2
      }

end VeritasOs.BindAdmissibility
