import VeritasOs.BindReplay

namespace VeritasOs.BindCore
open Text DateTime Interaction BindArtifacts BindAdmissibility DecisionSemantics

def statusToSignal (check : Dict) : Value :=
  let status := lower (strip ((check.get "status").orStr ""))
  if status = CheckStatus.pass.value then .bool true
  else if status = CheckStatus.fail.value then .bool false
  else .none

def constraintSignalsFromReceipt (check : Dict) : Value :=
  match statusToSignal check with
  | .none => .none
  | signal => .dict [field "receipt_constraint" signal]

def textOf : Value → Option String
  | .str s => some s
  | _ => none

structure AdmissibilityReplay where
  replayable : Bool
  replayedAdmissible : Bool
  storedAdmissible : Bool
  replayedRecommendedOutcome : String
  storedRecommendedOutcome : Value
  replayedReasonCodes : List String
  storedReasonCodes : List String
  admissibilityMatches : Bool

def replayInput (normalized : BindReceipt) : BindAdmissibilityInput :=
  let context := normalized.revalidationContext
  { executionIntent := normalized.executionIntentId
    currentTimestamp := normalized.bindTs
    authoritySignal := statusToSignal normalized.checks.authority
    constraintSignals := constraintSignalsFromReceipt normalized.checks.constraint
    liveStateFingerprint := normalized.liveStateFingerprintBefore
    expectedStateFingerprint := textOf (context.get "expected_state_fingerprint")
    runtimeRiskSignal := statusToSignal normalized.checks.risk
    driftSensitive := (context.getD "drift_required" (.bool true)).truthy
    ttlRequired := (context.getD "ttl_required" (.bool false)).truthy
    approvalFreshnessRequired := (context.getD "approval_freshness_required" (.bool false)).truthy
    missingSignalOutcome := parseMissingSignalOutcome (context.get "missing_signal_outcome")
    ttlExpiresAt := strippedText (context.get "ttl_expires_at")
    approvalExpiresAt := strippedText (context.get "approval_expires_at") }

def storedReasonCodes (admissibility : Dict) : List String :=
  match admissibility.get "reason_codes" with
  | .list codes => codes.map Value.text
  | _ => []

def replayBindReceiptAdmissibility (receipt : BindReceipt) : Except Exc AdmissibilityReplay := do
  let normalized ← normalizeBindReceipt receipt
  let replay ← evaluateBindAdmissibility (replayInput normalized)
  let admissible := (normalized.admissibilityResult.getD "admissible" (.bool false)).truthy
  let stored := storedReasonCodes normalized.admissibilityResult
  return {
    replayable := normalized.bindTs ≠ "" && normalized.liveStateFingerprintBefore.truthy
    replayedAdmissible := replay.admissibilityResult
    storedAdmissible := admissible
    replayedRecommendedOutcome := replay.recommendedOutcome.value
    storedRecommendedOutcome := normalized.admissibilityResult.get "recommended_outcome"
    replayedReasonCodes := replay.reasonCodes
    storedReasonCodes := stored
    admissibilityMatches := replay.admissibilityResult == admissible && replay.reasonCodes == stored
  }

section Verdicts
variable {input again : BindAdmissibilityInput} {result : BindAdmissibilityResult}

-- The code a check adds to the verdict.
def shown (check : CheckResult) : List String := if check.status = .pass then [] else [check.reasonCode]

theorem filter_shown (checks : List CheckResult) :
    (checks.filter fun check => check.status ≠ .pass).map (·.reasonCode) = checks.flatMap shown := by
  induction checks with
  | nil => rfl
  | cons check rest ih =>
    rw [List.flatMap_cons,← ih,List.filter_cons,shown]
    by_cases passed : check.status = .pass <;> simp [passed]

theorem passes_shown (checks : List CheckResult) :
    (!checks.any (·.status = .fail) && !checks.any (·.status = .escalate)) = (checks.flatMap shown).isEmpty := by
  induction checks with
  | nil => rfl
  | cons check rest ih =>
    cases status : check.status with
    | pass => simpa [shown,status] using ih
    | fail => simp [shown,status]
    | escalate => simp [shown,status]

def verdictCodes (input : BindAdmissibilityInput) (constraints freshness : CheckResult) : List String :=
  shown (checkAuthority input) ++ (shown constraints ++ (shown (checkDrift input) ++ (shown (checkRuntimeRisk input) ++ shown freshness)))

theorem evaluate_made (constrained : checkConstraints input = .ok constraints) (fresh : checkFreshness input = .ok freshness) :
    ∃ result, evaluateBindAdmissibility input = .ok result ∧ result.authorityCheckResult = checkAuthority input ∧
      result.constraintCheckResult = constraints ∧ result.riskCheckResult = checkRuntimeRisk input ∧
      result.reasonCodes = verdictCodes input constraints freshness ∧
      result.admissibilityResult = (verdictCodes input constraints freshness).isEmpty := by
  unfold evaluateBindAdmissibility
  rw [constrained,fresh]
  have codes : verdictCodes input constraints freshness =
      [checkAuthority input,constraints,checkDrift input,checkRuntimeRisk input,freshness].flatMap shown := by
    simp [verdictCodes]
  exact ⟨_,rfl,rfl,rfl,rfl,(filter_shown _).trans codes.symm,codes ▸ passes_shown _⟩

theorem evaluate_parts (made : evaluateBindAdmissibility input = .ok result) :
    ∃ constraints freshness, checkConstraints input = .ok constraints ∧ checkFreshness input = .ok freshness := by
  unfold evaluateBindAdmissibility at made
  obtain ⟨constraints,constrained,rest⟩ := bind_ok.mp made
  obtain ⟨freshness,fresh,_⟩ := bind_ok.mp rest
  exact ⟨constraints,freshness,constrained,fresh⟩

theorem status_signal (check : CheckResult) : statusToSignal (checkFromRuntime check) =
    match check.status with | .pass => .bool true | .fail => .bool false | .escalate => .none := by
  have text : ((checkFromRuntime check).get "status").orStr "" = check.status.value := orStr_str _
  unfold statusToSignal
  dsimp only
  rw [text]
  generalize check.status = status
  cases status <;> decide +kernel

-- A signal read back from its check: a missing one that failed comes back as invalid.
theorem signal_replayed (same : missingSignalStatus again = missingSignalStatus input) (apart : missing.1 ≠ invalid.1) :
    (shown (checkSignal again (statusToSignal (checkFromRuntime (checkSignal input signal missing invalid valid))) missing invalid valid)).length =
      (shown (checkSignal input signal missing invalid valid)).length ∧
    (shown (checkSignal again (statusToSignal (checkFromRuntime (checkSignal input signal missing invalid valid))) missing invalid valid) =
      shown (checkSignal input signal missing invalid valid) ↔ (signal = .none → input.missingSignalOutcome = .escalate)) := by
  rw [status_signal]
  unfold checkSignal
  by_cases absent : signal = .none
  · simp only [absent,if_true]
    unfold missingSignalStatus at same ⊢
    by_cases escalates : input.missingSignalOutcome = .escalate
    · simp only [escalates,if_true] at same ⊢
      simp [same,shown]
    · simp only [escalates,if_false] at same ⊢
      simp [shown,apart.symm]
  · simp only [absent,if_false]
    by_cases refused : signal = .bool false
    · simp [refused,shown]
    · simp [refused,shown]

theorem authority_replayed (same : missingSignalStatus again = missingSignalStatus input)
    (read : again.authoritySignal = statusToSignal (checkFromRuntime (checkAuthority input))) :
    (shown (checkAuthority again)).length = (shown (checkAuthority input)).length ∧
      (shown (checkAuthority again) = shown (checkAuthority input) ↔ (input.authoritySignal = .none → input.missingSignalOutcome = .escalate)) := by
  unfold checkAuthority at read ⊢
  rw [read]
  exact signal_replayed same (by decide)

theorem risk_replayed (same : missingSignalStatus again = missingSignalStatus input)
    (read : again.runtimeRiskSignal = statusToSignal (checkFromRuntime (checkRuntimeRisk input))) :
    (shown (checkRuntimeRisk again)).length = (shown (checkRuntimeRisk input)).length ∧
      (shown (checkRuntimeRisk again) = shown (checkRuntimeRisk input) ↔
        (input.runtimeRiskSignal = .none → input.missingSignalOutcome = .escalate)) := by
  unfold checkRuntimeRisk at read ⊢
  rw [read]
  exact signal_replayed same (by decide)

theorem constraints_replayed (same : missingSignalStatus again = missingSignalStatus input)
    (read : again.constraintSignals = constraintSignalsFromReceipt (checkFromRuntime constraints))
    (made : checkConstraints input = .ok constraints) :
    ∃ replayed, checkConstraints again = .ok replayed ∧ (shown replayed).length = (shown constraints).length ∧
      (shown replayed = shown constraints ↔ (input.constraintSignals.truthy = false → input.missingSignalOutcome = .escalate)) := by
  unfold constraintSignalsFromReceipt at read
  rw [status_signal] at read
  unfold checkConstraints at made
  by_cases absent : input.constraintSignals.truthy = false
  · simp only [absent,Bool.not_false,if_true,Except.ok.injEq] at made
    subst constraints
    unfold missingSignalStatus at same read ⊢
    by_cases escalates : input.missingSignalOutcome = .escalate
    · simp only [escalates,if_true] at same read ⊢
      refine ⟨⟨.escalate,"BIND_CONSTRAINTS_MISSING","Constraint signals are missing; policy fallback applied."⟩,?_,rfl,by simp⟩
      rw [checkConstraints,read,missingSignalStatus,same]
      rfl
    · simp only [escalates,if_false] at same read ⊢
      refine ⟨⟨.fail,"BIND_CONSTRAINTS_VIOLATED","Constraints are not satisfied: receipt_constraint"⟩,?_,rfl,?_⟩
      · rw [checkConstraints,read]
        rfl
      · simp [shown,absent]
  · have present : input.constraintSignals.truthy = true := by simpa using absent
    simp only [present,Bool.not_true,Bool.false_eq_true,if_false] at made
    split at made
    · split at made
      · cases made
        refine ⟨⟨.pass,"BIND_CONSTRAINTS_VALID","All constraints are currently satisfied."⟩,?_,rfl,by simp [present]⟩
        rw [checkConstraints,read]
        rfl
      · rename_i signals _ _
        cases joined : joinNames ((signals.filter fun signal => !signal.2.truthy).map Prod.fst) with
        | error error =>
          rw [joined] at made
          cases made
        | ok names =>
          rw [joined] at made
          cases made
          refine ⟨⟨.fail,"BIND_CONSTRAINTS_VIOLATED","Constraints are not satisfied: receipt_constraint"⟩,?_,rfl,by simp [present,shown]⟩
          rw [checkConstraints,read]
          rfl
    · cases made

-- A fingerprint that is not text comes back as its text.
def FingerprintKept (input : BindAdmissibilityInput) : Prop :=
  input.driftSensitive = true → input.liveStateFingerprint.truthy = true → input.expectedStateFingerprint.getD "" ≠ "" →
    input.liveStateFingerprint ≠ .str (input.expectedStateFingerprint.getD "") →
    input.liveStateFingerprint.text ≠ "" ∧ input.liveStateFingerprint.text ≠ input.expectedStateFingerprint.getD ""

theorem drift_replayed (same : missingSignalStatus again = missingSignalStatus input) (required : again.driftSensitive = input.driftSensitive)
    (expected : again.expectedStateFingerprint = input.expectedStateFingerprint)
    (live : again.liveStateFingerprint = .str (input.liveStateFingerprint.orStr "")) :
    (shown (checkDrift again)).length ≤ (shown (checkDrift input)).length ∧
      (shown (checkDrift again) = shown (checkDrift input) ↔ FingerprintKept input) := by
  unfold FingerprintKept checkDrift
  rw [required,expected,live]
  by_cases sensitive : input.driftSensitive = true
  · simp only [sensitive,Bool.not_true,Bool.false_eq_true,if_false,true_imp_iff]
    generalize input.expectedStateFingerprint.getD "" = wanted
    by_cases truthy : input.liveStateFingerprint.truthy = true
    · have text : input.liveStateFingerprint.orStr "" = input.liveStateFingerprint.text := if_pos truthy
      have printed : (Value.str input.liveStateFingerprint.text).truthy = decide (input.liveStateFingerprint.text ≠ "") := by
        by_cases empty : input.liveStateFingerprint.text = "" <;> simp [Value.truthy,empty]
      rw [text,printed]
      simp only [truthy,Bool.not_true,Bool.false_or,true_imp_iff]
      by_cases blank : wanted = ""
      · simp [blank,shown,same]
      · by_cases own : input.liveStateFingerprint = .str wanted
        · simp [own,blank,shown,Value.text]
        · by_cases empty : input.liveStateFingerprint.text = ""
          · have missed : missingSignalStatus again ≠ .pass := missing_not_pass again
            simp [own,empty,blank,shown,missed]
          · by_cases alike : input.liveStateFingerprint.text = wanted
            · simp [own,blank,shown,alike]
            · simp [own,empty,blank,shown,alike]
    · have none_ : input.liveStateFingerprint.orStr "" = "" := if_neg truthy
      have silent : (Value.str "").truthy = false := rfl
      simp [none_,silent,truthy,shown,same]
  · simp [sensitive]

-- What the replay reads back, of what the adjudication went by.
structure Replays (input again : BindAdmissibilityInput) (result : BindAdmissibilityResult) : Prop where
  missing : missingSignalStatus again = missingSignalStatus input
  time : again.currentTimestamp = input.currentTimestamp
  authority : again.authoritySignal = statusToSignal (checkFromRuntime result.authorityCheckResult)
  constraints : again.constraintSignals = constraintSignalsFromReceipt (checkFromRuntime result.constraintCheckResult)
  risk : again.runtimeRiskSignal = statusToSignal (checkFromRuntime result.riskCheckResult)
  sensitive : again.driftSensitive = input.driftSensitive
  expected : again.expectedStateFingerprint = input.expectedStateFingerprint
  live : again.liveStateFingerprint = .str (input.liveStateFingerprint.orStr "")
  ttlRequired : again.ttlRequired = input.ttlRequired
  approvalRequired : again.approvalFreshnessRequired = input.approvalFreshnessRequired
  ttl : again.ttlExpiresAt = input.ttlExpiresAt
  approval : again.approvalExpiresAt = input.approvalExpiresAt

-- Each missing signal escalates, and the fingerprint is not mistaken for another text.
structure Reproducible (input : BindAdmissibilityInput) : Prop where
  authority : input.authoritySignal = .none → input.missingSignalOutcome = .escalate
  constraints : input.constraintSignals.truthy = false → input.missingSignalOutcome = .escalate
  risk : input.runtimeRiskSignal = .none → input.missingSignalOutcome = .escalate
  fingerprint : FingerprintKept input

theorem freshness_replayed (replays : Replays input again result) : checkFreshness again = checkFreshness input := by
  unfold checkFreshness
  rw [replays.time,replays.ttlRequired,replays.approvalRequired,replays.ttl,replays.approval,replays.missing]

-- The codes of each check keep their number or grow fewer, so equal lists are equal
-- check by check, and the lineage adds nothing.
theorem verdict_replayed (made : evaluateBindAdmissibility input = .ok result) (replays : Replays input again result) (lineage : List String) :
    ∃ replayed, evaluateBindAdmissibility again = .ok replayed ∧
      ((replayed.admissibilityResult = result.admissibilityResult ∧ replayed.reasonCodes = result.reasonCodes ++ lineage) ↔
        lineage = [] ∧ Reproducible input) := by
  obtain ⟨constraints,freshness,constrained,fresh⟩ := evaluate_parts made
  obtain ⟨first,evaluated,authorityIs,constraintIs,riskIs,codes,admits⟩ := evaluate_made constrained fresh
  obtain rfl := Except.ok.inj (made.symm.trans evaluated)
  obtain ⟨rebound,reconstrained,constraintLength,constraintSame⟩ :=
    constraints_replayed replays.missing (constraintIs ▸ replays.constraints) constrained
  obtain ⟨second,reevaluated,_,_,_,recodes,readmits⟩ := evaluate_made reconstrained ((freshness_replayed replays).trans fresh)
  have authority := authority_replayed replays.missing (authorityIs ▸ replays.authority)
  have risk := risk_replayed replays.missing (riskIs ▸ replays.risk)
  have drift := drift_replayed replays.missing replays.sensitive replays.expected replays.live
  refine ⟨second,reevaluated,?_⟩
  rw [readmits,admits,recodes,codes]
  unfold verdictCodes
  constructor
  · rintro ⟨_,equal⟩
    have lengths := congrArg List.length equal
    simp only [List.length_append,authority.1,constraintLength,risk.1] at lengths
    have none_ : lineage = [] := List.length_eq_zero_iff.mp (by omega)
    subst none_
    rw [List.append_nil] at equal
    obtain ⟨first,equal⟩ := List.append_inj equal authority.1
    obtain ⟨second,equal⟩ := List.append_inj equal constraintLength
    obtain ⟨third,equal⟩ := List.append_inj equal (by omega)
    obtain ⟨fourth,_⟩ := List.append_inj equal risk.1
    exact ⟨rfl,authority.2.mp first,constraintSame.mp second,risk.2.mp fourth,drift.2.mp third⟩
  · rintro ⟨rfl,same⟩
    rw [authority.2.mpr same.authority,constraintSame.mpr same.constraints,risk.2.mpr same.risk,drift.2.mpr same.fingerprint,List.append_nil]
    exact ⟨rfl,rfl⟩

end Verdicts

section Texts
theorem digit_solid (digit : c.isDigit = true) : isSpace c = false := by
  obtain ⟨low,high⟩ := Char.isDigit_iff_toNat.mp digit
  have zero : '0'.toNat = 48 := rfl
  have nine : '9'.toNat = 57 := rfl
  rw [← Bool.not_eq_true]
  intro blank
  simp only [isSpace,Bool.or_eq_true,Bool.and_eq_true,decide_eq_true_eq,beq_iff_eq] at blank
  omega

theorem padded_solid (width n : Nat) : ((padded width n).toList.all fun c => !isSpace c) = true := by
  rw [padded,String.toList_ofList,List.all_append,Bool.and_eq_true,List.all_eq_true,List.all_eq_true]
  refine ⟨fun c listed => ?_,fun c listed => ?_⟩
  · rw [List.eq_of_mem_replicate listed]
    rfl
  · rw [digit_solid (Nat.isDigit_of_mem_toDigits (by omega) (by omega) listed)]
    rfl

theorem iso_solid (made : plusSecondsIso base seconds = .ok text) : text ≠ "" ∧ strip text = text := by
  unfold plusSecondsIso at made
  dsimp only at made
  split at made
  · rw [← Except.ok.inj made]
    refine ⟨fun blank => ?_,strip_word ?_⟩
    · have none_ := congrArg String.toList blank
      simp at none_
    · simp only [String.toList_append,List.all_append,padded_solid,Bool.and_true,Bool.true_and]
      split
      · rfl
      · simp only [String.toList_append,List.all_append,padded_solid,Bool.and_true]
        rfl
  · cases made
theorem text_kept (plain : ∀ s, text = some s → s ≠ "" ∧ strip s = s) : strippedText (optStr text) = text := by
  cases text with
  | none => rfl
  | some s =>
    obtain ⟨some_,stripped⟩ := plain s rfl
    rw [optStr,strippedText,stripped,if_neg some_]

theorem ttl_kept (made : buildTtlExpiry intent = .ok ttl) : strippedText (optStr ttl) = ttl := by
  refine text_kept fun s given => ?_
  subst given
  unfold buildTtlExpiry at made
  split at made
  · cases made
  · split at made
    · cases made
    · split at made
      · split at made <;> cases made
      · rename_i base _
        cases written : plusSecondsIso base _ with
        | error error =>
          rw [written] at made
          cases made
        | ok text =>
          rw [written] at made
          cases made
          exact iso_solid written
end Texts

section Receipts
variable {receipt : BindReceipt} {intent : ExecutionIntent} {policy : BindPolicyConfig} {ts key : String} {ttl : Option String}
variable {authority constraints risk fingerprint : Value} {admissibility : BindAdmissibilityResult} {lineage : List String}

theorem normalize_kept (receipt : BindReceipt) : ∃ normalized, normalizeBindReceipt receipt = .ok normalized ∧
    normalized.bindTs = receipt.bindTs ∧ normalized.liveStateFingerprintBefore = .str (receipt.liveStateFingerprintBefore.orStr "") ∧
    normalized.checks = receipt.checks ∧ normalized.admissibilityResult = receipt.admissibilityResult ∧
    normalized.revalidationContext = receipt.revalidationContext := by
  have whole : ∀ members, dictOf (.dict members) = .ok members := by
    intro members
    cases members <;> rfl
  have label : outcomeFrom receipt.toDict = .ok receipt.finalOutcome := by
    have written : receipt.toDict.get "final_outcome" = .str receipt.finalOutcome.value := rfl
    rw [outcomeFrom,written]
    cases receipt.finalOutcome <;> rfl
  have authority : receipt.toDict.get "authority_check_result" = .dict receipt.checks.authority := rfl
  have constraint : receipt.toDict.get "constraint_check_result" = .dict receipt.checks.constraint := rfl
  have drift : receipt.toDict.get "drift_check_result" = .dict receipt.checks.drift := rfl
  have risk : receipt.toDict.get "risk_check_result" = .dict receipt.checks.risk := rfl
  have admissibility : receipt.toDict.get "admissibility_result" = .dict receipt.admissibilityResult := rfl
  have context : receipt.toDict.get "revalidation_context" = .dict receipt.revalidationContext := rfl
  unfold normalizeBindReceipt receiptFrom
  dsimp only
  rw [label,authority,constraint,drift,risk,admissibility,context,whole,whole,whole,whole,whole,whole]
  exact ⟨_,rfl,orStr_str receipt.bindTs,rfl,rfl,rfl,rfl⟩

structure Bears (receipt : BindReceipt) (intent : ExecutionIntent) (policy : BindPolicyConfig) (ts key : String) (ttl : Option String)
    (fingerprint : Value) (admissibility : BindAdmissibilityResult) (lineage : List String) : Prop where
  time : receipt.bindTs = ts
  live : receipt.liveStateFingerprintBefore = fingerprint
  authority : receipt.checks.authority = checkFromRuntime admissibility.authorityCheckResult
  constraint : receipt.checks.constraint = checkFromRuntime admissibility.constraintCheckResult
  risk : receipt.checks.risk = checkFromRuntime admissibility.riskCheckResult
  context : receipt.revalidationContext = buildRevalidationContext intent policy ttl (buildApprovalExpiry intent) key
  admissible : (receipt.admissibilityResult.getD "admissible" (.bool false)).truthy = admissibility.admissibilityResult
  codes : storedReasonCodes receipt.admissibilityResult = admissibility.reasonCodes ++ lineage

theorem outcome_kept (outcome : AdmissibilityOutcome) :
    parseMissingSignalOutcome (.str outcome.value) = .escalate ↔ outcome = .escalate := by
  cases outcome <;> decide +kernel

theorem context_reads (written : context = buildRevalidationContext intent policy ttl approval key) :
    context.get "expected_state_fingerprint" = optStr intent.expectedStateFingerprint ∧ context.get "ttl_expires_at" = optStr ttl ∧
      context.get "approval_expires_at" = optStr approval ∧ (context.getD "drift_required" (.bool true)).truthy = policy.driftRequired ∧
      (context.getD "ttl_required" (.bool false)).truthy = policy.ttlRequired ∧
      (context.getD "approval_freshness_required" (.bool false)).truthy = policy.approvalFreshnessRequired ∧
      context.get "missing_signal_outcome" = .str policy.missingSignalOutcome.value := by
  subst written
  exact ⟨rfl,rfl,rfl,rfl,rfl,rfl,rfl⟩

theorem carried_replays (expiry : buildTtlExpiry intent = .ok ttl)
    (bears : Bears receipt intent policy ts key ttl fingerprint admissibility lineage) (time : normalized.bindTs = receipt.bindTs)
    (live : normalized.liveStateFingerprintBefore = .str (receipt.liveStateFingerprintBefore.orStr ""))
    (checks : normalized.checks = receipt.checks) (context : normalized.revalidationContext = receipt.revalidationContext) :
    Replays (admissibilityInput intent policy ts ttl authority constraints risk fingerprint) (replayInput normalized) admissibility := by
  obtain ⟨expected,ttlRead,approvalRead,sensitive,ttlRequired,approvalRequired,missing⟩ :=
    context_reads (context.trans bears.context)
  have own : ∀ approval, buildApprovalExpiry intent = some approval → approval ≠ "" ∧ strip approval = approval := by
    intro approval given
    obtain ⟨members,_,text⟩ := Option.bind_eq_some_iff.mp given
    exact strippedText_ne text
  unfold replayInput
  dsimp only
  rw [checks,live,bears.live,time,bears.time,expected,ttlRead,approvalRead,sensitive,ttlRequired,
    approvalRequired,missing,bears.authority,bears.constraint,bears.risk,ttl_kept expiry,text_kept own]
  have kept : textOf (optStr intent.expectedStateFingerprint) = intent.expectedStateFingerprint := by
    cases intent.expectedStateFingerprint <;> rfl
  rw [kept]
  unfold admissibilityInput
  constructor
  case missing => simp only [missingSignalStatus,outcome_kept]
  all_goals dsimp only

theorem carried_replay (expiry : buildTtlExpiry intent = .ok ttl)
    (made : evaluateBindAdmissibility (admissibilityInput intent policy ts ttl authority constraints risk fingerprint) = .ok admissibility)
    (bears : Bears receipt intent policy ts key ttl fingerprint admissibility lineage) :
    ∃ report, replayBindReceiptAdmissibility receipt = .ok report ∧ (report.admissibilityMatches = true ↔
      lineage = [] ∧ Reproducible (admissibilityInput intent policy ts ttl authority constraints risk fingerprint)) := by
  obtain ⟨normalized,kept,time,live,checks,stored,context⟩ := normalize_kept receipt
  obtain ⟨replayed,evaluated,same⟩ := verdict_replayed made (carried_replays expiry bears time live checks context) lineage
  refine ⟨_,bind_ok.mpr ⟨normalized,kept,bind_ok.mpr ⟨replayed,evaluated,rfl⟩⟩,?_⟩
  rw [← same]
  simp only [Bool.and_eq_true,beq_iff_eq,stored,bears.admissible,bears.codes]
end Receipts

section Runs
variable {S : Type} {sha256 : String → String} {call : Call} {trace : Trace S} {receipt : BindReceipt} {ts key : String} {base : BindReceipt}
variable {snapshot : S} {fingerprint : Value} {stage : Stage S} {outcome : BindReceipt ⊕ Cleared S}

structure Readings (S : Type) where
  snapshot : S
  fingerprint : Value
  authority : Value
  constraints : Value
  risk : Value

structure Judged (call : Call) (trace : Trace S) (ts : String) (ttl : Option String) (readings : Readings S) : Prop where
  asked : ∃ setup rest, trace = setup ++ ⟨.snapshot,.ok readings.snapshot⟩ ::
      ⟨.fingerprintState readings.snapshot,.ok readings.fingerprint⟩ ::
      ⟨.validateAuthority call.intent readings.snapshot,.ok readings.authority⟩ ::
      ⟨.validateConstraints call.intent readings.snapshot,.ok readings.constraints⟩ ::
      ⟨.assessRuntimeRisk call.intent readings.snapshot,.ok readings.risk⟩ :: rest ∧
    (∀ event ∈ setup, event.1.setsUp = true) ∧ TimestampOf call setup ts
  expiry : buildTtlExpiry call.intent = .ok ttl

def signalInput (call : Call) (ts : String) (ttl : Option String) (readings : Readings S) : BindAdmissibilityInput :=
  admissibilityInput call.intent (resolveBindPolicyConfig call.intent) ts ttl readings.authority readings.constraints readings.risk
    readings.fingerprint

def lineageCodes (intent : ExecutionIntent) : List String := (precedenceReasonCode (finalBindDecision (extractBindDecisionValues intent))).toList

theorem lineage_clear (intent : ExecutionIntent) :
    lineageCodes intent = [] ↔ ∀ value ∈ extractBindDecisionValues intent, decisionSeverity (.str value) = 1 := by
  unfold lineageCodes
  rw [Option.toList_eq_nil_iff]
  constructor
  · exact precedence_clear
  · intro eligible
    by_cases none_ : extractBindDecisionValues intent = []
    · rw [none_]
      rfl
    · have resolved := (resolve_eligible ((extractBindDecisionValues intent).map .str)).mpr
        ⟨by simpa using none_,by simpa using eligible⟩
      rw [finalBindDecision,if_neg none_,resolved]
      rfl

-- Where a signal evaluation leads: to the refusal it gives, or past it.
theorem signalGate_judged (returned : Returns (signalGate call ts key base snapshot fingerprint) trace outcome) :
    ∃ authority constraints risk ttl admissibility rest, trace = ⟨.validateAuthority call.intent snapshot,.ok authority⟩ ::
        ⟨.validateConstraints call.intent snapshot,.ok constraints⟩ :: ⟨.assessRuntimeRisk call.intent snapshot,.ok risk⟩ :: rest ∧
      buildTtlExpiry call.intent = .ok ttl ∧
      evaluateBindAdmissibility (signalInput call ts ttl ⟨snapshot,fingerprint,authority,constraints,risk⟩) = .ok admissibility ∧
      ((admissibility.admissibilityResult = false ∧ ∃ target, outcome = .inl (inadmissibleReceipt
          (assessed call key base snapshot fingerprint ttl admissibility) admissibility (extractBindDecisionValues call.intent) target)) ∨
        (admissibility.admissibilityResult = true ∧ ∀ cleared, outcome = .inr cleared → lineageCodes call.intent = [] ∧
          ∃ result, cleared = { assessed call key base snapshot fingerprint ttl admissibility with
            regulated := regulatedReceiptUpdates (resolveRegulatedActionContext call.intent) result })) := by
  unfold signalGate at returned
  obtain ⟨_,authority,r1,rfl,rfl,askedConstraints⟩ := ask_lift_returns returned
  obtain ⟨_,constraints,r2,rfl,rfl,askedRisk⟩ := ask_lift_returns askedConstraints
  obtain ⟨_,risk,r3,rfl,rfl,signals⟩ := ask_lift_returns askedRisk
  obtain ⟨ttl,_,r4,rfl,lifted,checked⟩ := returns_bind.mp signals
  obtain ⟨rfl,expiry⟩ := returns_lift.mp lifted
  obtain ⟨admissibility,_,r5,rfl,computed,decided⟩ := returns_bind.mp checked
  obtain ⟨rfl,evaluated⟩ := returns_lift.mp computed
  refine ⟨authority,constraints,risk,ttl,admissibility,r5,rfl,expiry,evaluated,?_⟩
  dsimp only at decided
  split at decided
  · rename_i refused
    obtain ⟨target,_,rfl⟩ := describe_returns decided
    exact .inl ⟨by simpa using refused,target,rfl⟩
  · rename_i admitted
    refine .inr ⟨by simpa using admitted,?_⟩
    rintro cleared rfl
    split at decided
    · obtain ⟨target,_,other⟩ := describe_returns decided
      cases other
    · rename_i clear
      obtain ⟨_,result,rfl⟩ := boundaryGate_cleared decided
      exact ⟨by rw [lineageCodes,clear]; rfl,result,rfl⟩

def stageOf : BindReceipt ⊕ Cleared S → Stage S
  | .inl receipt => .refused receipt
  | .inr cleared => .cleared cleared

-- A run that is no replay and fails neither its preconditions nor its snapshot gets to the signals.
theorem prelude_judged (returned : Returns (prelude sha256 call : Bind S (Stage S)) trace stage) :
    (∃ receipt, stage = .replayed receipt ∧ receipt.labels.idempotencyStatus = some "replayed") ∨
      (∃ receipt, stage = .refused receipt ∧ (receipt.finalOutcome = .preconditionFailed ∨ receipt.finalOutcome = .snapshotFailed)) ∨
      ∃ ts key base snapshot fingerprint setup gates outcome,
        trace = setup ++ ⟨.snapshot,.ok snapshot⟩ :: ⟨.fingerprintState snapshot,.ok fingerprint⟩ :: gates ∧
        (∀ event ∈ setup, event.1.setsUp = true) ∧ TimestampOf call setup ts ∧ base.bindTs = ts ∧
        Returns (signalGate call ts key base snapshot fingerprint) gates outcome ∧ stage = stageOf outcome := by
  unfold prelude at returned
  obtain ⟨ts,l1,r1,rfl,stamped,keyed⟩ := returns_bind.mp returned
  obtain ⟨_,rawKey,r2,rfl,rfl,looked⟩ := ask_lift_returns keyed
  obtain ⟨found,l3,r3,rfl,searched,rest⟩ := returns_bind.mp looked
  cases found with
  | some duplicate =>
    obtain ⟨_,same⟩ := returns_pure.mp rest
    exact .inl ⟨_,same.symm,rfl⟩
  | none =>
    obtain ⟨base,l4,r4,rfl,based,gated⟩ := returns_bind.mp rest
    obtain ⟨outcome,l5,r5,rfl,passed,last⟩ := returns_bind.mp gated
    have ended : r5 = [] ∧ stage = stageOf outcome := by
      cases outcome <;> exact (returns_pure.mp last).imp_right Eq.symm
    obtain ⟨rfl,rfl⟩ := ended
    obtain ⟨calm1,time⟩ := bindTimestamp_returns stamped
    obtain ⟨calm3,_,_⟩ := lookupDuplicate_returns searched
    obtain ⟨calm4,_,_,_,_,made⟩ := baseReceipt_returns based
    unfold clearGates at passed
    split at passed
    · obtain ⟨target,_,rfl⟩ := describe_returns passed
      exact .inr (.inl ⟨_,rfl,.inl rfl⟩)
    · obtain ⟨seen,left,right,rfl,observed,later⟩ := returns_bind.mp passed
      cases seen with
      | error error =>
        dsimp only at later
        split at later
        · exact (returns_fail.mp later).elim
        · obtain ⟨_,rfl⟩ := returns_pure.mp later
          exact .inr (.inl ⟨_,rfl,.inr rfl⟩)
      | ok pair =>
        obtain ⟨snapshot,fingerprint⟩ := pair
        obtain rfl := observe_returns.mp observed
        refine .inr (.inr ⟨ts,_,base,snapshot,fingerprint,l1 ++ ⟨.buildIdempotencyKey call.intent,.ok rawKey⟩ :: (l3 ++ l4),right,outcome,
          by simp,?_,?_,by rw [made],later,rfl⟩)
        · intro event member
          simp only [List.mem_append,List.mem_cons] at member
          rcases member with first | rfl | third | fourth
          · rw [calm1 event first]
            rfl
          · rfl
          · exact calm3 event third
          · exact calm4 event fourth
        · rcases time with given | ⟨absent,read⟩
          · exact .inl given
          · exact .inr ⟨absent,by simp [read]⟩

theorem stored_codes (admissible : Bool) (recommended : String) (codes : List String) (target : Value) (more : Dict) :
    storedReasonCodes (admissibilityDict admissible recommended codes target ++ more) = codes := by
  have listed : Dict.get (admissibilityDict admissible recommended codes target ++ more) "reason_codes" = strList codes := rfl
  rw [storedReasonCodes,listed]
  simp [strList,Function.comp_def,Value.text]

variable {ttl : Option String} {admissibility : BindAdmissibilityResult} {lineage : List String} {policy : BindPolicyConfig}

theorem Bears.final (bears : Bears receipt call.intent policy ts key ttl fingerprint admissibility lineage)
    (previous : Value) (hash trustlogHash : String) :
    Bears { completeReceipt receipt call.intent with prevBindHash := previous, bindReceiptHash := hash, trustlogHash := trustlogHash }
      call.intent policy ts key ttl fingerprint admissibility lineage :=
  ⟨bears.time,bears.live,bears.authority,bears.constraint,bears.risk,bears.context,bears.admissible,bears.codes⟩

theorem inadmissible_bears (stamped : base.bindTs = ts) (refused : admissibility.admissibilityResult = false) (target : Value) :
    Bears (inadmissibleReceipt (assessed call key base snapshot fingerprint ttl admissibility) admissibility
      (extractBindDecisionValues call.intent) target) call.intent (resolveBindPolicyConfig call.intent) ts key ttl fingerprint admissibility
      (lineageCodes call.intent) where
  time := stamped
  live := rfl
  authority := rfl
  constraint := rfl
  risk := rfl
  context := rfl
  admissible := refused.symm
  codes := stored_codes _ _ _ _ _

theorem committed_bears (stamped : base.bindTs = ts) (admitted : admissibility.admissibilityResult = true)
    (none_ : admissibility.reasonCodes = []) (regulated : Regulated → Regulated) (post target : Value) :
    Bears (committedReceipt { assessed call key base snapshot fingerprint ttl admissibility with regulated := regulated } post target)
      call.intent (resolveBindPolicyConfig call.intent) ts key ttl fingerprint admissibility [] where
  time := stamped
  live := rfl
  authority := rfl
  constraint := rfl
  risk := rfl
  context := rfl
  admissible := admitted.symm
  codes := by
    rw [none_]
    exact (congrArg storedReasonCodes (List.append_nil _).symm).trans (stored_codes _ _ _ _ [])

theorem admitted_codes (made : evaluateBindAdmissibility input = .ok admissibility)
    (admitted : admissibility.admissibilityResult = true) : admissibility.reasonCodes = [] := by
  obtain ⟨constraints,freshness,constrained,fresh⟩ := evaluate_parts made
  obtain ⟨result,evaluated,_,_,_,codes,admits⟩ := evaluate_made constrained fresh
  obtain rfl := Except.ok.inj (made.symm.trans evaluated)
  rw [codes]
  exact List.isEmpty_iff.mp (admits.symm.trans admitted)
end Runs

-- If the run stops at the admissibility check or commits, then replaying its receipt gives
-- the stored verdict if and only if no decision of the lineage is restrictive, every
-- missing signal escalates, and the fingerprint is not mistaken for another text.
def ReplaysExactly {S : Type} (call : Call) (trace : Trace S) (receipt : BindReceipt) : Prop :=
  ∃ ts ttl readings admissibility, Judged call trace ts ttl readings ∧
    evaluateBindAdmissibility (signalInput call ts ttl readings) = .ok admissibility ∧
    (admissibility.admissibilityResult = false ∨ receipt.finalOutcome = .committed →
      ∃ report, replayBindReceiptAdmissibility receipt = .ok report ∧ (report.admissibilityMatches = true ↔
        (∀ value ∈ extractBindDecisionValues call.intent, decisionSeverity (.str value) = 1) ∧
          Reproducible (signalInput call ts ttl readings)))

theorem receipt_replay_exact {S : Type} (sha256 : String → String) (call : Call) (trace : Trace S) (receipt : BindReceipt)
    (returned : Returns (executeBindAdjudication sha256 call) trace receipt)
    (fresh : receipt.labels.idempotencyStatus ≠ some "replayed")
    (ended : receipt.finalOutcome = .blocked ∨ receipt.finalOutcome = .escalated ∨ receipt.finalOutcome = .committed) :
    ReplaysExactly call trace receipt := by
  obtain ⟨stage,left,right,rfl,staged,later⟩ := returns_bind.mp returned
  rcases prelude_judged staged with ⟨replay,rfl,replayed⟩ | ⟨refusal,rfl,early⟩ | reached
  · obtain ⟨_,rfl⟩ := returns_pure.mp later
    exact absurd replayed fresh
  · obtain ⟨_,_,_,rfl⟩ := finalize_keeps later
    have outcome : refusal.finalOutcome = .blocked ∨ refusal.finalOutcome = .escalated ∨ refusal.finalOutcome = .committed := ended
    rcases early with stop | stop <;> simp [stop] at outcome
  · obtain ⟨ts,key,base,snapshot,fingerprint,setup,gates,outcome,rfl,calm,time,stamped,judged,rfl⟩ := reached
    obtain ⟨authority,constraints,risk,ttl,admissibility,rest,rfl,expiry,evaluated,verdict⟩ := signalGate_judged judged
    refine ⟨ts,ttl,⟨snapshot,fingerprint,authority,constraints,risk⟩,admissibility,
      ⟨⟨setup,rest ++ right,by simp,calm,time⟩,expiry⟩,evaluated,fun finished => ?_⟩
    rcases verdict with ⟨refused,target,rfl⟩ | ⟨admitted,cleared⟩
    · obtain ⟨previous,hash,trustlogHash,rfl⟩ := finalize_keeps later
      rw [← lineage_clear]
      exact carried_replay expiry evaluated ((inadmissible_bears stamped refused target).final previous hash trustlogHash)
    · have committed : receipt.finalOutcome = .committed := finished.resolve_left (by simp [admitted])
      cases outcome with
      | inl refusal =>
        obtain ⟨_,_,_,rfl⟩ := finalize_keeps later
        exact absurd (show refusal.finalOutcome = .committed from committed) (signalGate_refused judged)
      | inr clearance =>
        obtain ⟨none_,result,rfl⟩ := cleared clearance rfl
        obtain ⟨applied,effect,log,rfl,performed,final⟩ := returns_bind.mp later
        obtain ⟨previous,hash,trustlogHash,rfl⟩ := finalize_keeps final
        obtain ⟨_,post,target,rfl⟩ := commitStage_committed performed committed
        obtain ⟨report,replayed,same⟩ := carried_replay expiry evaluated
          ((committed_bears stamped admitted (admitted_codes evaluated admitted) _ post target).final previous hash trustlogHash)
        refine ⟨report,replayed,?_⟩
        rw [same,← lineage_clear,none_]
        rfl

def unloggedCall : Call := { sampleCall with appendTrustlog := false }

def gateTrace (authority : Value) : Trace Unit :=
  [⟨.buildIdempotencyKey sampleIntent,.ok (.str "key-1")⟩,⟨.snapshot,.ok ()⟩,⟨.fingerprintState (),.ok (.str "state-1")⟩,
   ⟨.validateAuthority sampleIntent (),.ok authority⟩,⟨.validateConstraints sampleIntent (),.ok (.dict [(.str "window",.bool true)])⟩,
   ⟨.assessRuntimeRisk sampleIntent (),.ok (.bool true)⟩,⟨.describeTarget,.ok (.str "config")⟩]

theorem unanswered_returns : ∃ receipt report, Returns (executeBindAdjudication (fun s => s) unloggedCall) (gateTrace .none) receipt ∧
    receipt.labels.idempotencyStatus = some "fresh" ∧ receipt.finalOutcome = .blocked ∧
    replayBindReceiptAdmissibility receipt = .ok report ∧ report.storedReasonCodes = ["BIND_AUTHORITY_MISSING"] ∧
    report.replayedReasonCodes = ["BIND_AUTHORITY_INVALID"] ∧ report.admissibilityMatches = false :=
  ⟨_,_,.more (.more (.more (.more (.more (.more (.more (.done _))))))),rfl,rfl,rfl,rfl,rfl,rfl⟩

theorem receipt_replay_exact_sample : ∃ receipt,Returns (executeBindAdjudication (fun s => s) unloggedCall) (gateTrace .none) receipt ∧
      ReplaysExactly unloggedCall (gateTrace .none) receipt := by
  obtain ⟨receipt,_,returned,status,blocked,_⟩ := unanswered_returns
  exact ⟨receipt,returned,receipt_replay_exact _ _ _ receipt returned (by simp [status]) (.inl blocked)⟩

-- The authority did not answer; the replay reads that as a refusal.
theorem unanswered_mismatch : ¬∀ receipt, Returns (executeBindAdjudication (fun s => s) unloggedCall) (gateTrace .none) receipt →
    receipt.finalOutcome = .blocked → ∃ report, replayBindReceiptAdmissibility receipt = .ok report ∧ report.admissibilityMatches = true := by
  intro claimed
  obtain ⟨receipt,report,returned,_,blocked,replayed,_,_,differs⟩ := unanswered_returns
  obtain ⟨other,again,agrees⟩ := claimed receipt returned blocked
  cases replayed.symm.trans again
  exact Bool.false_ne_true (differs.symm.trans agrees)

end VeritasOs.BindCore
