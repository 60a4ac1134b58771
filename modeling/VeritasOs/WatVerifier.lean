import VeritasOs.PolicyBundle

namespace VeritasOs.WatVerifier
open Text JsonText BindArtifacts PolicyBundle

-- What Python brings of numbers besides exact integers: decimal digits outside ASCII, float()
-- and the arithmetic of floats.
structure Python where
  digit : Char → Option Nat
  float : Value → Except Exc FloatValue
  times : FloatValue → Value → Except Exc FloatValue
  plus : FloatValue → FloatValue → FloatValue

-- Digits with single underscores between them.
def readDigits (digit : Char → Option Nat) : List Char → Option (List Nat)
  | [] => none
  | [c] => (digit c).map ([·])
  | c :: '_' :: rest => do
    let first ← digit c
    let others ← readDigits digit rest
    some (first :: others)
  | c :: rest => do
    let first ← digit c
    let others ← readDigits digit rest
    some (first :: others)

def decimalValue (digits : List Nat) : Int := (digits.foldl (fun value digit => 10 * value + digit) 0 : Nat)

def invalidLiteral (text : String) : Exc := valueError ("invalid literal for int() with base 10: " ++ quoteStr text)

def readInt (python : Python) (text : String) : Except Exc Int :=
  let chars := (strip text).toList
  let negative := chars.head? = some '-'
  let unsigned := if chars.head? = some '-' ∨ chars.head? = some '+' then chars.tail else chars
  match readDigits python.digit unsigned with
  | some digits =>
    if 4300 < digits.length then .error (valueError "Exceeds the limit (4300 digits) for integer string conversion")
    else .ok (if negative then -decimalValue digits else decimalValue digits)
  | none => .error (invalidLiteral text)

-- int(x) of a float drops what is behind the point.
def truncateFloat (x : FloatValue) : Except Exc Int :=
  match floatNumber x with
  | some (.finite mantissa exponent) =>
    .ok (if 0 ≤ exponent then mantissa * 10 ^ exponent.toNat else mantissa.tdiv (10 ^ (-exponent).toNat))
  | some (.infinity _) => .error ⟨.overflowError,"cannot convert float infinity to integer"⟩
  | none => .error (valueError "cannot convert float NaN to integer")

def toInt (python : Python) : Value → Except Exc Int
  | .int n => .ok n
  | .bool b => .ok (if b then 1 else 0)
  | .float x => truncateFloat x
  | .str s => readInt python s
  | other => .error (typeError ("int() argument must be a string, a bytes-like object or a real number, not '" ++ typeName other ++ "'"))

def toEpoch (python : Python) : Value → Except Exc (Option Int)
  | .none => .ok none
  | .int n => .ok (some n)
  | .bool b => .ok (some (if b then 1 else 0))
  | .float x => do
    let n ← truncateFloat x
    .ok (some n)
  | other => do
    let n ← readInt python other.text
    .ok (some n)

def floatLess (x y : FloatValue) : Bool :=
  match floatNumber x,floatNumber y with
  | some m,some n => !n.le m
  | _,_ => false

def zero : FloatValue := .finite ⟨"0.0",float_zero⟩
def one : FloatValue := .finite ⟨"1.0",float_one⟩
def threeTenths : FloatValue := .finite ⟨"0.3",float_three_tenths⟩
def fourTenths : FloatValue := .finite ⟨"0.4",float_four_tenths⟩
def sixTenths : FloatValue := .finite ⟨"0.6",by decide⟩
def half : FloatValue := .finite ⟨"0.5",float_half⟩
def oneFifth : FloatValue := .finite ⟨"0.2",float_two_tenths⟩
def oneTenth : FloatValue := .finite ⟨"0.1",float_tenth⟩

structure DriftVector where
  policyDrift : FloatValue
  signatureDrift : FloatValue
  observableDrift : FloatValue
  temporalDrift : FloatValue

def policyDrift (level : FloatValue) : DriftVector := ⟨level,zero,zero,zero⟩
def signatureDrift (level : FloatValue) : DriftVector := ⟨zero,level,zero,zero⟩
def observableDrift (level : FloatValue) : DriftVector := ⟨zero,zero,level,zero⟩
def temporalDrift (level : FloatValue) : DriftVector := ⟨zero,zero,zero,level⟩

inductive Classification where
  | healthy
  | warning
  | critical
deriving DecidableEq

structure DriftScore where
  score : FloatValue
  classification : Classification

def defaultThresholds : Dict := [(.str "healthy",.float oneFifth),(.str "critical",.float half)]

def defaultWeights : Dict :=
  [(.str "policy",.float fourTenths),(.str "signature",.float threeTenths),(.str "observable",.float oneFifth),(.str "temporal",.float oneTenth)]

-- A copy of the defaults, updated by what is configured.
def applied (defaults : Dict) (configured : Value) : Except Exc Dict := do
  if configured.truthy then
    let changes ← dictFrom configured
    .ok (defaults.update changes)
  else .ok defaults

def classify (score healthy critical : FloatValue) : Classification :=
  if floatLess score healthy then .healthy else if floatLess score critical then .warning else .critical

def scoreDrift (python : Python) (drift : DriftVector) (weights thresholds : Value) : Except Exc DriftScore := do
  let appliedWeights ← applied defaultWeights weights
  let appliedThresholds ← applied defaultThresholds thresholds
  let healthy ← python.float (appliedThresholds.get "healthy")
  let critical ← python.float (appliedThresholds.get "critical")
  let policy ← python.times drift.policyDrift (appliedWeights.get "policy")
  let signature ← python.times drift.signatureDrift (appliedWeights.get "signature")
  let observable ← python.times drift.observableDrift (appliedWeights.get "observable")
  let temporal ← python.times drift.temporalDrift (appliedWeights.get "temporal")
  let score := python.plus (python.plus (python.plus policy signature) observable) temporal
  .ok ⟨score,if floatLess critical healthy then classify score critical healthy else classify score healthy critical⟩

inductive Status where
  | valid
  | partial_
  | revokedPending
  | revokedConfirmed
  | stale
  | invalid
deriving DecidableEq

def Status.text : Status → String
  | .valid => "valid"
  | .partial_ => "partial"
  | .revokedPending => "revoked_pending"
  | .revokedConfirmed => "revoked_confirmed"
  | .stale => "stale"
  | .invalid => "invalid"

inductive Admissibility where
  | admissible
  | warningOnlyShadow
  | nonAdmissible
deriving DecidableEq

def Admissibility.text : Admissibility → String
  | .admissible => "admissible"
  | .warningOnlyShadow => "warning_only_shadow"
  | .nonAdmissible => "non_admissible"

structure Verdict where
  drift : DriftVector
  status : Status
  failure : Option String

structure VerifierResult where
  validationStatus : Status
  admissibilityState : Admissibility
  failureType : Option String
  driftVector : DriftVector
  auditEventRef : String
  missionControlEventName : String
  operatorMessage : String
  warningContext : String
  warningCorrelationId : String

def resolveAdmissibilityState (status : Status) (score : DriftScore) (partialAllowed pendingIsWarning : Bool) : Admissibility :=
  match status with
  | .invalid | .stale | .revokedConfirmed => .nonAdmissible
  | .partial_ => if partialAllowed then .warningOnlyShadow else .nonAdmissible
  | .revokedPending => if pendingIsWarning then .warningOnlyShadow else .nonAdmissible
  | .valid => if score.classification = .healthy then .admissible else .warningOnlyShadow

def buildOperatorMessage (status : Status) (failure : Option String) (state : Admissibility) : String :=
  match failure with
  | some failure => "WAT local verification status=" ++ status.text ++ "; failure=" ++ failure ++ "; admissibility=" ++ state.text ++ "."
  | none => "WAT local verification status=" ++ status.text ++ "; admissibility=" ++ state.text ++ "."

inductive Revocation where
  | active
  | pending
  | confirmed
deriving DecidableEq

def revocationOf : Value → Revocation
  | .str "revoked_pending" => .pending
  | .str "revoked_confirmed" => .confirmed
  | _ => .active

-- What is no known status counts as active.
def deriveRevocationStatus : Value → Revocation
  | .dict state => revocationOf (Dict.get state "status")
  | state => revocationOf state

structure Setting where
  python : Python
  sha256 : String → String
  config : Dict
  -- config["signature_verifier"], where it is callable.
  verifier : Option (Dict → String → Except Exc Bool)
  -- verify_wat_signature with the signer, where there is one.
  signer : Option (Dict → String → Except Exc Bool)

structure Call where
  signedWat : Value
  psidFull : String
  actionDigest : String
  observableRefs : Option (List Value)
  observableDigest : String
  issuanceTs : Option Int
  expiryTs : Option Int
  executionNonce : String
  sessionId : String
  revocationState : Value
  now : Int

def configured (setting : Setting) (name : String) (default : Bool) : Bool := (setting.config.getD name (.bool default)).truthy

structure Claims where
  psidFull : String
  actionDigest : String
  observableDigest : String
  observableDigestList : Option (List String)
  issuanceTs : Option Int
  expiryTs : Option Int
  nonce : String
  sessionId : String

def claimText (claims : Dict) (name : String) : String := (claims.getD name (.str "")).text

def normalizeObservableDigestList : Value → Option (List String)
  | .list items => some (items.map Value.text)
  | .tuple items => some (items.map Value.text)
  | _ => none

def readClaims (python : Python) (claims : Dict) : Except Exc Claims := do
  let issuanceTs ← toEpoch python (claims.get "issuance_ts")
  let expiryTs ← toEpoch python (claims.get "expiry_ts")
  .ok ⟨claimText claims "psid_full",claimText claims "action_digest",claimText claims "observable_digest",
    normalizeObservableDigestList (claims.get "observable_digest_list"),issuanceTs,expiryTs,claimText claims "nonce",
    claimText claims "session_id"⟩

def isPartialAllowed (setting : Setting) (now : Int) : Except Exc Bool := do
  if !configured setting "observer_only_mode" false then .ok false
  else
    match ← toEpoch setting.python (setting.config.get "warning_only_until") with
    | some until_ => .ok (decide (now ≤ until_))
    | none => .ok false

def verifySignatureLocal (setting : Setting) (claims : Dict) (signature : String) : Except Exc Bool :=
  match setting.verifier,setting.signer with
  | some verifier,_ => verifier claims signature
  | none,some signer =>
    match signer claims signature with
    | .ok accepted => .ok accepted
    | .error _ => .ok false
  | none,none => .ok false

def computeObservableDigests (sha256 : String → String) (refs : List Value) : Except Exc (List String) :=
  refs.mapM (sha256OfCanonicalJson sha256)

def isMissingText (text : String) : Bool := strip text = ""

def countMissing (texts : List String) : Nat := texts.countP isMissingText

def resolveReplayBindingFailure (required : Bool) (claims : Claims) (call : Call) (escalationThreshold : Int) : Option String :=
  let missing := countMissing [claims.actionDigest,claims.nonce,claims.sessionId] +
    countMissing [call.actionDigest,call.executionNonce,call.sessionId]
  if required ∧ 0 < missing then
    some (if max 1 escalationThreshold ≤ missing then "replay_binding_missing" else "replay_binding_incomplete")
  else if claims.actionDigest ≠ call.actionDigest then some "action_digest_mismatch"
  else if claims.nonce ≠ call.executionNonce ∨ claims.sessionId ≠ call.sessionId then
    some (if required then "replay_binding_incomplete" else "replay_detected")
  else none

def bindingKey (claims : Claims) (call : Call) : String :=
  claims.actionDigest ++ ":" ++ call.executionNonce ++ ":" ++ call.sessionId

def apart (tolerance : Int) : Option Int → Option Int → Bool
  | some claimed,some found => decide (tolerance < |claimed - found|)
  | _,_ => false

def differs : Option Int → Option Int → Bool
  | some claimed,some found => claimed != found
  | _,_ => false

def temporalVerdict (claims : Claims) (call : Call) (tolerance : Int) : Verdict :=
  if apart tolerance claims.issuanceTs call.issuanceTs || apart tolerance claims.expiryTs call.expiryTs then
    ⟨temporalDrift one,.invalid,some "timestamp_skew_exceeded"⟩
  else if differs claims.issuanceTs call.issuanceTs then ⟨temporalDrift fourTenths,.valid,some "timestamp_skew_within_tolerance"⟩
  else ⟨temporalDrift zero,.valid,none⟩

def expired (claims : Claims) (now : Int) : Bool := (claims.expiryTs.map fun expiry => decide (expiry < now)).getD false

def resolvePostValidationChecks (setting : Setting) (cache : Option (List String)) (claims : Claims) (call : Call) : Except Exc Verdict :=
  if (cache.map fun keys => keys.contains (bindingKey claims call)).getD false then
    .ok ⟨policyDrift one,.invalid,some "replay_detected"⟩
  else if expired claims call.now then .ok ⟨temporalDrift one,.stale,some "expired_token"⟩
  else if deriveRevocationStatus call.revocationState = .pending then .ok ⟨policyDrift sixTenths,.revokedPending,some "revocation_pending"⟩
  else if configured setting "allow_partial_validation" false then
    if configured setting "partial_validation_requires_confirmation" true && !configured setting "partial_validation_confirmation" false then
      .ok ⟨policyDrift sixTenths,.invalid,some "partial_validation_confirmation_required"⟩
    else .ok ⟨policyDrift threeTenths,.partial_,some "partial_validation_mode"⟩
  else do
    let tolerance ← toInt setting.python (setting.config.getD "timestamp_skew_tolerance_seconds" (.int 30))
    .ok (temporalVerdict claims call tolerance)

-- The checks before those that the replay cache takes part in; none passes them all.
def earlyVerdict (setting : Setting) (token : Dict) (signature : String) (claims : Claims) (call : Call) (escalationThreshold : Int) :
    Except Exc (Option Verdict) := do
  if deriveRevocationStatus call.revocationState = .confirmed then
    .ok (some ⟨policyDrift one,.revokedConfirmed,some "revoked_confirmed"⟩)
  else
    let accepted ← verifySignatureLocal setting token signature
    if !accepted then .ok (some ⟨signatureDrift one,.invalid,some "signature_invalid"⟩)
    else if claims.psidFull ≠ call.psidFull then .ok (some ⟨policyDrift one,.invalid,some "psid_full_mismatch"⟩)
    else
      match resolveReplayBindingFailure (configured setting "replay_binding_required" false) claims call escalationThreshold with
      | some failure => .ok (some ⟨policyDrift one,.invalid,some failure⟩)
      | none =>
        if claims.observableDigest ≠ call.observableDigest then .ok (some ⟨observableDrift one,.invalid,some "observable_digest_mismatch"⟩)
        else
          match call.observableRefs,claims.observableDigestList with
          | some refs,some claimed => do
            let computed ← computeObservableDigests setting.sha256 refs
            if claimed ≠ computed then .ok (some ⟨observableDrift one,.invalid,some "observable_digest_list_mismatch"⟩) else .ok none
          | _,_ => .ok none

def judge (setting : Setting) (cache : Option (List String)) (token : Dict) (signature : String) (claims : Claims) (call : Call)
    (escalationThreshold : Int) : Except Exc Verdict := do
  match ← earlyVerdict setting token signature claims call escalationThreshold with
  | some verdict => .ok verdict
  | none => resolvePostValidationChecks setting cache claims call

def Status.consumes : Status → Bool
  | .valid | .partial_ | .revokedPending => true
  | _ => false

def buildAuditEventRef (sha256 : String → String) (status : Status) (failure : Option String) (key : String) : Except Exc String := do
  let digest ← sha256OfCanonicalJson sha256
    (.dict [(.str "validation_status",.str status.text),(.str "failure_type",optStr failure),(.str "binding_key",.str key)])
  .ok ("wat_local_verifier:" ++ truncate 24 digest)

def malformedResult (setting : Setting) : Except Exc VerifierResult := do
  let reference ← buildAuditEventRef setting.sha256 .invalid (some "malformed_signed_wat") "malformed"
  .ok ⟨.invalid,.nonAdmissible,some "malformed_signed_wat",signatureDrift one,reference,"wat.local.invalid",
    "WAT local verification status=invalid; failure=malformed_signed_wat; admissibility=non_admissible.","","malformed"⟩

def report (setting : Setting) (key : String) (partialAllowed : Bool) (verdict : Verdict) : Except Exc VerifierResult := do
  let score ← scoreDrift setting.python verdict.drift (setting.config.get "drift_weights") (setting.config.get "drift_thresholds")
  let state := resolveAdmissibilityState verdict.status score partialAllowed (configured setting "degrade_on_pending" true)
  let failure := if verdict.status = .partial_ ∧ partialAllowed = false then some "partial_validation_timebox_expired" else verdict.failure
  let context := if verdict.status = .revokedPending ∨ verdict.status = .partial_ ∨ state = .warningOnlyShadow then "wat_shadow_warning" else ""
  let reference ← buildAuditEventRef setting.sha256 verdict.status failure key
  .ok ⟨verdict.status,state,failure,verdict.drift,reference,"wat.local." ++ verdict.status.text,
    buildOperatorMessage verdict.status failure state,context,key⟩

def tokenOf (signedWat : Value) : Option (Dict × String) :=
  match signedWat with
  | .dict members =>
    match Dict.get members "claims",Dict.get members "signature" with
    | .dict claims,.str signature => some (claims,signature)
    | _,_ => none
  | _ => none

-- What is read of a call before it is judged: its claims, and the two numbers of the configuration.
def prepare (setting : Setting) (token : Dict) (call : Call) : Except Exc (Claims × Bool × Int) := do
  let claims ← readClaims setting.python token
  let partialAllowed ← isPartialAllowed setting call.now
  let threshold ← toInt setting.python (setting.config.getD "replay_binding_escalation_threshold" (.int 4))
  .ok (claims,partialAllowed,threshold)

def judged (setting : Setting) (cache : Option (List String)) (token : Dict) (signature : String) (call : Call) :
    Except Exc (Claims × Bool × Verdict) := do
  let (claims,partialAllowed,threshold) ← prepare setting token call
  let verdict ← judge setting cache token signature claims call threshold
  .ok (claims,partialAllowed,verdict)

-- The key is in the cache before the drift is scored.
def validateLocal (setting : Setting) (cache : Option (List String)) (call : Call) : Except Exc VerifierResult × Option (List String) :=
  match tokenOf call.signedWat with
  | none => (malformedResult setting,cache)
  | some (token,signature) =>
    match judged setting cache token signature call with
    | .error error => (.error error,cache)
    | .ok (claims,partialAllowed,verdict) =>
      (report setting (bindingKey claims call) partialAllowed verdict,
        if verdict.status.consumes then cache.map (bindingKey claims call :: ·) else cache)

def Revokes (status : Value) : Prop := status = .str "revoked_pending" ∨ status = .str "revoked_confirmed"

def Revoked (state : Value) : Prop := Revokes state ∨ ∃ members, state = .dict members ∧ Revokes (Dict.get members "status")

theorem revocationOf_active : revocationOf status = .active ↔ ¬Revokes status := by
  unfold revocationOf Revokes
  split <;> simp_all

theorem deriveRevocationStatus_active : deriveRevocationStatus state = .active ↔ ¬Revoked state := by
  unfold deriveRevocationStatus Revoked
  cases state with
  | dict members => simp [revocationOf_active,Revokes]
  | _ => simp [revocationOf_active]

structure Verified (setting : Setting) (call : Call) (token : Dict) (signature : String) : Prop where
  unrevoked : ¬Revoked call.revocationState
  signed : verifySignatureLocal setting token signature = .ok true
  psid : claimText token "psid_full" = call.psidFull
  action : claimText token "action_digest" = call.actionDigest
  nonce : claimText token "nonce" = call.executionNonce
  session : claimText token "session_id" = call.sessionId
  observable : claimText token "observable_digest" = call.observableDigest
  digests : ∀ refs claimed, call.observableRefs = some refs →
    normalizeObservableDigestList (token.get "observable_digest_list") = some claimed → computeObservableDigests setting.sha256 refs = .ok claimed
  unexpired : ∀ expiry, toEpoch setting.python (token.get "expiry_ts") = .ok (some expiry) → call.now ≤ expiry
  issuedNear : ∀ tolerance claimed found, toInt setting.python (setting.config.getD "timestamp_skew_tolerance_seconds" (.int 30)) = .ok tolerance →
    toEpoch setting.python (token.get "issuance_ts") = .ok (some claimed) → call.issuanceTs = some found → |claimed - found| ≤ tolerance
  expiresNear : ∀ tolerance claimed found, toInt setting.python (setting.config.getD "timestamp_skew_tolerance_seconds" (.int 30)) = .ok tolerance →
    toEpoch setting.python (token.get "expiry_ts") = .ok (some claimed) → call.expiryTs = some found → |claimed - found| ≤ tolerance

structure Bound (claims : Claims) (call : Call) : Prop where
  action : claims.actionDigest = call.actionDigest
  nonce : claims.nonce = call.executionNonce
  session : claims.sessionId = call.sessionId

variable {claims : Claims} {call : Call} {threshold : Int} {setting : Setting} {token : Dict} {signature : String} {verdict : Verdict}

theorem resolveReplayBindingFailure_none (passed : resolveReplayBindingFailure required claims call threshold = none) :
    Bound claims call := by
  unfold resolveReplayBindingFailure at passed
  dsimp only at passed
  split at passed
  · cases passed
  · split at passed
    · cases passed
    · rename_i action
      split at passed
      · cases passed
      · rename_i others
        obtain ⟨nonce,session⟩ := not_or.mp others
        exact ⟨not_not.mp action,not_not.mp nonce,not_not.mp session⟩

structure Passed (setting : Setting) (token : Dict) (signature : String) (claims : Claims) (call : Call) : Prop where
  unconfirmed : deriveRevocationStatus call.revocationState ≠ .confirmed
  signed : verifySignatureLocal setting token signature = .ok true
  psid : claims.psidFull = call.psidFull
  bound : Bound claims call
  observable : claims.observableDigest = call.observableDigest
  digests : ∀ refs claimed, call.observableRefs = some refs → claims.observableDigestList = some claimed →
    computeObservableDigests setting.sha256 refs = .ok claimed

theorem earlyVerdict_none (passed : earlyVerdict setting token signature claims call threshold = .ok none) :
    Passed setting token signature claims call := by
  unfold earlyVerdict at passed
  split at passed
  · cases passed
  · rename_i unconfirmed
    obtain ⟨accepted,signed,passed⟩ := bind_ok.mp passed
    split at passed
    · cases passed
    · rename_i verified
      split at passed
      · cases passed
      · rename_i psid
        split at passed
        · cases passed
        · rename_i binding
          split at passed
          · cases passed
          · rename_i observable
            have accepted : accepted = true := by simpa using verified
            subst accepted
            refine ⟨unconfirmed,signed,not_not.mp psid,resolveReplayBindingFailure_none binding,not_not.mp observable,?_⟩
            intro refs claimed local_ listed
            rw [local_,listed] at passed
            obtain ⟨computed,digests,passed⟩ := bind_ok.mp passed
            split at passed
            · cases passed
            · rename_i same
              rw [digests,not_not.mp same]

theorem earlyVerdict_some (refused : earlyVerdict setting token signature claims call threshold = .ok (some verdict)) :
    verdict.status = .invalid ∨ verdict.status = .revokedConfirmed := by
  unfold earlyVerdict at refused
  split at refused
  · cases refused
    exact .inr rfl
  · obtain ⟨accepted,signed,refused⟩ := bind_ok.mp refused
    split at refused
    · cases refused
      exact .inl rfl
    · split at refused
      · cases refused
        exact .inl rfl
      · split at refused
        · cases refused
          exact .inl rfl
        · split at refused
          · cases refused
            exact .inl rfl
          · split at refused
            · obtain ⟨computed,digests,refused⟩ := bind_ok.mp refused
              split at refused
              · cases refused
                exact .inl rfl
              · cases refused
            · cases refused

structure Timely (setting : Setting) (claims : Claims) (call : Call) : Prop where
  unexpired : expired claims call.now = false
  settled : deriveRevocationStatus call.revocationState ≠ .pending
  near : ∀ tolerance, toInt setting.python (setting.config.getD "timestamp_skew_tolerance_seconds" (.int 30)) = .ok tolerance →
    apart tolerance claims.issuanceTs call.issuanceTs = false ∧ apart tolerance claims.expiryTs call.expiryTs = false

theorem temporalVerdict_valid (valid : (temporalVerdict claims call tolerance).status = .valid) :
    apart tolerance claims.issuanceTs call.issuanceTs = false ∧ apart tolerance claims.expiryTs call.expiryTs = false := by
  unfold temporalVerdict at valid
  split at valid
  · cases valid
  · rename_i near
    simpa using near

theorem resolvePostValidationChecks_valid
    (returned : resolvePostValidationChecks setting cache claims call = .ok verdict) (valid : verdict.status = .valid) :
    Timely setting claims call := by
  unfold resolvePostValidationChecks at returned
  split at returned
  · cases returned
    cases valid
  · split at returned
    · cases returned
      cases valid
    · rename_i unexpired
      split at returned
      · cases returned
        cases valid
      · rename_i settled
        split at returned
        · split at returned
          · cases returned
            cases valid
          · cases returned
            cases valid
        · obtain ⟨tolerance,read,returned⟩ := bind_ok.mp returned
          cases returned
          refine ⟨Bool.eq_false_of_not_eq_true unexpired,settled,fun other same => ?_⟩
          cases read.symm.trans same
          exact temporalVerdict_valid valid

theorem resolveAdmissibilityState_admissible
    (admissible : resolveAdmissibilityState status score partialAllowed pendingIsWarning = .admissible) : status = .valid := by
  cases status with
  | valid => rfl
  | partial_ => cases partialAllowed <;> cases admissible
  | revokedPending => cases pendingIsWarning <;> cases admissible
  | revokedConfirmed => cases admissible
  | stale => cases admissible
  | invalid => cases admissible

theorem report_ok (returned : report setting key partialAllowed verdict = .ok result) :
    result.validationStatus = verdict.status ∧ ∃ score, result.admissibilityState =
      resolveAdmissibilityState verdict.status score partialAllowed (configured setting "degrade_on_pending" true) := by
  obtain ⟨score,scored,returned⟩ := bind_ok.mp returned
  obtain ⟨reference,_,returned⟩ := bind_ok.mp returned
  cases returned
  exact ⟨rfl,score,rfl⟩

theorem judge_valid (returned : judge setting cache token signature claims call threshold = .ok verdict)
    (valid : verdict.status = .valid) : Passed setting token signature claims call ∧ Timely setting claims call := by
  obtain ⟨early,checked,returned⟩ := bind_ok.mp returned
  cases early with
  | some refusal =>
    cases returned
    rcases earlyVerdict_some checked with other | other <;> rw [valid] at other <;> cases other
  | none => exact ⟨earlyVerdict_none checked,resolvePostValidationChecks_valid returned valid⟩

theorem readClaims_ok (read : readClaims python token = .ok claims) :
    ∃ issuanceTs expiryTs, toEpoch python (token.get "issuance_ts") = .ok issuanceTs ∧ toEpoch python (token.get "expiry_ts") = .ok expiryTs ∧
      claims = ⟨claimText token "psid_full",claimText token "action_digest",claimText token "observable_digest",
        normalizeObservableDigestList (token.get "observable_digest_list"),issuanceTs,expiryTs,claimText token "nonce",
        claimText token "session_id"⟩ := by
  obtain ⟨issuanceTs,issuance,read⟩ := bind_ok.mp read
  obtain ⟨expiryTs,expiry,read⟩ := bind_ok.mp read
  cases read
  exact ⟨issuanceTs,expiryTs,issuance,expiry,rfl⟩

theorem apart_false (near : apart tolerance (some claimed) (some found) = false) : |claimed - found| ≤ tolerance :=
  not_lt.mp (of_decide_eq_false near)

theorem admissible_verified {setting : Setting} {cache : Option (List String)} {call : Call} {result : VerifierResult}
    (returned : (validateLocal setting cache call).1 = .ok result) (admissible : result.admissibilityState = .admissible) :
    ∃ token signature, tokenOf call.signedWat = some (token,signature) ∧ Verified setting call token signature := by
  unfold validateLocal at returned
  cases formed : tokenOf call.signedWat with
  | none =>
    rw [formed] at returned
    obtain ⟨reference,_,returned⟩ := bind_ok.mp returned
    cases returned
    cases admissible
  | some parts =>
    obtain ⟨token,signature⟩ := parts
    rw [formed] at returned
    dsimp only at returned
    cases outcome : judged setting cache token signature call with
    | error error =>
      rw [outcome] at returned
      cases returned
    | ok found =>
      obtain ⟨claims,partialAllowed,verdict⟩ := found
      rw [outcome] at returned
      obtain ⟨_,score,state⟩ := report_ok returned
      have valid := resolveAdmissibilityState_admissible (state.symm.trans admissible)
      obtain ⟨⟨_,_,threshold⟩,prepared,outcome⟩ := bind_ok.mp outcome
      obtain ⟨_,verdicts,outcome⟩ := bind_ok.mp outcome
      cases outcome
      obtain ⟨passed,timely⟩ := judge_valid verdicts valid
      obtain ⟨_,read,prepared⟩ := bind_ok.mp prepared
      obtain ⟨_,_,prepared⟩ := bind_ok.mp prepared
      obtain ⟨_,_,prepared⟩ := bind_ok.mp prepared
      cases prepared
      obtain ⟨issuanceTs,expiryTs,issuance,expiry,rfl⟩ := readClaims_ok read
      refine ⟨token,signature,rfl,?_,passed.signed,passed.psid,passed.bound.action,passed.bound.nonce,passed.bound.session,passed.observable,
        passed.digests,?_,?_,?_⟩
      · rw [← deriveRevocationStatus_active]
        cases status : deriveRevocationStatus call.revocationState with
        | active => rfl
        | pending => exact absurd status timely.settled
        | confirmed => exact absurd status passed.unconfirmed
      · intro expiry' same
        cases expiry.symm.trans same
        exact not_lt.mp (of_decide_eq_false timely.unexpired)
      · intro tolerance claimed found tolerated same local_
        cases issuance.symm.trans same
        have near := (timely.near tolerance tolerated).1
        rw [local_] at near
        exact apart_false near
      · intro tolerance claimed found tolerated same local_
        cases expiry.symm.trans same
        have near := (timely.near tolerance tolerated).2
        rw [local_] at near
        exact apart_false near

def samplePython : Python where
  digit := fun c => if c.isDigit then some (c.toNat - '0'.toNat) else none
  float := fun value => match value with
    | .float x => .ok x
    | _ => .error (typeError "float() argument must be a string or a real number")
  times := fun x _ => .ok x
  plus := fun x _ => x

def sampleSetting : Setting := ⟨samplePython,fun _ => "00",[],some fun _ _ => .ok true,none⟩

def sampleClaims : Dict :=
  [(.str "psid_full",.str "psid"),(.str "action_digest",.str "action"),(.str "observable_digest",.str "seen"),(.str "issuance_ts",.int 100),
   (.str "expiry_ts",.int 200),(.str "nonce",.str "n1"),(.str "session_id",.str "s1")]

def sampleCall (revocationState : Value) : Call :=
  ⟨.dict [(.str "claims",.dict sampleClaims),(.str "signature",.str "sig")],"psid","action",none,"seen",some 100,some 200,"n1","s1",revocationState,150⟩

def Active (state : Value) : Prop :=
  state = .none ∨ state = .str "active" ∨ ∃ members, state = .dict members ∧ Dict.get members "status" = .str "active"

theorem unknown_status_admissible : ¬∀ (setting : Setting) (cache : Option (List String)) (call : Call) (result : VerifierResult),
    (validateLocal setting cache call).1 = .ok result → result.admissibilityState = .admissible → Active call.revocationState := by
  intro active
  have returned : ∃ result, (validateLocal sampleSetting none (sampleCall (.str "legacy_unknown_status"))).1 = .ok result ∧
      result.admissibilityState = .admissible := ⟨_,rfl,by decide +kernel⟩
  obtain ⟨result,returned,admissible⟩ := returned
  rcases active _ _ _ _ returned admissible with none_ | direct | ⟨members,mapped,_⟩
  · cases none_
  · exact absurd direct (by decide +kernel)
  · cases mapped

theorem admissible_verified_sample : ∃ token signature, tokenOf (sampleCall (.str "active")).signedWat = some (token,signature) ∧
    Verified sampleSetting (sampleCall (.str "active")) token signature := by
  have returned : ∃ result, (validateLocal sampleSetting none (sampleCall (.str "active"))).1 = .ok result ∧
      result.admissibilityState = .admissible := ⟨_,rfl,by decide +kernel⟩
  obtain ⟨result,returned,admissible⟩ := returned
  exact admissible_verified returned admissible

end VeritasOs.WatVerifier
