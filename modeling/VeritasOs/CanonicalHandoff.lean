import VeritasOs.BindArtifacts
import VeritasOs.Isoformat
import VeritasOs.JsonData

namespace VeritasOs.CanonicalHandoff
open JsonText DateTime BindArtifacts

inductive Status where
  | incomplete
  | reviewRequired
  | invalid
  | structurallyRefused
  | readyForGuardedPromotion
deriving DecidableEq

def Status.value : Status → String
  | .incomplete => "INCOMPLETE"
  | .reviewRequired => "REVIEW_REQUIRED"
  | .invalid => "INVALID"
  | .structurallyRefused => "STRUCTURALLY_REFUSED"
  | .readyForGuardedPromotion => "READY_FOR_GUARDED_PROMOTION"

inductive ReasonCode where
  | missingCanonicalDecisionId
  | missingCanonicalDecisionHash
  | missingDecisionTimestamp
  | trustlogUnverified
  | replayUnverified
  | requestLineageMismatch
  | candidateHashMismatch
  | targetContextMismatch
  | lineageNonPromotable
  | targetUnspecified
  | actionUnspecified
  | actorUnspecified
  | authorityRequirementUnresolved
  | authorityEvidenceMissing
  | authorityEvidenceInvalid
  | authorityEvidenceExpired
  | approvalRequirementUnresolved
  | approvalEvidenceMissing
  | approvalEvidenceInvalid
  | approvalEvidenceExpired
  | policyLineageMissing
  | policyLineageStale
  | expectedStateMissing
  | expectedStateStale
  | ambiguousAction
  | sourceArtifactMismatch
  | schemaInvalid
  | provenanceUnverified
  | provenanceMismatch
  | expired
deriving DecidableEq

def ReasonCode.value : ReasonCode → String
  | .missingCanonicalDecisionId => "HANDOFF_MISSING_CANONICAL_DECISION_ID"
  | .missingCanonicalDecisionHash => "HANDOFF_MISSING_CANONICAL_DECISION_HASH"
  | .missingDecisionTimestamp => "HANDOFF_MISSING_DECISION_TIMESTAMP"
  | .trustlogUnverified => "HANDOFF_TRUSTLOG_UNVERIFIED"
  | .replayUnverified => "HANDOFF_REPLAY_UNVERIFIED"
  | .requestLineageMismatch => "HANDOFF_REQUEST_LINEAGE_MISMATCH"
  | .candidateHashMismatch => "HANDOFF_CANDIDATE_HASH_MISMATCH"
  | .targetContextMismatch => "HANDOFF_TARGET_CONTEXT_MISMATCH"
  | .lineageNonPromotable => "HANDOFF_LINEAGE_NON_PROMOTABLE"
  | .targetUnspecified => "HANDOFF_TARGET_UNSPECIFIED"
  | .actionUnspecified => "HANDOFF_ACTION_UNSPECIFIED"
  | .actorUnspecified => "HANDOFF_ACTOR_UNSPECIFIED"
  | .authorityRequirementUnresolved => "HANDOFF_AUTHORITY_REQUIREMENT_UNRESOLVED"
  | .authorityEvidenceMissing => "HANDOFF_AUTHORITY_EVIDENCE_MISSING"
  | .authorityEvidenceInvalid => "HANDOFF_AUTHORITY_EVIDENCE_INVALID"
  | .authorityEvidenceExpired => "HANDOFF_AUTHORITY_EVIDENCE_EXPIRED"
  | .approvalRequirementUnresolved => "HANDOFF_APPROVAL_REQUIREMENT_UNRESOLVED"
  | .approvalEvidenceMissing => "HANDOFF_APPROVAL_EVIDENCE_MISSING"
  | .approvalEvidenceInvalid => "HANDOFF_APPROVAL_EVIDENCE_INVALID"
  | .approvalEvidenceExpired => "HANDOFF_APPROVAL_EVIDENCE_EXPIRED"
  | .policyLineageMissing => "HANDOFF_POLICY_LINEAGE_MISSING"
  | .policyLineageStale => "HANDOFF_POLICY_LINEAGE_STALE"
  | .expectedStateMissing => "HANDOFF_EXPECTED_STATE_MISSING"
  | .expectedStateStale => "HANDOFF_EXPECTED_STATE_STALE"
  | .ambiguousAction => "HANDOFF_AMBIGUOUS_ACTION"
  | .sourceArtifactMismatch => "HANDOFF_SOURCE_ARTIFACT_MISMATCH"
  | .schemaInvalid => "HANDOFF_SCHEMA_INVALID"
  | .provenanceUnverified => "HANDOFF_PROVENANCE_UNVERIFIED"
  | .provenanceMismatch => "HANDOFF_PROVENANCE_MISMATCH"
  | .expired => "HANDOFF_EXPIRED"

-- A datetime: its wall-clock time and its offset from UTC, both in microseconds.
abbrev Moment := Int × Option Int

def aware (moment : Moment) : Bool := moment.2.isSome
def instant (moment : Moment) : Int := moment.1 - moment.2.getD 0

-- The fields of the assertions are read from JSON too, where only their names are checked.
structure TrustedValueAssertion where
  fieldPath : Value
  valueDigest : Value
  sourceArtifactRef : Value
  sourceHash : Value
  verificationMechanism : Value
  verifiedAt : Moment
  claims : List Value

structure CandidateHashBindingAssertion where
  candidateValueDigest : Value
  assertedCandidateHash : Value
  candidateHashProfile : Value
  sourceArtifactRef : Value
  sourceHash : Value
  verificationMechanism : Value
  verifiedAt : Moment
  claim : Value

structure AuthorityEvidenceRequirementBindingAssertion where
  authorityRequirementValueDigest : Value
  authorityEvidenceValueDigest : Value
  sourceArtifactRef : Value
  sourceHash : Value
  verificationMechanism : Value
  verifiedAt : Moment
  claim : Value

structure ValidationContext where
  valueAssertions : List TrustedValueAssertion
  candidateHashBinding : Option CandidateHashBindingAssertion
  authorityRequirementBinding : Option AuthorityEvidenceRequirementBindingAssertion

def validationVersion : String := "canonical-decision-handoff-validator/v1"

structure ValidationResult where
  status : Status
  reasonCodes : List ReasonCode
  structureValid : Bool
  declaredStatus : Option String
  declaredStatusMatches : Bool
  declaredReasonCodes : List Value
  declaredReasonCodesMatch : Bool
  verifiedProvenancePaths : List String

def ValidationResult.ready (result : ValidationResult) : Bool := decide (result.status = .readyForGuardedPromotion)

def strValue : Option String → Value
  | some s => .str s
  | none => .none

def ValidationResult.toDict (result : ValidationResult) : Dict :=
  [(.str "status",.str result.status.value),(.str "reason_codes",.list (result.reasonCodes.map fun reason => .str reason.value)),
   (.str "structure_valid",.bool result.structureValid),(.str "declared_status",strValue result.declaredStatus),
   (.str "declared_status_matches",.bool result.declaredStatusMatches),(.str "declared_reason_codes",.list result.declaredReasonCodes),
   (.str "declared_reason_codes_match",.bool result.declaredReasonCodesMatch),
   (.str "verified_provenance_paths",.list (result.verifiedProvenancePaths.map Value.str)),
   (.str "validation_version",.str validationVersion),(.str "ready_for_guarded_promotion",.bool result.ready),
   (.str "fail_closed",.bool !result.ready),(.str "requires_review",.bool (decide (result.status = .reviewRequired)))]

def resultOf (payload : Value) (status : Status) (reasons : List ReasonCode) (structureValid : Bool) (verified : List String) : ValidationResult :=
  let members := payload.asDict?.getD []
  let declaredStatus := match members.get "handoff_status" with
    | .str s => some s
    | _ => none
  let declaredReasons := match members.getD "refusal_reason_codes" (.list []) with
    | .list reasons => reasons
    | _ => []
  ⟨status,reasons,structureValid,declaredStatus,declaredStatus == some status.value,declaredReasons,
    pyEqItems declaredReasons (reasons.map fun reason => .str reason.value),verified⟩

-- The validator returns early with a report, or raises.
inductive Stop where
  | returned (status : Status) (reasons : List ReasonCode) (structureValid : Bool) (verified : List String)
  | raised (error : Exc)

abbrev Check := Except Stop

def malformed (failed : Bool) : Check Unit := if failed then .error (.returned .invalid [.schemaInvalid] false []) else .ok ()

def refuse (failed : Bool) (status : Status) (reasons : List ReasonCode) : Check Unit :=
  if failed then .error (.returned status reasons true []) else .ok ()

def checkWhen (needed : Bool) (check : Check Unit) : Check Unit := if needed then check else .ok ()

section Validation
variable (sha256 : String → String)

def assertionValueDigestProfile : String := "veritas.canonical-handoff.assertion-value/v1"

def assertionDocument (value : Value) : Value := .dict [(.str "profile",.str assertionValueDigestProfile),(.str "value",value)]

def canonicalHandoffAssertionValueDigest (value : Value) : Option String :=
  (canonicalJsonDumps (assertionDocument value)).map sha256

def digestOf (value : Value) : Check Value :=
  match canonicalHandoffAssertionValueDigest sha256 value with
  | some digest => .ok (.str digest)
  | none => .error (.raised (typeError "Object is not JSON serializable"))

-- _timestamp, as an instant: timestamps are only compared.
def timestamp : Value → Option Int
  | .str s =>
    match fromisoformat (expandZulu s.toList) with
    | some (wall,some offset) => some (wall - offset)
    | _ => none
  | _ => none

def nonempty : Value → Bool
  | .str s => s != ""
  | _ => false

def isMapping : Value → Bool
  | .dict _ => true
  | _ => false

def isBool : Value → Bool
  | .bool _ => true
  | _ => false

-- _resolve(payload, path), the path split at its dots.
def resolve (payload : Value) : List String → Option Value
  | [] => some payload
  | component :: rest =>
    match payload with
    | .dict members => (lookup (.str component) members).bind fun found => resolve found rest
    | _ => none

def sectionOf (handoff : Dict) (name : String) : Dict := (handoff.get name).asDict?.getD []

def optionalSection (handoff : Dict) (name : String) : Option Dict := (handoff.get name).asDict?

def provenanceOf (handoff : Dict) : List Dict :=
  match handoff.get "provenance" with
  | .list records => records.filterMap Value.asDict?
  | _ => []

def noted (present : Bool) (reason : ReasonCode) : List ReasonCode := if present then [reason] else []

def distinct (reasons : List ReasonCode) : List ReasonCode :=
  reasons.foldl (fun kept reason => if reason ∈ kept then kept else kept ++ [reason]) []

def requiredObjects : List String :=
  ["source_decision","candidate","decision_lineage","trustlog_lineage","replay_lineage","authority_requirement",
   "human_approval_requirement","target_context"]

def nullableObjects : List String := ["policy_lineage","authority_evidence","human_approval_evidence","expected_state"]

def canonicalProvenanceClasses : List String :=
  ["VERIFIED_RUNTIME_EVIDENCE","VERIFIED_POLICY_ARTIFACT","VERIFIED_AUTHORITY_EVIDENCE","VERIFIED_HUMAN_APPROVAL","VERIFIED_LIVE_STATE",
   "EXPLICIT_STRUCTURED_INPUT","UNVERIFIED_STRUCTURED_INPUT","DERIVED_CANONICALLY","UNAVAILABLE"]

def canonicalVerificationStatuses : List String := ["VERIFIED","UNVERIFIED","UNAVAILABLE"]

def forbiddenReadyProvenanceClasses : List String := ["UNAVAILABLE","UNVERIFIED_STRUCTURED_INPUT"]

def among (texts : List String) : Value → Bool
  | .str s => texts.contains s
  | _ => false

def checkStructure (evaluatedAt : Moment) (handoff : Value) : Check Dict := do
  malformed !aware evaluatedAt
  malformed !isMapping handoff
  let members := handoff.asDict?.getD []
  malformed (members.get "format_version" != .str "canonical-decision-handoff/v1" || !nonempty (members.get "handoff_id"))
  let isList := match members.get "provenance" with
    | .list _ => true
    | _ => false
  malformed ((requiredObjects.any fun key => !isMapping (members.get key)) || !isList)
  malformed (nullableObjects.any fun key => members.get key != .none && !isMapping (members.get key))
  let action := (sectionOf members "candidate").get "canonical_action"
  malformed (action != .none && !isMapping action)
  let records := match members.get "provenance" with
    | .list records => records
    | _ => []
  malformed (records.any fun record => !isMapping record)
  malformed ((provenanceOf members).any fun record => !among canonicalProvenanceClasses (record.get "provenance_class") ||
    !among canonicalVerificationStatuses (record.get "verification_status"))
  let paths := (provenanceOf members).map fun record => record.get "field_path"
  malformed (paths.any (fun path => !nonempty path) || !decide paths.Nodup)
  let expires := members.get "expires_at"
  malformed ((timestamp (members.get "created_at")).isNone || (expires != .none && (timestamp expires).isNone))
  .ok members

def replayBound (source replay : Dict) : Bool :=
  pyEq (replay.get "request_id") (source.get "request_id") &&
    pyEq (replay.get "original_decision_id") (source.get "canonical_decision_id") &&
    pyEq (replay.get "original_decision_hash") (source.get "canonical_decision_hash") &&
    pyEq (replay.get "original_decision_ts") (source.get "canonical_decision_ts") &&
    !pyEq (replay.get "replay_request_id") (source.get "request_id") &&
    !pyEq (replay.get "replay_decision_id") (source.get "canonical_decision_id")

def checkLineage (handoff : Dict) : Check (List ReasonCode) := do
  let source := sectionOf handoff "source_decision"
  let lineage := sectionOf handoff "decision_lineage"
  let trustlog := sectionOf handoff "trustlog_lineage"
  let replay := sectionOf handoff "replay_lineage"
  let requestId := source.get "request_id"
  malformed (!(nonempty requestId && nonempty (trustlog.get "request_id") && nonempty (replay.get "request_id")))
  malformed (!isBool (trustlog.get "verified") || !isBool (replay.get "verified"))
  .ok (noted (!pyEq (source.get "canonical_decision_id") (lineage.get "decision_id")) .sourceArtifactMismatch ++
    noted (lineage.get "bind_proof_ref").truthy .sourceArtifactMismatch ++
    noted (!pyEq requestId (trustlog.get "request_id") || !pyEq requestId (replay.get "request_id")) .requestLineageMismatch ++
    noted (replay.get "format_version" == .str "canonical-replay-handoff-lineage/v1" && !replayBound source replay) .sourceArtifactMismatch)

def targetMismatch (handoff : Dict) : Bool :=
  let candidate := sectionOf handoff "candidate"
  let target := sectionOf handoff "target_context"
  nonempty (candidate.get "target_system") && nonempty (candidate.get "target_resource") &&
    (!pyEq (candidate.get "target_system") (target.get "target_system") ||
      !pyEq (candidate.get "target_resource") (target.get "target_resource") || target.get "canonicalized" != .bool true)

def actionOf (handoff : Dict) : Option Dict := ((sectionOf handoff "candidate").get "canonical_action").asDict?

def candidateFieldsPresent (handoff : Dict) : Bool :=
  let candidate := sectionOf handoff "candidate"
  nonempty (candidate.get "actor_identity") && nonempty (candidate.get "target_system") && nonempty (candidate.get "target_resource")

def requirementsTyped (handoff : Dict) : Bool :=
  ["authority_requirement","human_approval_requirement"].all fun name =>
    isBool ((sectionOf handoff name).get "resolved") && isBool ((sectionOf handoff name).get "required")

-- Evidence is valid from the time it states until it expires.
def checkPeriod (evidence : Dict) (start : String) (now : Int) (over_ invalid : ReasonCode) : Check (List ReasonCode) := do
  let expires := timestamp (evidence.get "expires_at")
  let issued := timestamp (evidence.get start)
  malformed (expires.isNone || issued.isNone)
  if expires.getD 0 < now then .ok [over_]
  else .ok (noted (decide (expires.getD 0 < issued.getD 0) || decide (now < issued.getD 0)) invalid)

def authorityMismatch (authority candidate action : Dict) : Bool :=
  !pyEq (authority.get "actor_identity") (candidate.get "actor_identity") ||
    !pyEq (authority.get "action_contract_id") (action.get "contract_id") ||
    !pyEq (authority.get "target_system") (candidate.get "target_system") ||
    !pyEq (authority.get "target_scope") (candidate.get "target_resource") || authority.get "validation_result" != .str "VALID" ||
    !nonempty (authority.get "issuer") || !nonempty (authority.get "evidence_ref") || !nonempty (authority.get "evidence_hash")

def checkAuthority (handoff : Dict) (now : Int) : Check (List ReasonCode) :=
  match optionalSection handoff "authority_evidence",actionOf handoff,candidateFieldsPresent handoff with
  | some authority,some action,true => do
    let period ← checkPeriod authority "issued_at" now .authorityEvidenceExpired .authorityEvidenceInvalid
    .ok (noted (authorityMismatch authority (sectionOf handoff "candidate") action) .authorityEvidenceInvalid ++ period)
  | _,_,_ => .ok []

def approvalMismatch (approval candidate action : Dict) : Bool :=
  !pyEq (approval.get "candidate_ref") (candidate.get "candidate_id") ||
    !pyEq (approval.get "action_contract_id") (action.get "contract_id") ||
    !pyEq (approval.get "target_resource") (candidate.get "target_resource") || !nonempty (approval.get "approver_identity") ||
    !nonempty (approval.get "receipt_ref") || !nonempty (approval.get "receipt_hash") || approval.get "validation_result" != .str "VALID"

def checkApproval (handoff : Dict) (now : Int) : Check (List ReasonCode) :=
  match optionalSection handoff "human_approval_evidence",actionOf handoff,candidateFieldsPresent handoff with
  | some approval,some action,true => do
    let period ← checkPeriod approval "approved_at" now .approvalEvidenceExpired .approvalEvidenceInvalid
    .ok (noted (approvalMismatch approval (sectionOf handoff "candidate") action) .approvalEvidenceInvalid ++ period)
  | _,_,_ => .ok []

-- Contradictions found so far take precedence over a review of the policy.
def checkPolicy (handoff : Dict) (now : Int) (invalid : List ReasonCode) : Check Unit :=
  match optionalSection handoff "policy_lineage" with
  | none => .ok ()
  | some policy => do
    let ids := match policy.get "policy_ids" with
      | .list ids => ids
      | _ => []
    malformed (!isBool (policy.get "superseded") || ids.isEmpty || ids.any fun id => !nonempty id)
    let effective := timestamp (policy.get "effective_at")
    let expires := timestamp (policy.get "expires_at")
    malformed (effective.isNone || expires.isNone)
    let stale := policy.get "superseded" == .bool true || decide (now < effective.getD 0) || decide (expires.getD 0 < now) ||
      decide (expires.getD 0 < effective.getD 0) || ["snapshot_id","version","semantic_digest"].any fun key => !nonempty (policy.get key)
    refuse (stale && !invalid.isEmpty) .invalid (distinct invalid)
    refuse stale .reviewRequired [.policyLineageStale]

def checkState (handoff : Dict) (now : Int) : Check (List ReasonCode) :=
  match optionalSection handoff "expected_state" with
  | none => .ok []
  | some state => do
    let observed := timestamp (state.get "observed_at")
    malformed observed.isNone
    .ok (noted (decide (now < observed.getD 0) || ["fingerprint","source_ref"].any fun key => !nonempty (state.get key)) .expectedStateStale)

def bindingTrustworthy (now : Int) (binding : Option CandidateHashBindingAssertion) : Bool :=
  match binding with
  | none => false
  | some binding => binding.candidateHashProfile.truthy && binding.verificationMechanism.truthy && aware binding.verifiedAt &&
      decide (instant binding.verifiedAt ≤ now)

def bindingMismatch (now : Int) (binding : Option CandidateHashBindingAssertion) (handoff : Dict) : Check Bool :=
  match binding with
  | none => .ok false
  | some claimed =>
    if !bindingTrustworthy now (some claimed) then .ok false
    else if claimed.claim != .str "CANDIDATE_HASH_BINDS_CANDIDATE" then .ok true
    else do
      let digest ← digestOf sha256 (.dict (sectionOf handoff "candidate"))
      .ok (!pyEq claimed.candidateValueDigest digest || !pyEq claimed.assertedCandidateHash (handoff.get "candidate_hash"))

def actionGaps (handoff : Dict) : List ReasonCode :=
  match actionOf handoff with
  | none => [.actionUnspecified,.ambiguousAction]
  | some action => noted (!nonempty (action.get "contract_id") || !nonempty (action.get "version") ||
      !isMapping (action.get "parameters")) .ambiguousAction

def authorityGaps (handoff : Dict) : List ReasonCode :=
  let requirement := sectionOf handoff "authority_requirement"
  if requirement.get "resolved" != .bool true then [.authorityRequirementUnresolved]
  else noted (requirement.get "required" == .bool true && (optionalSection handoff "authority_evidence").isNone) .authorityEvidenceMissing

def handoffExpired (handoff : Dict) (now : Int) : Bool :=
  let created := (timestamp (handoff.get "created_at")).getD 0
  match if (handoff.get "expires_at").truthy then timestamp (handoff.get "expires_at") else none with
  | some expires => decide (expires < created) || decide (expires < now)
  | none => false

def checkGaps (handoff : Dict) (now : Int) : Check Unit := do
  let source := sectionOf handoff "source_decision"
  let candidate := sectionOf handoff "candidate"
  let trustlog := sectionOf handoff "trustlog_lineage"
  let replay := sectionOf handoff "replay_lineage"
  let decisionTs := source.get "canonical_decision_ts"
  malformed (nonempty decisionTs && (timestamp decisionTs).isNone)
  malformed (nonempty decisionTs && decide (now < (timestamp decisionTs).getD 0))
  malformed (!nonempty (source.get "request_id") || !nonempty (handoff.get "candidate_hash"))
  malformed ((optionalSection handoff "human_approval_evidence").isSome && !nonempty (candidate.get "candidate_id"))
  let incomplete := noted (!nonempty (source.get "canonical_decision_id")) .missingCanonicalDecisionId ++
    noted (!nonempty (source.get "canonical_decision_hash")) .missingCanonicalDecisionHash ++
    noted (!nonempty decisionTs) .missingDecisionTimestamp ++ noted (!nonempty (candidate.get "actor_identity")) .actorUnspecified ++
    noted (!nonempty (candidate.get "target_system") || !nonempty (candidate.get "target_resource")) .targetUnspecified ++ actionGaps handoff ++
    authorityGaps handoff ++ noted (optionalSection handoff "policy_lineage").isNone .policyLineageMissing ++
    noted (optionalSection handoff "expected_state").isNone .expectedStateMissing ++
    noted (trustlog.get "verified" != .bool true || !nonempty (trustlog.get "artifact_ref") || !nonempty (trustlog.get "chain_hash"))
      .trustlogUnverified ++
    noted (replay.get "verified" != .bool true || !nonempty (replay.get "artifact_ref") || !nonempty (replay.get "artifact_hash"))
      .replayUnverified
  malformed (decide (now < (timestamp (handoff.get "created_at")).getD 0))
  refuse (handoffExpired handoff now) .invalid [.expired]
  let unusable := incomplete.any fun reason => [ReasonCode.targetUnspecified,.actionUnspecified,.ambiguousAction].contains reason
  refuse (!incomplete.isEmpty) (if unusable then .invalid else .incomplete) incomplete

def authorityClaim : String := "AUTHORITY_EVIDENCE_SATISFIES_REQUIREMENT"

def checkAuthorityBinding (now : Int) (binding : Option AuthorityEvidenceRequirementBindingAssertion) (handoff : Dict) : Check Unit :=
  match binding with
  | none => refuse true .incomplete [.provenanceUnverified]
  | some claimed => do
    refuse (!claimed.verificationMechanism.truthy || !aware claimed.verifiedAt || decide (now < instant claimed.verifiedAt) ||
      claimed.claim != .str authorityClaim) .incomplete [.provenanceUnverified]
    let requirement ← digestOf sha256 (handoff.get "authority_requirement")
    refuse (!pyEq claimed.authorityRequirementValueDigest requirement) .invalid [.provenanceMismatch]
    let evidence ← digestOf sha256 (handoff.get "authority_evidence")
    refuse (!pyEq claimed.authorityEvidenceValueDigest evidence) .invalid [.provenanceMismatch]

def mandatoryPaths : List (List String) :=
  [["source_decision","request_id"],["source_decision","canonical_decision_id"],["source_decision","canonical_decision_hash"],
   ["source_decision","canonical_decision_ts"],["candidate","actor_identity"],["candidate","target_system"],["candidate","target_resource"],
   ["candidate","canonical_action"],["candidate_hash"],["trustlog_lineage"],["replay_lineage"],["policy_lineage"],["authority_requirement"],
   ["authority_evidence"],["human_approval_requirement"],["human_approval_evidence"],["expected_state"]]

def pathText (path : List String) : String := ".".intercalate path

def humanApprovalClaim : String := "HUMAN_APPROVAL_BINDS_EXACT_OPERATION"

-- A list or a dictionary cannot name an entry of the table of assertions.
def unhashable : Value → Bool
  | .list _ | .dict _ => true
  | _ => false

def assertionsFor (context : ValidationContext) (path : List String) : List TrustedValueAssertion :=
  context.valueAssertions.filter fun assertion => assertion.fieldPath == .str (pathText path)

def refuseVerified (failed : Bool) (status : Status) (reason : ReasonCode) (verified : List String) : Check Unit :=
  if failed then .error (.returned status [reason] true verified) else .ok ()

def checkPath (context : ValidationContext) (now : Int) (handoff : Dict) (verified : List String) (path : List String) : Check Unit :=
  let record := (provenanceOf handoff).find? fun record => record.get "field_path" == .str (pathText path)
  match resolve (.dict handoff) path,record,assertionsFor context path with
  | some value,some record,[assertion] => do
    refuseVerified (record.get "verification_status" != .str "VERIFIED" ||
      among forbiddenReadyProvenanceClasses (record.get "provenance_class")) .incomplete .provenanceUnverified verified
    refuseVerified (!aware assertion.verifiedAt || decide (now < instant assertion.verifiedAt)) .incomplete .provenanceUnverified verified
    refuseVerified (path == ["human_approval_evidence"] && ((sectionOf handoff "human_approval_requirement").get "required").truthy &&
      !assertion.claims.any fun claim => claim == .str humanApprovalClaim) .incomplete .provenanceUnverified verified
    refuseVerified (!pyEq (record.get "value") value) .invalid .provenanceMismatch verified
    let digest ← digestOf sha256 value
    refuseVerified (!pyEq assertion.valueDigest digest || !assertion.verificationMechanism.truthy ||
      (record.get "source_artifact_ref" != .none && !pyEq (record.get "source_artifact_ref") assertion.sourceArtifactRef) ||
      (record.get "source_hash" != .none && !pyEq (record.get "source_hash") assertion.sourceHash)) .invalid .provenanceMismatch verified
  | _,_,_ => refuseVerified true .incomplete .provenanceUnverified verified

def checkPaths (context : ValidationContext) (now : Int) (handoff : Dict) : List String → List (List String) → Check (List String)
  | verified,[] => .ok verified
  | verified,path :: rest => do
    checkPath sha256 context now handoff verified path
    checkPaths context now handoff (verified ++ [pathText path]) rest

def runChecks (handoff : Value) (context : ValidationContext) (evaluatedAt : Moment) : Check (List String) := do
  let now := instant evaluatedAt
  let members ← checkStructure evaluatedAt handoff
  refuse ((sectionOf members "candidate").get "lineage_promotability" != .str "promotable") .structurallyRefused [.lineageNonPromotable]
  let lineage ← checkLineage members
  malformed !requirementsTyped members
  let authority ← checkAuthority members now
  let approval ← checkApproval members now
  let found := lineage ++ noted (targetMismatch members) .targetContextMismatch ++ authority ++ approval
  checkPolicy members now found
  let state ← checkState members now
  let mismatch ← bindingMismatch sha256 now context.candidateHashBinding members
  let invalid := found ++ state
  refuse (!invalid.isEmpty) .invalid (distinct (invalid ++ noted mismatch .candidateHashMismatch))
  let approvalRequirement := sectionOf members "human_approval_requirement"
  refuse (approvalRequirement.get "resolved" != .bool true) .incomplete [.approvalRequirementUnresolved]
  refuse (approvalRequirement.get "required" == .bool true && (optionalSection members "human_approval_evidence").isNone)
    .reviewRequired [.approvalEvidenceMissing]
  checkGaps members now
  refuse (!bindingTrustworthy now context.candidateHashBinding) .incomplete [.provenanceUnverified]
  refuse mismatch .invalid [.candidateHashMismatch]
  checkWhen ((sectionOf members "authority_requirement").get "required").truthy
    (checkAuthorityBinding sha256 now context.authorityRequirementBinding members)
  checkWhen (context.valueAssertions.any fun assertion => unhashable assertion.fieldPath) (.error (.raised (typeError "unhashable type")))
  checkPaths sha256 context now members [] mandatoryPaths

def validateCanonicalDecisionHandoff (handoff : Value) (context : ValidationContext) (evaluatedAt : Moment) : Except Exc ValidationResult :=
  match runChecks sha256 handoff context evaluatedAt with
  | .ok verified => .ok (resultOf handoff .readyForGuardedPromotion [] true verified)
  | .error (.returned status reasons structureValid verified) => .ok (resultOf handoff status reasons structureValid verified)
  | .error (.raised error) => .error error

@[simp] theorem malformed_ok (failed : Bool) : malformed failed = .ok () ↔ failed = false := by
  cases failed <;> simp [malformed]

@[simp] theorem refuse_ok (failed : Bool) (status : Status) (reasons : List ReasonCode) :
    refuse failed status reasons = .ok () ↔ failed = false := by
  cases failed <;> simp [refuse]

@[simp] theorem refuseVerified_ok (failed : Bool) (status : Status) (reason : ReasonCode) (verified : List String) :
    refuseVerified failed status reason verified = .ok () ↔ failed = false := by
  cases failed <;> simp [refuseVerified]

theorem checkWhen_ok (needed : Bool) (check : Check Unit) : checkWhen needed check = .ok () ↔ (needed = true → check = .ok ()) := by
  cases needed <;> simp [checkWhen]

theorem noted_nil (present : Bool) (reason : ReasonCode) : noted present reason = [] ↔ present = false := by
  cases present <;> simp [noted]

variable {value a b : Value} {evaluatedAt : Moment} {handoff : Dict} {now : Int} {context : ValidationContext} {verified path : List String}
variable {verifiedAt : Moment}

theorem nonempty_text (filled : nonempty value = true) : ∃ s, value = .str s := by
  cases value with
  | str s => exact ⟨s,rfl⟩
  | _ => simp [nonempty] at filled

theorem pyEq_text (filled : nonempty b = true) (same : pyEq a b = true) : a = b := by
  obtain ⟨s,rfl⟩ := nonempty_text filled
  exact (pyEq_str a s).mp same

theorem text_pyEq (filled : nonempty a = true) (same : pyEq a b = true) : a = b := by
  obtain ⟨s,rfl⟩ := nonempty_text filled
  cases b <;> simp_all [pyEq,Value.number]

theorem isMapping_dict (mapping : isMapping value = true) : ∃ members : Dict, value = .dict members := by
  cases value with
  | dict members => exact ⟨members,rfl⟩
  | _ => simp [isMapping] at mapping

theorem digestOf_ok :
    digestOf sha256 value = .ok digest ↔ ∃ text, canonicalJsonDumps (assertionDocument value) = some text ∧ digest = .str (sha256 text) := by
  unfold digestOf canonicalHandoffAssertionValueDigest
  cases canonicalJsonDumps (assertionDocument value) with
  | none => simp
  | some text => simp [eq_comm]

structure Structured (handoff : Value) (members : Dict) : Prop where
  mapping : handoff = .dict members
  sections : ∀ key ∈ requiredObjects, isMapping (members.get key) = true
  nullable : ∀ key ∈ nullableObjects, members.get key = .none ∨ isMapping (members.get key) = true
  created : (timestamp (members.get "created_at")).isSome = true
  expires : members.get "expires_at" = .none ∨ (timestamp (members.get "expires_at")).isSome = true

theorem checkStructure_ok {handoff : Value} {members : Dict} (checked : checkStructure evaluatedAt handoff = .ok members) :
    aware evaluatedAt = true ∧ Structured handoff members := by
  unfold checkStructure at checked
  simp only [except_then_ok,malformed_ok,Bool.not_eq_false',Except.ok.injEq] at checked
  obtain ⟨zoned,mapping,_,sections,nullable,_,_,_,_,times,rfl⟩ := checked
  obtain ⟨members,rfl⟩ := isMapping_dict mapping
  have whole : (Value.dict members).asDict?.getD [] = members := rfl
  rw [whole] at sections nullable times ⊢
  refine ⟨zoned,rfl,?_,?_,?_,?_⟩
  · intro key listed
    have present := (Bool.or_eq_false_iff.mp sections).1
    simpa using List.any_eq_false.mp present key listed
  · intro key listed
    have either := List.any_eq_false.mp nullable key listed
    by_cases absent : members.get key = .none
    · exact .inl absent
    · exact .inr (by simpa [absent] using either)
  · have known := (Bool.or_eq_false_iff.mp times).1
    cases time : timestamp (members.get "created_at") <;> simp_all
  · have known := (Bool.or_eq_false_iff.mp times).2
    by_cases absent : members.get "expires_at" = .none
    · exact .inl absent
    · right
      cases time : timestamp (members.get "expires_at") <;> simp_all

structure LineageAgrees (handoff : Dict) : Prop where
  requested : nonempty ((sectionOf handoff "source_decision").get "request_id") = true
  trustlog : (sectionOf handoff "source_decision").get "request_id" = (sectionOf handoff "trustlog_lineage").get "request_id"
  replay : (sectionOf handoff "source_decision").get "request_id" = (sectionOf handoff "replay_lineage").get "request_id"
  decision : pyEq ((sectionOf handoff "source_decision").get "canonical_decision_id")
    ((sectionOf handoff "decision_lineage").get "decision_id") = true

theorem checkLineage_ok (checked : checkLineage handoff = .ok []) : LineageAgrees handoff := by
  unfold checkLineage at checked
  simp only [except_then_ok,malformed_ok,Bool.not_eq_false',Bool.and_eq_true,Except.ok.injEq,List.append_eq_nil_iff,noted_nil,
    Bool.or_eq_false_iff] at checked
  obtain ⟨⟨⟨requested,_⟩,_⟩,_,⟨⟨same,_⟩,trustlog,replay⟩,_⟩ := checked
  exact ⟨requested,text_pyEq requested trustlog,text_pyEq requested replay,same⟩

structure InForce (evidence : Dict) (start : String) (now : Int) : Prop where
  begun : ∃ issued, timestamp (evidence.get start) = some issued ∧ issued ≤ now
  open_ : ∃ expires, timestamp (evidence.get "expires_at") = some expires ∧ now ≤ expires

theorem checkPeriod_ok (checked : checkPeriod evidence start now late invalid = .ok []) : InForce evidence start now := by
  unfold checkPeriod at checked
  simp only [except_then_ok,malformed_ok,Bool.or_eq_false_iff] at checked
  obtain ⟨⟨ends,begins⟩,period⟩ := checked
  cases expires : timestamp (evidence.get "expires_at") with
  | none => simp [expires] at ends
  | some last =>
    cases issued : timestamp (evidence.get start) with
    | none => simp [issued] at begins
    | some first =>
      simp only [expires,issued,Option.getD_some] at period
      split at period
      · cases period
      · rename_i kept
        simp only [Except.ok.injEq,noted_nil,Bool.or_eq_false_iff,decide_eq_false_iff_not] at period
        exact ⟨⟨first,issued,by omega⟩,⟨last,expires,by omega⟩⟩

theorem checkAuthority_ok (given : optionalSection handoff "authority_evidence" = some authority)
    (acted : actionOf handoff = some action) (fields : candidateFieldsPresent handoff = true)
    (checked : checkAuthority handoff now = .ok []) :
    authorityMismatch authority (sectionOf handoff "candidate") action = false ∧ InForce authority "issued_at" now := by
  unfold checkAuthority at checked
  rw [given,acted,fields] at checked
  obtain ⟨period,timed,done⟩ := bind_ok.mp checked
  simp only [Except.ok.injEq,List.append_eq_nil_iff,noted_nil] at done
  obtain ⟨matched,rfl⟩ := done
  exact ⟨matched,checkPeriod_ok timed⟩

theorem checkApproval_ok (given : optionalSection handoff "human_approval_evidence" = some approval)
    (acted : actionOf handoff = some action) (fields : candidateFieldsPresent handoff = true)
    (checked : checkApproval handoff now = .ok []) :
    approvalMismatch approval (sectionOf handoff "candidate") action = false ∧ InForce approval "approved_at" now := by
  unfold checkApproval at checked
  rw [given,acted,fields] at checked
  obtain ⟨period,timed,done⟩ := bind_ok.mp checked
  simp only [Except.ok.injEq,List.append_eq_nil_iff,noted_nil] at done
  obtain ⟨matched,rfl⟩ := done
  exact ⟨matched,checkPeriod_ok timed⟩

structure PolicyHolds (policy : Dict) (now : Int) : Prop where
  standing : policy.get "superseded" ≠ .bool true
  named : ∀ key ∈ ["snapshot_id","version","semantic_digest"], nonempty (policy.get key) = true
  period : InForce policy "effective_at" now

theorem checkPolicy_ok (given : optionalSection handoff "policy_lineage" = some policy)
    (checked : checkPolicy handoff now invalid = .ok ()) : PolicyHolds policy now := by
  unfold checkPolicy at checked
  rw [given] at checked
  simp only [except_then_ok,malformed_ok,refuse_ok,Bool.or_eq_false_iff,decide_eq_false_iff_not] at checked
  obtain ⟨_,⟨begins,ends⟩,_,⟨⟨⟨standing,begun⟩,open_⟩,_⟩,named⟩ := checked
  refine ⟨by simpa using standing,fun key listed => by simpa using List.any_eq_false.mp named key listed,?_,?_⟩
  · cases effective : timestamp (policy.get "effective_at") with
    | none => simp [effective] at begins
    | some first => exact ⟨first,rfl,by simpa [effective] using begun⟩
  · cases expires : timestamp (policy.get "expires_at") with
    | none => simp [expires] at ends
    | some last => exact ⟨last,rfl,by simpa [expires] using open_⟩

structure StateObserved (state : Dict) (now : Int) : Prop where
  observed : ∃ time, timestamp (state.get "observed_at") = some time ∧ time ≤ now
  named : ∀ key ∈ ["fingerprint","source_ref"], nonempty (state.get key) = true

theorem checkState_ok (given : optionalSection handoff "expected_state" = some state)
    (checked : checkState handoff now = .ok []) : StateObserved state now := by
  unfold checkState at checked
  rw [given] at checked
  simp only [except_then_ok,malformed_ok,Except.ok.injEq,noted_nil,Bool.or_eq_false_iff,decide_eq_false_iff_not] at checked
  obtain ⟨known,early,named⟩ := checked
  refine ⟨?_,fun key listed => by simpa using List.any_eq_false.mp named key listed⟩
  cases time : timestamp (state.get "observed_at") with
  | none => simp [time] at known
  | some observed => exact ⟨observed,rfl,by simpa [time] using early⟩

structure Complete (handoff : Dict) (now : Int) : Prop where
  decisionId : nonempty ((sectionOf handoff "source_decision").get "canonical_decision_id") = true
  decisionHash : nonempty ((sectionOf handoff "source_decision").get "canonical_decision_hash") = true
  decisionTs : nonempty ((sectionOf handoff "source_decision").get "canonical_decision_ts") = true
  candidate : candidateFieldsPresent handoff = true
  action : ∃ action, actionOf handoff = some action ∧ nonempty (action.get "contract_id") = true ∧ nonempty (action.get "version") = true ∧
    isMapping (action.get "parameters") = true
  authority : (sectionOf handoff "authority_requirement").get "required" = .bool true →
    (optionalSection handoff "authority_evidence").isSome = true
  policy : (optionalSection handoff "policy_lineage").isSome = true
  state : (optionalSection handoff "expected_state").isSome = true
  candidateHash : nonempty (handoff.get "candidate_hash") = true
  candidateId : (optionalSection handoff "human_approval_evidence").isSome = true →
    nonempty ((sectionOf handoff "candidate").get "candidate_id") = true
  trustlog : nonempty ((sectionOf handoff "trustlog_lineage").get "artifact_ref") = true ∧
    nonempty ((sectionOf handoff "trustlog_lineage").get "chain_hash") = true
  replay : nonempty ((sectionOf handoff "replay_lineage").get "artifact_ref") = true ∧
    nonempty ((sectionOf handoff "replay_lineage").get "artifact_hash") = true
  unexpired : (handoff.get "expires_at").truthy = true → ∀ expires, timestamp (handoff.get "expires_at") = some expires → now ≤ expires

theorem checkGaps_ok (checked : checkGaps handoff now = .ok ()) : Complete handoff now := by
  unfold checkGaps at checked
  simp only [except_then_ok,malformed_ok,refuse_ok,Bool.not_eq_false',List.isEmpty_iff,List.append_eq_nil_iff,noted_nil,
    Bool.or_eq_false_iff] at checked
  obtain ⟨_,_,⟨_,hash⟩,approved,_,kept,gaps⟩ := checked
  obtain ⟨⟨⟨⟨⟨⟨⟨⟨⟨⟨decisionId,decisionHash⟩,decisionTs⟩,actor⟩,system,resource⟩,act⟩,authorized⟩,policy⟩,state⟩,⟨_,trustRef⟩,chain⟩,⟨_,replayRef⟩,replayHash⟩ := gaps
  refine ⟨decisionId,decisionHash,decisionTs,?_,?_,?_,?_,?_,hash,?_,⟨trustRef,chain⟩,⟨replayRef,replayHash⟩,?_⟩
  · simp [candidateFieldsPresent,actor,system,resource]
  · unfold actionGaps at act
    cases found : actionOf handoff with
    | none => simp [found] at act
    | some action =>
      simp only [found,noted_nil,Bool.or_eq_false_iff,Bool.not_eq_false'] at act
      exact ⟨action,rfl,act.1.1,act.1.2,act.2⟩
  · intro required
    unfold authorityGaps at authorized
    dsimp only at authorized
    split at authorized
    · cases authorized
    · simpa [noted_nil,required] using authorized
  · simpa using policy
  · simpa using state
  · intro given
    simpa [given] using approved
  · intro given expires known
    unfold handoffExpired at kept
    dsimp only at kept
    rw [if_pos given,known] at kept
    have open_ := (Bool.or_eq_false_iff.mp kept).2
    simpa using open_

structure CandidateBound (context : ValidationContext) (handoff : Dict) : Prop where
  binding : ∃ claimed digest, context.candidateHashBinding = some claimed ∧ claimed.claim = .str "CANDIDATE_HASH_BINDS_CANDIDATE" ∧
    canonicalHandoffAssertionValueDigest sha256 (.dict (sectionOf handoff "candidate")) = some digest ∧
    claimed.candidateValueDigest = .str digest ∧ claimed.assertedCandidateHash = handoff.get "candidate_hash"

theorem binding_ok (checked : bindingMismatch sha256 now context.candidateHashBinding handoff = .ok false)
    (trusted : bindingTrustworthy now context.candidateHashBinding = true) (hashed : nonempty (handoff.get "candidate_hash") = true) :
    CandidateBound sha256 context handoff := by
  unfold bindingMismatch at checked
  cases given : context.candidateHashBinding with
  | none => simp [given,bindingTrustworthy] at trusted
  | some claimed =>
    rw [given] at trusted
    simp only [given,trusted,Bool.not_true,Bool.false_eq_true,if_false] at checked
    split at checked
    · cases checked
    · rename_i named
      obtain ⟨digest,digested,same⟩ := bind_ok.mp checked
      simp only [Except.ok.injEq,Bool.or_eq_false_iff,Bool.not_eq_false'] at same
      obtain ⟨text,dumped,rfl⟩ := (digestOf_ok sha256).mp digested
      exact ⟨claimed,sha256 text,given,by simpa using named,by simp [canonicalHandoffAssertionValueDigest,dumped],(pyEq_str _ _).mp same.1,
        pyEq_text hashed same.2⟩

theorem target_ok (fields : candidateFieldsPresent handoff = true) (checked : targetMismatch handoff = false) :
    (sectionOf handoff "target_context").get "target_system" = (sectionOf handoff "candidate").get "target_system" ∧
      (sectionOf handoff "target_context").get "target_resource" = (sectionOf handoff "candidate").get "target_resource" := by
  simp only [candidateFieldsPresent,Bool.and_eq_true] at fields
  simp only [targetMismatch,fields.1.2,fields.2,Bool.and_self,Bool.true_and,Bool.or_eq_false_iff,Bool.not_eq_false'] at checked
  exact ⟨(text_pyEq fields.1.2 checked.1.1).symm,(text_pyEq fields.2 checked.1.2).symm⟩

-- A path leads to the value that the only trusted assertion about it was made of.
structure Asserted (context : ValidationContext) (handoff : Value) (path : List String) (value : Value) : Prop where
  resolved : resolve handoff path = some value
  asserted : ∃ assertion digest, assertionsFor context path = [assertion] ∧
    canonicalHandoffAssertionValueDigest sha256 value = some digest ∧ assertion.valueDigest = .str digest

theorem checkPath_ok (checked : checkPath sha256 context now handoff verified path = .ok ()) :
    ∃ value, Asserted sha256 context (.dict handoff) path value := by
  unfold checkPath at checked
  dsimp only at checked
  split at checked
  · rename_i value record assertion resolved known only
    simp only [except_then_ok,refuseVerified_ok] at checked
    obtain ⟨_,_,_,_,digested⟩ := checked
    obtain ⟨digest,found,same⟩ := bind_ok.mp digested
    simp only [refuseVerified_ok,Bool.or_eq_false_iff,Bool.not_eq_false'] at same
    obtain ⟨text,dumped,rfl⟩ := (digestOf_ok sha256).mp found
    exact ⟨value,resolved,assertion,sha256 text,only,by simp [canonicalHandoffAssertionValueDigest,dumped],(pyEq_str _ _).mp same.1.1.1⟩
  · simp at checked

theorem checkPaths_ok (checked : checkPaths sha256 context now handoff verified paths = .ok done) :
    ∀ path ∈ paths, ∃ value, Asserted sha256 context (.dict handoff) path value := by
  induction paths generalizing verified with
  | nil => simp
  | cons path rest ih =>
    obtain ⟨passed,later⟩ := except_then_ok.mp checked
    exact List.forall_mem_cons.mpr ⟨checkPath_ok sha256 passed,ih later⟩

-- The evidence says that it is valid for this candidate's contract and target, and holds now.
structure AuthorityStands (handoff : Dict) (now : Int) : Prop where
  evidence : ∃ authority action, optionalSection handoff "authority_evidence" = some authority ∧ actionOf handoff = some action ∧
    authority.get "validation_result" = .str "VALID" ∧
    authority.get "actor_identity" = (sectionOf handoff "candidate").get "actor_identity" ∧
    authority.get "action_contract_id" = action.get "contract_id" ∧
    authority.get "target_system" = (sectionOf handoff "candidate").get "target_system" ∧
    authority.get "target_scope" = (sectionOf handoff "candidate").get "target_resource" ∧ InForce authority "issued_at" now ∧
    ∀ key ∈ ["evidence_ref","evidence_hash"], nonempty (authority.get key) = true

structure ApprovalStands (handoff : Dict) (now : Int) : Prop where
  evidence : ∃ approval action, optionalSection handoff "human_approval_evidence" = some approval ∧ actionOf handoff = some action ∧
    approval.get "validation_result" = .str "VALID" ∧ approval.get "candidate_ref" = (sectionOf handoff "candidate").get "candidate_id" ∧
    approval.get "action_contract_id" = action.get "contract_id" ∧
    approval.get "target_resource" = (sectionOf handoff "candidate").get "target_resource" ∧ InForce approval "approved_at" now ∧
    ∀ key ∈ ["receipt_ref","receipt_hash"], nonempty (approval.get key) = true

theorem authority_stands (complete : Complete handoff now) (checked : checkAuthority handoff now = .ok [])
    (given : (optionalSection handoff "authority_evidence").isSome = true) : AuthorityStands handoff now := by
  obtain ⟨authority,present⟩ := Option.isSome_iff_exists.mp given
  obtain ⟨action,acted,contract,_⟩ := complete.action
  obtain ⟨matched,period⟩ := checkAuthority_ok present acted complete.candidate checked
  have fields := complete.candidate
  simp only [candidateFieldsPresent,Bool.and_eq_true] at fields
  simp only [authorityMismatch,Bool.or_eq_false_iff,Bool.not_eq_false'] at matched
  obtain ⟨⟨⟨⟨⟨⟨⟨actor,named⟩,system⟩,resource⟩,valid⟩,_⟩,ref⟩,hash⟩ := matched
  exact ⟨authority,action,present,acted,by simpa using valid,pyEq_text fields.1.1 actor,pyEq_text contract named,
    pyEq_text fields.1.2 system,pyEq_text fields.2 resource,period,by simp [ref,hash]⟩

theorem approval_stands (complete : Complete handoff now) (checked : checkApproval handoff now = .ok [])
    (given : (optionalSection handoff "human_approval_evidence").isSome = true) : ApprovalStands handoff now := by
  obtain ⟨approval,present⟩ := Option.isSome_iff_exists.mp given
  obtain ⟨action,acted,contract,_⟩ := complete.action
  obtain ⟨matched,period⟩ := checkApproval_ok present acted complete.candidate checked
  have fields := complete.candidate
  simp only [candidateFieldsPresent,Bool.and_eq_true] at fields
  simp only [approvalMismatch,Bool.or_eq_false_iff,Bool.not_eq_false'] at matched
  obtain ⟨⟨⟨⟨⟨⟨candidate,named⟩,resource⟩,_⟩,ref⟩,hash⟩,valid⟩ := matched
  exact ⟨approval,action,present,acted,by simpa using valid,pyEq_text (complete.candidateId given) candidate,pyEq_text contract named,
    pyEq_text fields.2 resource,period,by simp [ref,hash]⟩

structure ReadyHandoff (context : ValidationContext) (evaluatedAt : Moment) (handoff : Value) (members : Dict) : Prop where
  zoned : aware evaluatedAt = true
  structured : Structured handoff members
  lineage : LineageAgrees members
  target : (sectionOf members "target_context").get "target_system" = (sectionOf members "candidate").get "target_system" ∧
    (sectionOf members "target_context").get "target_resource" = (sectionOf members "candidate").get "target_resource"
  candidate : CandidateBound sha256 context members
  policy : ∃ policy, optionalSection members "policy_lineage" = some policy ∧ PolicyHolds policy (instant evaluatedAt)
  complete : Complete members (instant evaluatedAt)
  state : ∃ state, optionalSection members "expected_state" = some state ∧ StateObserved state (instant evaluatedAt)
  authority : (sectionOf members "authority_requirement").get "required" = .bool true ∨
    (optionalSection members "authority_evidence").isSome = true → AuthorityStands members (instant evaluatedAt)
  approval : (sectionOf members "human_approval_requirement").get "required" = .bool true ∨
    (optionalSection members "human_approval_evidence").isSome = true → ApprovalStands members (instant evaluatedAt)
  paths : ∀ path ∈ mandatoryPaths, ∃ value, Asserted sha256 context handoff path value

theorem runChecks_ok {handoff : Value} (ran : runChecks sha256 handoff context evaluatedAt = .ok verified) :
    ∃ members, ReadyHandoff sha256 context evaluatedAt handoff members := by
  unfold runChecks at ran
  obtain ⟨members,structure_,ran⟩ := bind_ok.mp ran
  obtain ⟨_,ran⟩ := except_then_ok.mp ran
  obtain ⟨lineage,agreed,ran⟩ := bind_ok.mp ran
  obtain ⟨_,ran⟩ := except_then_ok.mp ran
  obtain ⟨authority,authorized,ran⟩ := bind_ok.mp ran
  obtain ⟨approval,approved,ran⟩ := bind_ok.mp ran
  obtain ⟨policy,ran⟩ := except_then_ok.mp ran
  obtain ⟨state,observed,ran⟩ := bind_ok.mp ran
  obtain ⟨mismatch,bound,ran⟩ := bind_ok.mp ran
  simp only [except_then_ok,refuse_ok,Bool.not_eq_false',List.isEmpty_iff,List.append_eq_nil_iff,noted_nil,checkWhen_ok] at ran
  obtain ⟨⟨⟨⟨⟨rfl,target⟩,rfl⟩,rfl⟩,rfl⟩,_,given,gaps,trusted,rfl,_,_,paths⟩ := ran
  obtain ⟨zoned,structured⟩ := checkStructure_ok structure_
  have complete := checkGaps_ok gaps
  obtain ⟨policyLineage,present⟩ := Option.isSome_iff_exists.mp complete.policy
  obtain ⟨expected,known⟩ := Option.isSome_iff_exists.mp complete.state
  refine ⟨members,zoned,structured,checkLineage_ok agreed,target_ok complete.candidate target,binding_ok sha256 bound trusted complete.candidateHash,
    ⟨policyLineage,present,checkPolicy_ok present policy⟩,complete,⟨expected,known,checkState_ok known observed⟩,?_,?_,?_⟩
  · intro needed
    exact authority_stands complete authorized (needed.elim complete.authority id)
  · intro needed
    refine approval_stands complete approved (needed.elim (fun required => ?_) id)
    cases evidence : optionalSection members "human_approval_evidence" with
    | none => simp [required,evidence] at given
    | some _ => rfl
  · rw [structured.mapping]
    exact checkPaths_ok sha256 paths

-- What a check may stop with: a report other than readiness, or an error that lawful inputs do not cause.
def Stop.Short (lawful : Prop) : Stop → Prop
  | .returned status _ _ _ => status ≠ .readyForGuardedPromotion
  | .raised _ => ¬lawful

def StopsShort (lawful : Prop) (check : Check α) : Prop := ∀ stop, check = .error stop → stop.Short lawful

theorem stopsShort_ok (value : α) : StopsShort lawful (.ok value : Check α) := by
  intro stop stopped
  cases stopped

theorem stopsShort_error (short : stop.Short lawful) : StopsShort lawful (.error stop : Check α) := by
  intro found stopped
  obtain rfl := Except.error.inj stopped
  exact short

theorem stopsShort_after (head : StopsShort lawful first)
    (later : ∀ value, first = .ok value → StopsShort lawful (f value)) : StopsShort lawful (first >>= f) := by
  cases first with
  | error stop => exact stopsShort_error (head stop rfl)
  | ok value => exact later value rfl

theorem stopsShort_bind (head : StopsShort lawful first) (later : ∀ value, StopsShort lawful (f value)) : StopsShort lawful (first >>= f) :=
  stopsShort_after head fun value _ => later value

theorem stopsShort_malformed (failed : Bool) : StopsShort lawful (malformed failed) := by
  cases failed with
  | false => exact stopsShort_ok ()
  | true => exact stopsShort_error (by simp [Stop.Short])

theorem stopsShort_refuse (failed : Bool) (reasons : List ReasonCode)
    (other : status ≠ .readyForGuardedPromotion) : StopsShort lawful (refuse failed status reasons) := by
  cases failed with
  | false => exact stopsShort_ok ()
  | true => exact stopsShort_error other

theorem stopsShort_refuseVerified (failed : Bool) (reason : ReasonCode) (done : List String)
    (other : status ≠ .readyForGuardedPromotion) : StopsShort lawful (refuseVerified failed status reason done) := by
  cases failed with
  | false => exact stopsShort_ok ()
  | true => exact stopsShort_error other

theorem stopsShort_when (inner : needed = true → StopsShort lawful check) : StopsShort lawful (checkWhen needed check) := by
  cases needed with
  | false => exact stopsShort_ok ()
  | true => exact inner rfl

theorem stopsShort_digestOf (json : lawful → isJson value = true) : StopsShort lawful (digestOf sha256 value) := by
  unfold digestOf canonicalHandoffAssertionValueDigest canonicalJsonDumps
  cases written : toJson true (assertionDocument value) with
  | some text => exact stopsShort_ok _
  | none =>
    refine stopsShort_error fun held => ?_
    have recorded := isJson_recordable (assertionDocument value) (by simp [assertionDocument,isJson,isJsonMembers,Key.isStr,json held])
    simp [Recordable,written] at recorded

theorem stopsShort_structure (evaluatedAt : Moment) (handoff : Value) : StopsShort lawful (checkStructure evaluatedAt handoff) := by
  unfold checkStructure
  repeat' first
    | exact stopsShort_ok _
    | refine stopsShort_bind (stopsShort_malformed _) fun _ => ?_

theorem stopsShort_lineage (handoff : Dict) : StopsShort lawful (checkLineage handoff) := by
  unfold checkLineage
  refine stopsShort_bind (stopsShort_malformed _) fun _ => stopsShort_bind (stopsShort_malformed _) fun _ => stopsShort_ok _

theorem stopsShort_period (evidence : Dict) (start : String) (now : Int) (late invalid : ReasonCode) :
    StopsShort lawful (checkPeriod evidence start now late invalid) := by
  refine stopsShort_bind (stopsShort_malformed _) fun _ => ?_
  split <;> exact stopsShort_ok _

theorem stopsShort_authority (handoff : Dict) (now : Int) : StopsShort lawful (checkAuthority handoff now) := by
  unfold checkAuthority
  split
  · exact stopsShort_bind (stopsShort_period _ _ _ _ _) fun _ => stopsShort_ok _
  · exact stopsShort_ok _

theorem stopsShort_approval (handoff : Dict) (now : Int) : StopsShort lawful (checkApproval handoff now) := by
  unfold checkApproval
  split
  · exact stopsShort_bind (stopsShort_period _ _ _ _ _) fun _ => stopsShort_ok _
  · exact stopsShort_ok _

theorem stopsShort_policy (handoff : Dict) (now : Int) (invalid : List ReasonCode) : StopsShort lawful (checkPolicy handoff now invalid) := by
  unfold checkPolicy
  split
  · exact stopsShort_ok _
  · refine stopsShort_bind (stopsShort_malformed _) fun _ => stopsShort_bind (stopsShort_malformed _) fun _ => ?_
    exact stopsShort_bind (stopsShort_refuse _ _ (by decide)) fun _ => stopsShort_refuse _ _ (by decide)

theorem stopsShort_state (handoff : Dict) (now : Int) : StopsShort lawful (checkState handoff now) := by
  unfold checkState
  split
  · exact stopsShort_ok _
  · exact stopsShort_bind (stopsShort_malformed _) fun _ => stopsShort_ok _

theorem stopsShort_mismatch (now : Int) (binding : Option CandidateHashBindingAssertion)
    (json : lawful → isJson (.dict (sectionOf handoff "candidate")) = true) :
    StopsShort lawful (bindingMismatch sha256 now binding handoff) := by
  unfold bindingMismatch
  repeat' split
  · exact stopsShort_ok _
  · exact stopsShort_ok _
  · exact stopsShort_ok _
  · exact stopsShort_bind (stopsShort_digestOf sha256 json) fun _ => stopsShort_ok _

theorem stopsShort_gaps (handoff : Dict) (now : Int) : StopsShort lawful (checkGaps handoff now) := by
  unfold checkGaps
  refine stopsShort_bind (stopsShort_malformed _) fun _ => stopsShort_bind (stopsShort_malformed _) fun _ => ?_
  refine stopsShort_bind (stopsShort_malformed _) fun _ => stopsShort_bind (stopsShort_malformed _) fun _ => ?_
  refine stopsShort_bind (stopsShort_malformed _) fun _ => stopsShort_bind (stopsShort_refuse _ _ (by decide)) fun _ => ?_
  exact stopsShort_refuse _ _ (by split <;> decide)

theorem stopsShort_authorityBinding (now : Int) (binding : Option AuthorityEvidenceRequirementBindingAssertion)
    (json : lawful → isJson (.dict handoff) = true) : StopsShort lawful (checkAuthorityBinding sha256 now binding handoff) := by
  unfold checkAuthorityBinding
  split
  · exact stopsShort_refuse _ _ (by decide)
  · refine stopsShort_bind (stopsShort_refuse _ _ (by decide)) fun _ => ?_
    refine stopsShort_bind (stopsShort_digestOf sha256 fun held => isJson_get (json held) _) fun _ => ?_
    refine stopsShort_bind (stopsShort_refuse _ _ (by decide)) fun _ => ?_
    refine stopsShort_bind (stopsShort_digestOf sha256 fun held => isJson_get (json held) _) fun _ => ?_
    exact stopsShort_refuse _ _ (by decide)

theorem resolve_json (json : isJson value = true) (resolved : resolve value path = some found) : isJson found = true := by
  induction path generalizing value with
  | nil =>
    obtain rfl := Option.some.inj resolved
    exact json
  | cons component rest ih =>
    cases value with
    | dict members =>
      obtain ⟨inner,held,later⟩ := Option.bind_eq_some_iff.mp resolved
      exact ih (isJson_lookup json held) later
    | _ => cases resolved

theorem stopsShort_path (context : ValidationContext) (now : Int) (verified path : List String)
    (json : lawful → isJson (.dict handoff) = true) : StopsShort lawful (checkPath sha256 context now handoff verified path) := by
  unfold checkPath
  dsimp only
  split
  · rename_i value record assertion resolved known only
    refine stopsShort_bind (stopsShort_refuseVerified _ _ _ (by decide)) fun _ => ?_
    refine stopsShort_bind (stopsShort_refuseVerified _ _ _ (by decide)) fun _ => ?_
    refine stopsShort_bind (stopsShort_refuseVerified _ _ _ (by decide)) fun _ => ?_
    refine stopsShort_bind (stopsShort_refuseVerified _ _ _ (by decide)) fun _ => ?_
    refine stopsShort_bind (stopsShort_digestOf sha256 fun held => resolve_json (json held) resolved) fun _ => ?_
    exact stopsShort_refuseVerified _ _ _ (by decide)
  · exact stopsShort_refuseVerified _ _ _ (by decide)

theorem stopsShort_paths (context : ValidationContext) (now : Int) (verified : List String) (paths : List (List String))
    (json : lawful → isJson (.dict handoff) = true) : StopsShort lawful (checkPaths sha256 context now handoff verified paths) := by
  induction paths generalizing verified with
  | nil => exact stopsShort_ok _
  | cons path rest ih => exact stopsShort_bind (stopsShort_path sha256 context now verified path json) fun _ => ih _

-- What the validator is promised: JSON data, and assertions about paths.
def Lawful (handoff : Value) (context : ValidationContext) : Prop :=
  isJson handoff = true ∧ ∀ assertion ∈ context.valueAssertions, unhashable assertion.fieldPath = false

theorem sectionOf_json {members : Dict} (json : isJson (.dict members) = true) (name : String) :
    isJson (.dict (sectionOf members name)) = true := by
  have inside := isJson_get json name
  unfold sectionOf
  cases held : members.get name with
  | dict inner =>
    rw [held] at inside
    exact inside
  | _ => rfl

theorem stopsShort_run (handoff : Value) (context : ValidationContext) (evaluatedAt : Moment) :
    StopsShort (Lawful handoff context) (runChecks sha256 handoff context evaluatedAt) := by
  unfold runChecks
  refine stopsShort_after (stopsShort_structure _ _) fun members checked => ?_
  obtain rfl := (checkStructure_ok checked).2.mapping
  refine stopsShort_bind (stopsShort_refuse _ _ (by decide)) fun _ => ?_
  refine stopsShort_bind (stopsShort_lineage _) fun _ => stopsShort_bind (stopsShort_malformed _) fun _ => ?_
  refine stopsShort_bind (stopsShort_authority _ _) fun _ => stopsShort_bind (stopsShort_approval _ _) fun _ => ?_
  refine stopsShort_bind (stopsShort_policy _ _ _) fun _ => stopsShort_bind (stopsShort_state _ _) fun _ => ?_
  refine stopsShort_bind (stopsShort_mismatch sha256 _ _ fun held => sectionOf_json held.1 _) fun _ => ?_
  refine stopsShort_bind (stopsShort_refuse _ _ (by decide)) fun _ => stopsShort_bind (stopsShort_refuse _ _ (by decide)) fun _ => ?_
  refine stopsShort_bind (stopsShort_refuse _ _ (by decide)) fun _ => stopsShort_bind (stopsShort_gaps _ _) fun _ => ?_
  refine stopsShort_bind (stopsShort_refuse _ _ (by decide)) fun _ => stopsShort_bind (stopsShort_refuse _ _ (by decide)) fun _ => ?_
  refine stopsShort_bind (stopsShort_when fun _ => stopsShort_authorityBinding sha256 _ _ fun held => held.1) fun _ => ?_
  refine stopsShort_bind (stopsShort_when fun found => stopsShort_error fun held => ?_) fun _ =>
    stopsShort_paths sha256 _ _ _ _ fun held => held.1
  obtain ⟨assertion,listed,path⟩ := List.any_eq_true.mp found
  simp [held.2 assertion listed] at path

theorem validated_ready {handoff : Value} {result : ValidationResult} :
    validateCanonicalDecisionHandoff sha256 handoff context evaluatedAt = .ok result ∧ result.ready = true ↔
      ∃ verified, runChecks sha256 handoff context evaluatedAt = .ok verified ∧
        result = resultOf handoff .readyForGuardedPromotion [] true verified := by
  have inside := stopsShort_run sha256 handoff context evaluatedAt
  unfold validateCanonicalDecisionHandoff
  cases ran : runChecks sha256 handoff context evaluatedAt with
  | ok verified =>
    constructor
    · rintro ⟨made,_⟩
      exact ⟨verified,rfl,(Except.ok.inj made).symm⟩
    · rintro ⟨_,same,rfl⟩
      obtain rfl := Except.ok.inj same
      exact ⟨rfl,rfl⟩
  | error stop =>
    constructor
    · rintro ⟨made,ready⟩
      cases stop with
      | raised error => cases made
      | returned status reasons valid verified =>
        obtain rfl := Except.ok.inj made
        have same : status = .readyForGuardedPromotion := of_decide_eq_true ready
        exact absurd same (inside _ ran)
    · rintro ⟨_,same,_⟩
      cases same

theorem asserted_same (left : isJson first = true) (right : isJson second = true)
    (one : Asserted sha256 context first path a) (other : Asserted sha256 context second path b)
    (apart : Distinguishes sha256 (assertionDocument a) (assertionDocument b)) : SameJson a b := by
  obtain ⟨assertion,digest,only,digested,claimed⟩ := one.asserted
  obtain ⟨again,redigest,onlyAgain,redigested,reclaimed⟩ := other.asserted
  obtain rfl : assertion = again := by simpa using only.symm.trans onlyAgain
  obtain rfl : digest = redigest := Value.str.inj (claimed.symm.trans reclaimed)
  obtain ⟨s,dumped,rfl⟩ := Option.map_eq_some_iff.mp digested
  obtain ⟨t,redumped,equal⟩ := Option.map_eq_some_iff.mp redigested
  have same := distinguished apart dumped redumped equal.symm
  have document {value : Value} (json : isJson value = true) : isJson (assertionDocument value) = true := by
    simp [assertionDocument,isJson,isJsonMembers,Key.isStr,json]
  exact sameJson_get (document (resolve_json left one.resolved)) (document (resolve_json right other.resolved)) same "value"

theorem ready_asserted (context : ValidationContext) :
    (∀ handoff evaluatedAt result, validateCanonicalDecisionHandoff sha256 handoff context evaluatedAt = .ok result → result.ready = true →
      ∃ members, ReadyHandoff sha256 context evaluatedAt handoff members) ∧
    ∀ first second firstAt secondAt found refound, isJson first = true → isJson second = true →
      validateCanonicalDecisionHandoff sha256 first context firstAt = .ok found → found.ready = true →
      validateCanonicalDecisionHandoff sha256 second context secondAt = .ok refound → refound.ready = true →
      (∀ path ∈ mandatoryPaths, ∀ a b, resolve first path = some a → resolve second path = some b →
        Distinguishes sha256 (assertionDocument a) (assertionDocument b)) →
      ∀ path ∈ mandatoryPaths, ∃ a b, resolve first path = some a ∧ resolve second path = some b ∧ SameJson a b := by
  have checked (handoff evaluatedAt result) (validated : validateCanonicalDecisionHandoff sha256 handoff context evaluatedAt = .ok result)
      (ready : result.ready = true) : ∃ members, ReadyHandoff sha256 context evaluatedAt handoff members := by
    obtain ⟨verified,ran,_⟩ := (validated_ready sha256).mp ⟨validated,ready⟩
    exact runChecks_ok sha256 ran
  refine ⟨checked,?_⟩
  intro first second firstAt secondAt found refound left right validated ready revalidated again apart path listed
  obtain ⟨_,one⟩ := checked first firstAt found validated ready
  obtain ⟨_,other⟩ := checked second secondAt refound revalidated again
  obtain ⟨a,asserted⟩ := one.paths path listed
  obtain ⟨b,reasserted⟩ := other.paths path listed
  exact ⟨a,b,asserted.resolved,reasserted.resolved,
    asserted_same sha256 left right asserted reasserted (apart path listed a b asserted.resolved reasserted.resolved)⟩

def digestText (value : Value) : Value := strValue (canonicalHandoffAssertionValueDigest sha256 value)

def assertionOf (handoff : Value) (verifiedAt : Moment) (path : List String) : TrustedValueAssertion where
  fieldPath := .str (pathText path)
  valueDigest := digestText sha256 ((resolve handoff path).getD .none)
  sourceArtifactRef := .str "artifact"
  sourceHash := .str "hash"
  verificationMechanism := .str "registry"
  verifiedAt := verifiedAt
  claims := [.str humanApprovalClaim]

def contextOf (handoff : Dict) (verifiedAt : Moment) : ValidationContext where
  valueAssertions := mandatoryPaths.map (assertionOf sha256 (.dict handoff) verifiedAt)
  candidateHashBinding := some ⟨digestText sha256 (.dict (sectionOf handoff "candidate")),handoff.get "candidate_hash",.str "profile",
    .str "artifact",.str "hash",.str "registry",verifiedAt,.str "CANDIDATE_HASH_BINDS_CANDIDATE"⟩
  authorityRequirementBinding := some ⟨digestText sha256 (handoff.get "authority_requirement"),
    digestText sha256 (handoff.get "authority_evidence"),.str "artifact",.str "hash",.str "registry",verifiedAt,.str authorityClaim⟩

theorem digest_text (json : isJson value = true) : digestOf sha256 value = .ok (digestText sha256 value) := by
  have recorded := isJson_recordable (assertionDocument value) (by simp [assertionDocument,isJson,isJsonMembers,Key.isStr,json])
  obtain ⟨text,written⟩ := Option.isSome_iff_exists.mp recorded
  simp [digestOf,digestText,canonicalHandoffAssertionValueDigest,canonicalJsonDumps,written,strValue]

theorem digest_pyEq (value : Value) : pyEq (digestText sha256 value) (digestText sha256 value) = true := by
  unfold digestText
  cases canonicalHandoffAssertionValueDigest sha256 value <;> simp [strValue,pyEq]

theorem assertionsFor_made (handoff : Dict) (verifiedAt : Moment) (listed : path ∈ mandatoryPaths) :
    assertionsFor (contextOf sha256 handoff verifiedAt) path = [assertionOf sha256 (.dict handoff) verifiedAt path] := by
  unfold assertionsFor contextOf
  rw [List.filter_map]
  have only : mandatoryPaths.filter (fun other => pathText other == pathText path) = [path] := by
    revert path
    decide
  have same : ((fun assertion : TrustedValueAssertion => assertion.fieldPath == Value.str (pathText path)) ∘
      assertionOf sha256 (.dict handoff) verifiedAt) = fun other => pathText other == pathText path := by
    funext other
    simp [assertionOf]
  rw [same,only]
  rfl

-- What a handoff shows about a path whatever the context asserts.
def recordHolds (handoff : Dict) (path : List String) : Bool :=
  match resolve (.dict handoff) path,(provenanceOf handoff).find? fun record => record.get "field_path" == .str (pathText path) with
  | some value,some record => record.get "verification_status" == .str "VERIFIED" &&
      !among forbiddenReadyProvenanceClasses (record.get "provenance_class") && pyEq (record.get "value") value &&
      record.get "source_artifact_ref" == .none && record.get "source_hash" == .none
  | _,_ => false

theorem checkPath_made (json : isJson (.dict handoff) = true) (zoned : aware verifiedAt = true) (earlier : instant verifiedAt ≤ now)
    (listed : path ∈ mandatoryPaths) (held : recordHolds handoff path = true) (verified : List String) :
    checkPath sha256 (contextOf sha256 handoff verifiedAt) now handoff verified path = .ok () := by
  unfold recordHolds at held
  cases resolved : resolve (.dict handoff) path with
  | none => simp [resolved] at held
  | some value =>
    cases found : (provenanceOf handoff).find? fun record => record.get "field_path" == .str (pathText path) with
    | none => simp [resolved,found] at held
    | some record =>
      simp only [resolved,found,Bool.and_eq_true,beq_iff_eq,Bool.not_eq_true'] at held
      obtain ⟨⟨⟨⟨status,class_⟩,same⟩,source⟩,hash⟩ := held
      have digested := digest_text sha256 (resolve_json json resolved)
      unfold checkPath
      simp only [resolved,found,assertionsFor_made sha256 handoff verifiedAt listed,except_then_ok,refuseVerified_ok]
      have late : decide (now < instant verifiedAt) = false := decide_eq_false (by omega)
      refine ⟨by simp [status,class_],Bool.or_eq_false_iff.mpr ⟨by simp [assertionOf,zoned],late⟩,by simp [assertionOf],by simp [same],?_⟩
      refine bind_ok.mpr ⟨_,digested,?_⟩
      simp [source,hash,assertionOf,resolved,digest_pyEq,Value.truthy]

theorem checkPaths_made (json : isJson (.dict handoff) = true) (zoned : aware verifiedAt = true) (earlier : instant verifiedAt ≤ now)
    (listed : ∀ path ∈ paths, path ∈ mandatoryPaths ∧ recordHolds handoff path = true) (verified : List String) :
    checkPaths sha256 (contextOf sha256 handoff verifiedAt) now handoff verified paths = .ok (verified ++ paths.map pathText) := by
  induction paths generalizing verified with
  | nil => simp [checkPaths]
  | cons path rest ih =>
    rw [List.forall_mem_cons] at listed
    have passed := checkPath_made sha256 json zoned earlier listed.1.1 listed.1.2 verified
    refine except_then_ok.mpr ⟨passed,?_⟩
    rw [ih listed.2]
    simp

def checkAlone (handoff : Value) (evaluatedAt : Moment) : Check Dict := do
  let now := instant evaluatedAt
  let members ← checkStructure evaluatedAt handoff
  refuse ((sectionOf members "candidate").get "lineage_promotability" != .str "promotable") .structurallyRefused [.lineageNonPromotable]
  let lineage ← checkLineage members
  malformed !requirementsTyped members
  let authority ← checkAuthority members now
  let approval ← checkApproval members now
  let found := lineage ++ noted (targetMismatch members) .targetContextMismatch ++ authority ++ approval
  checkPolicy members now found
  let state ← checkState members now
  let invalid := found ++ state
  refuse (!invalid.isEmpty) .invalid (distinct invalid)
  let approvalRequirement := sectionOf members "human_approval_requirement"
  refuse (approvalRequirement.get "resolved" != .bool true) .incomplete [.approvalRequirementUnresolved]
  refuse (approvalRequirement.get "required" == .bool true && (optionalSection members "human_approval_evidence").isNone)
    .reviewRequired [.approvalEvidenceMissing]
  checkGaps members now
  .ok members

theorem runChecks_made (json : isJson (.dict handoff) = true) (alone : checkAlone (.dict handoff) evaluatedAt = .ok handoff)
    (zoned : aware verifiedAt = true) (earlier : instant verifiedAt ≤ instant evaluatedAt)
    (recorded : ∀ path ∈ mandatoryPaths, recordHolds handoff path = true) :
    runChecks sha256 (.dict handoff) (contextOf sha256 handoff verifiedAt) evaluatedAt = .ok (mandatoryPaths.map pathText) := by
  unfold checkAlone at alone
  obtain ⟨members,structure_,alone⟩ := bind_ok.mp alone
  obtain ⟨promotable,alone⟩ := except_then_ok.mp alone
  obtain ⟨lineage,agreed,alone⟩ := bind_ok.mp alone
  obtain ⟨typed,alone⟩ := except_then_ok.mp alone
  obtain ⟨authority,authorized,alone⟩ := bind_ok.mp alone
  obtain ⟨approval,approved,alone⟩ := bind_ok.mp alone
  obtain ⟨policy,alone⟩ := except_then_ok.mp alone
  obtain ⟨state,observed,alone⟩ := bind_ok.mp alone
  obtain ⟨consistent,alone⟩ := except_then_ok.mp alone
  obtain ⟨resolved,alone⟩ := except_then_ok.mp alone
  obtain ⟨given,alone⟩ := except_then_ok.mp alone
  obtain ⟨gaps,same⟩ := except_then_ok.mp alone
  obtain rfl := Except.ok.inj same
  have complete := checkGaps_ok gaps
  have trusted : bindingTrustworthy (instant evaluatedAt) (contextOf sha256 members verifiedAt).candidateHashBinding = true := by
    simp [contextOf,bindingTrustworthy,zoned,earlier,Value.truthy]
  have matched : bindingMismatch sha256 (instant evaluatedAt) (contextOf sha256 members verifiedAt).candidateHashBinding members = .ok false := by
    have hash : pyEq (members.get "candidate_hash") (members.get "candidate_hash") = true := pyEq_refl _ (isJson_get json _)
    unfold bindingMismatch
    simp only [contextOf] at trusted ⊢
    rw [trusted]
    exact bind_ok.mpr ⟨_,digest_text sha256 (sectionOf_json json _),by simp [digest_pyEq,hash]⟩
  have bound : checkAuthorityBinding sha256 (instant evaluatedAt) (contextOf sha256 members verifiedAt).authorityRequirementBinding members =
      .ok () := by
    unfold checkAuthorityBinding
    simp only [contextOf]
    refine except_then_ok.mpr ⟨by simp [zoned,earlier,Value.truthy],?_⟩
    refine bind_ok.mpr ⟨_,digest_text sha256 (isJson_get json _),except_then_ok.mpr ⟨by simp [digest_pyEq],?_⟩⟩
    exact bind_ok.mpr ⟨_,digest_text sha256 (isJson_get json _),by simp [digest_pyEq]⟩
  unfold runChecks
  refine bind_ok.mpr ⟨_,structure_,except_then_ok.mpr ⟨promotable,bind_ok.mpr ⟨_,agreed,except_then_ok.mpr ⟨typed,?_⟩⟩⟩⟩
  refine bind_ok.mpr ⟨_,authorized,bind_ok.mpr ⟨_,approved,except_then_ok.mpr ⟨policy,bind_ok.mpr ⟨_,observed,?_⟩⟩⟩⟩
  refine bind_ok.mpr ⟨_,matched,except_then_ok.mpr ⟨?_,except_then_ok.mpr ⟨resolved,except_then_ok.mpr ⟨given,except_then_ok.mpr ⟨gaps,?_⟩⟩⟩⟩⟩
  · simpa using consistent
  · refine except_then_ok.mpr ⟨by simp [trusted],except_then_ok.mpr ⟨by simp,except_then_ok.mpr ⟨(checkWhen_ok _ _).mpr fun _ => bound,?_⟩⟩⟩
    refine except_then_ok.mpr ⟨(checkWhen_ok _ _).mpr fun found => ?_,checkPaths_made sha256 json zoned earlier (fun path listed => ⟨listed,recorded path listed⟩) []⟩
    simp [contextOf,assertionOf,unhashable] at found

end Validation

def sampleAuthority : Dict :=
  [(.str "validation_result",.str "VALID"),(.str "actor_identity",.str "actor"),(.str "action_contract_id",.str "transfer"),
   (.str "target_system",.str "ledger"),(.str "target_scope",.str "account"),(.str "issuer",.str "iam"),
   (.str "issued_at",.str "2029-01-01T00:00:00Z"),(.str "expires_at",.str "2031-01-01T00:00:00Z"),
   (.str "evidence_ref",.str "authority"),(.str "evidence_hash",.str "authority-hash")]

def sampleApproval : Dict :=
  [(.str "validation_result",.str "VALID"),(.str "approver_identity",.str "approver"),(.str "candidate_ref",.str "candidate"),
   (.str "action_contract_id",.str "transfer"),(.str "target_resource",.str "account"),(.str "approved_at",.str "2029-01-01T00:00:00Z"),
   (.str "expires_at",.str "2031-01-01T00:00:00Z"),(.str "receipt_ref",.str "approval"),(.str "receipt_hash",.str "approval-hash")]

def sampleRequirement (required : Bool) : Value := .dict [(.str "resolved",.bool true),(.str "required",.bool required)]

def sampleFields (handoffId : String) (approved : Bool) : Dict :=
  [(.str "format_version",.str "canonical-decision-handoff/v1"),(.str "handoff_id",.str handoffId),
   (.str "source_decision",.dict [(.str "request_id",.str "request"),(.str "canonical_decision_id",.str "decision"),
     (.str "canonical_decision_hash",.str "decision-hash"),(.str "canonical_decision_ts",.str "2029-01-01T00:00:00Z")]),
   (.str "candidate",.dict [(.str "candidate_id",.str "candidate"),(.str "actor_identity",.str "actor"),(.str "target_system",.str "ledger"),
     (.str "target_resource",.str "account"),(.str "canonical_action",.dict [(.str "contract_id",.str "transfer"),(.str "version",.str "1"),
       (.str "parameters",.dict [(.str "amount",.str "100.00")])]),(.str "lineage_promotability",.str "promotable")]),
   (.str "candidate_hash",.str "candidate-hash"),(.str "decision_lineage",.dict [(.str "decision_id",.str "decision")]),
   (.str "trustlog_lineage",.dict [(.str "verified",.bool true),(.str "request_id",.str "request"),(.str "artifact_ref",.str "trustlog"),
     (.str "chain_hash",.str "trustlog-hash")]),
   (.str "replay_lineage",.dict [(.str "verified",.bool true),(.str "request_id",.str "request"),(.str "artifact_ref",.str "replay"),
     (.str "artifact_hash",.str "replay-hash")]),
   (.str "policy_lineage",.dict [(.str "snapshot_id",.str "policy"),(.str "version",.str "1"),(.str "semantic_digest",.str "policy-hash"),
     (.str "policy_ids",.list [.str "policy"]),(.str "effective_at",.str "2029-01-01T00:00:00Z"),
     (.str "expires_at",.str "2031-01-01T00:00:00Z"),(.str "superseded",.bool false)]),
   (.str "authority_requirement",sampleRequirement true),(.str "authority_evidence",.dict sampleAuthority),
   (.str "human_approval_requirement",sampleRequirement approved),
   (.str "human_approval_evidence",if approved then .dict sampleApproval else .none),
   (.str "target_context",.dict [(.str "target_system",.str "ledger"),(.str "target_resource",.str "account"),(.str "canonicalized",.bool true)]),
   (.str "expected_state",.dict [(.str "fingerprint",.str "state"),(.str "observed_at",.str "2029-01-01T00:00:00Z"),
     (.str "source_ref",.str "state-source")]),(.str "created_at",.str "2029-01-01T00:00:00Z")]

def sampleRecord (fields : Dict) (path : List String) : Value :=
  .dict [(.str "field_path",.str (pathText path)),(.str "value",(resolve (.dict fields) path).getD .none),
    (.str "provenance_class",.str "VERIFIED_RUNTIME_EVIDENCE"),(.str "verification_status",.str "VERIFIED")]

def sampleHandoff (handoffId : String) (approved : Bool) : Dict :=
  sampleFields handoffId approved ++ [(.str "provenance",.list (mandatoryPaths.map (sampleRecord (sampleFields handoffId approved))))]

def sampleAt : Moment := (64029052800000000,some 0)

theorem sample_alone : ∀ approved, ∀ handoffId ∈ ["handoff","resubmitted"],
    (checkAlone (.dict (sampleHandoff handoffId approved)) sampleAt).toOption = some (sampleHandoff handoffId approved) ∧
      isJson (.dict (sampleHandoff handoffId approved)) = true ∧
      ∀ path ∈ mandatoryPaths, recordHolds (sampleHandoff handoffId approved) path = true := by
  decide +kernel

def sampleContext (sha256 : String → String) (approved : Bool) : ValidationContext :=
  contextOf sha256 (sampleHandoff "handoff" approved) sampleAt

theorem sample_values : ∀ approved, sectionOf (sampleHandoff "resubmitted" approved) "candidate" =
      sectionOf (sampleHandoff "handoff" approved) "candidate" ∧ (∀ name ∈ ["candidate_hash","authority_requirement","authority_evidence"],
      (sampleHandoff "resubmitted" approved).get name = (sampleHandoff "handoff" approved).get name) ∧
    ∀ path ∈ mandatoryPaths, resolve (.dict (sampleHandoff "resubmitted" approved)) path =
      resolve (.dict (sampleHandoff "handoff" approved)) path := by
  decide +kernel

theorem sample_context (sha256 : String → String) (approved : Bool) :
    contextOf sha256 (sampleHandoff "resubmitted" approved) sampleAt = sampleContext sha256 approved := by
  obtain ⟨candidate,fields,paths⟩ := sample_values approved
  have asserted : mandatoryPaths.map (assertionOf sha256 (.dict (sampleHandoff "resubmitted" approved)) sampleAt) =
      mandatoryPaths.map (assertionOf sha256 (.dict (sampleHandoff "handoff" approved)) sampleAt) :=
    List.map_congr_left fun path listed => by rw [assertionOf,assertionOf,paths path listed]
  unfold sampleContext contextOf
  rw [asserted,candidate,fields "candidate_hash" (by simp),fields "authority_requirement" (by simp),fields "authority_evidence" (by simp)]

theorem sample_ran (sha256 : String → String) (approved : Bool) (listed : handoffId ∈ ["handoff","resubmitted"]) :
    runChecks sha256 (.dict (sampleHandoff handoffId approved)) (sampleContext sha256 approved) sampleAt =
      .ok (mandatoryPaths.map pathText) := by
  obtain ⟨alone,json,recorded⟩ := sample_alone approved handoffId listed
  have ran := runChecks_made sha256 json (toOption_some alone) rfl (Int.le_refl _) recorded
  rcases List.mem_pair.mp listed with rfl | rfl
  · exact ran
  · rwa [sample_context] at ran

def sampleResult (handoffId : String) (approved : Bool) : ValidationResult :=
  resultOf (.dict (sampleHandoff handoffId approved)) .readyForGuardedPromotion [] true (mandatoryPaths.map pathText)

theorem sample_validated (sha256 : String → String) (approved : Bool) (listed : handoffId ∈ ["handoff","resubmitted"]) :
    validateCanonicalDecisionHandoff sha256 (.dict (sampleHandoff handoffId approved)) (sampleContext sha256 approved) sampleAt =
        .ok (sampleResult handoffId approved) ∧ (sampleResult handoffId approved).ready = true :=
  (validated_ready sha256).mpr ⟨_,sample_ran sha256 approved listed,rfl⟩

theorem ready_asserted_sample : (∃ members, ReadyHandoff id (sampleContext id true) sampleAt (.dict (sampleHandoff "handoff" true)) members) ∧
    ∀ path ∈ mandatoryPaths, ∃ a b, resolve (.dict (sampleHandoff "handoff" true)) path = some a ∧
      resolve (.dict (sampleHandoff "resubmitted" true)) path = some b ∧ SameJson a b := by
  obtain ⟨validated,ready⟩ := sample_validated id true (List.mem_pair.mpr (.inl rfl))
  obtain ⟨revalidated,again⟩ := sample_validated id true (List.mem_pair.mpr (.inr rfl))
  exact ⟨(ready_asserted id _).1 _ _ _ validated ready,
    (ready_asserted id _).2 _ _ _ _ _ _ (sample_alone true _ (by simp)).2.1 (sample_alone true _ (by simp)).2.1 validated ready revalidated again
      fun _ _ a b _ _ => injective_distinguishes Function.injective_id _ _⟩

end VeritasOs.CanonicalHandoff
