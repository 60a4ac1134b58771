import VeritasOs.Authority
import VeritasOs.BindRegulated

namespace VeritasOs.RuntimeAuthority
open Text Posture BindArtifacts PolicyBundle Authority
open BindCore (CommitBoundaryOutcome CommitBoundaryResult PredicateResult)
open WatVerifier (Python toInt)

structure World where
  env : Env
  surroundings : Surroundings
  python : Python
  isoformat : Moment → String

-- os.getenv("VERITAS_POSTURE", "dev").strip().lower()
def runtimePosture (env : Env) : String := lower (strip ((env "VERITAS_POSTURE").getD "dev"))

def strictPosture (env : Env) : Bool := ["secure","prod"].contains (runtimePosture env)

inductive PredicateStatus where
  | pass | fail | stale | missing | indeterminate
deriving DecidableEq

def PredicateStatus.text : PredicateStatus → String
  | .pass => "pass"
  | .fail => "fail"
  | .stale => "stale"
  | .missing => "missing"
  | .indeterminate => "indeterminate"

structure RuntimeAuthorityValidationResult where
  status : String
  recommendedOutcome : CommitBoundaryOutcome
  passedPredicates : List PredicateResult := []
  failedPredicates : List PredicateResult := []
  stalePredicates : List PredicateResult := []
  missingPredicates : List PredicateResult := []
  indeterminatePredicates : List PredicateResult := []
  refusalBasis : List String := []
  escalationBasis : List String := []
  evaluatedAt : String
  reasonSummary : String := ""
  metadata : Dict := []

def RuntimeAuthorityValidationResult.listed (result : RuntimeAuthorityValidationResult) : PredicateStatus → List PredicateResult
  | .pass => result.passedPredicates
  | .fail => result.failedPredicates
  | .stale => result.stalePredicates
  | .missing => result.missingPredicates
  | .indeterminate => result.indeterminatePredicates

-- What the evaluator hands over; no receipt, artifact or proof of a human approval is among it.
structure ValidationRequest where
  actionContract : Option ActionClassContract
  authorityEvidence : Option AuthorityEvidence
  verifiedAuthorityEvidence : Option VerifiedAuthorityEvidence
  authorityVerifierPolicy : Option AuthorityEvidenceVerifierPolicy
  authorityRevocationPolicy : Option AuthorityRevocationPolicy
  requestedScope : List String
  requiredEvidenceMetadata : Dict
  policySnapshotId : Option String
  actorIdentity : Option String
  humanApprovalState : Dict
  bindContextMetadata : Dict
  now : Option Moment

section Validate
variable (world : World) (request : ValidationRequest)

def effectiveAuthority : Option AuthorityEvidence :=
  match request.verifiedAuthorityEvidence with
  | some proof => some proof.authorityEvidence
  | none => request.authorityEvidence

-- The context a proof is validated in.
def proofContext (contract : ActionClassContract) (actor : String) : ProofContext where
  actionContract := contract
  actorIdentity := actor
  requestedScope := request.requestedScope
  policySnapshotId := request.policySnapshotId.getD ""
  verifierPolicy := request.authorityVerifierPolicy
  revocationPolicy := request.authorityRevocationPolicy
  now := request.now
  requireProductionVerifier := runtimePosture world.env == "prod"

def provenanceVerified : Except Exc Bool :=
  match request.verifiedAuthorityEvidence,request.actionContract,request.actorIdentity with
  | some proof,some contract,some actor =>
    if actor = "" then .ok false
    else do
      let failures ← validateVerifiedAuthorityEvidence world.surroundings proof (proofContext world request contract actor)
      return failures.isEmpty
  | _,_,_ => .ok false

def authorityValid (verified : Bool) : Bool :=
  if verified then true
  else
    match strictPosture world.env,effectiveAuthority request,request.actionContract with
    | false,some authority,some contract =>
      authority.verificationResult == .valid && authority.actionContractVersion == contract.version &&
        strip authority.actorRole != "" && !authority.authoritySourceRefs.isEmpty &&
        request.requestedScope.all (isScopeGranting authority)
    | _,_,_ => false

def notExpired : Except Exc Bool :=
  match effectiveAuthority request with
  | none => .ok false
  | some authority => do
    let expired ← isExpired authority (world.surroundings.orNow request.now .expiry)
    return !expired

def contractHolds (holds : ActionClassContract → Bool) : Bool := (request.actionContract.map holds).getD false

def requiredEvidence : List String := (request.actionContract.map ActionClassContract.requiredEvidence).getD []

-- required_evidence_metadata.get(key, {})
def evidenceMetadata (key : String) : Except Exc Dict :=
  match request.requiredEvidenceMetadata.getD key (.dict []) with
  | .dict members => .ok members
  | other => .error (attributeError (typeName other ++ " object has no attribute get"))

def evidencePresent : Except Exc Bool :=
  (requiredEvidence request).allM fun key => do
    let metadata ← evidenceMetadata request key
    return (metadata.get "present").truthy

def evidenceFresh : Except Exc (PredicateStatus × String) := do
  let states ← (requiredEvidence request).mapM fun key => do
    let metadata ← evidenceMetadata request key
    return metadata.getD "fresh" (.bool false)
  if states.all fun state => decide (state = .bool true) then return (.pass,"evidence_fresh")
  else if states.any fun state => pyEq state (.str "indeterminate") then return (.indeterminate,"evidence_freshness_indeterminate")
  else return (.stale,"evidence_stale")

def snapshotResolved : Bool :=
  strip (request.policySnapshotId.getD "") != "" &&
    match effectiveAuthority request with
    | none => true
    | some authority =>
      match authority.policySnapshotId with
      | none => true
      | some snapshot => snapshot = "" || decide (some snapshot = request.policySnapshotId)

def requiresHumanApproval : Except Exc Bool :=
  match request.actionContract with
  | none => .ok false
  | some contract => do
    let stated := contract.humanApprovalRules.getD "minimum_approvals" (.int 0)
    let minimum ← toInt world.python (if stated.truthy then stated else .int 0)
    return (contract.humanApprovalRules.getD "required" (.bool false)).truthy ||
      (pyEq (contract.irreversibility.get "level") (.str "high") && decide (0 < minimum))

def approvalFields : List String :=
  ["approval_receipt_id","receipt_hash","approved_action_class","policy_snapshot_id","validated_at","approval_validation_hash"]

def sortedTexts (texts : List String) : List String := texts.insertionSort fun a b => textLe a b = true

def approvalValidationHash (state : Dict) (scope : List Value) : Except Exc String :=
  sha256OfCanonicalJson world.surroundings.sha256 (.dict [
    field "approval_receipt_id" (state.get "approval_receipt_id"),field "receipt_hash" (state.get "receipt_hash"),
    field "approved_scope" (strList (sortedTexts (scope.map Value.text))),field "policy_snapshot_id" (state.get "policy_snapshot_id"),
    field "approved_action_class" (state.get "approved_action_class"),field "validated_at" (state.get "validated_at")])

def validatedHumanApprovalState (state : Dict) : Except Exc (Bool × String) :=
  if !(state.get "approved").truthy then
    match state.get "failure_reasons" with
    | .list (first :: rest) => .ok (false,((sortedTexts ((first :: rest).map Value.text)).head?).getD "")
    | _ => .ok (false,"human_approval_missing")
  else if !pyEq (state.get "approval_state_source") (.str "validated_human_approval_receipt") then .ok (false,"human_approval_receipt_missing")
  else if !approvalFields.all fun name => strip ((state.get name).orStr "") != "" then .ok (false,"human_approval_receipt_missing")
  else
    match state.get "approved_scope" with
    | .list scope => do
      let expected ← approvalValidationHash world state scope
      if !pyEq (state.get "approval_validation_hash") (.str expected) then return (false,"human_approval_validation_hash_mismatch")
      else if (state.get "failure_reasons").truthy then return (false,"human_approval_receipt_invalid")
      else return (true,"human_approval_present")
    | _ => .ok (false,"human_approval_receipt_missing")

def validatedHumanApproval : Except Exc (Bool × String) :=
  if strictPosture world.env then .ok (false,"human_approval_receipt_required")
  else validatedHumanApprovalState world request.humanApprovalState

def predicate (evaluatedAt predicateId predicateType : String) (status : PredicateStatus) (reason : String) : PredicateResult :=
  { predicateId,predicateType,status := status.text,reason,evidenceRef := none,severity := "critical",evaluatedAt }

-- A predicate that passes or has the other status, each for its reason.
def judged (evaluatedAt predicateId predicateType : String) (holds : Bool) (other : PredicateStatus) (yes no : String) : PredicateResult :=
  predicate evaluatedAt predicateId predicateType (if holds then .pass else other) (if holds then yes else no)

def evaluatePredicates (evaluatedAt : String) : Except Exc (List PredicateResult) := do
  let judge := judged evaluatedAt
  let authority := effectiveAuthority request
  let strict := strictPosture world.env
  let verified ← provenanceVerified world request
  let valid := authorityValid world request verified
  let unexpired ← notExpired world request
  let actor := strip (request.actorIdentity.getD "") != ""
  let allowed := contractHolds request fun contract => request.requestedScope.all contract.allowedScope.contains
  let unprohibited := contractHolds request fun contract => request.requestedScope.all fun scope => !contract.prohibitedScope.contains scope
  let present ← evidencePresent request
  let (freshStatus,freshReason) ← evidenceFresh request
  let resolved := snapshotResolved request
  let boundary := contractHolds request fun contract => strip (contract.irreversibility.getD "boundary" (.str "")).text != ""
  let needsApproval ← requiresHumanApproval world request
  let (approved,approvalReason) ← validatedHumanApproval world request
  let approvalOk := !needsApproval || approved
  let bound := !request.bindContextMetadata.isEmpty && !(request.bindContextMetadata.getD "invalid" (.bool false)).truthy
  return [judge "p-action-contract-present" "action_contract_present" request.actionContract.isSome .missing "action_contract_present"
      "action_contract_missing",
    judge "p-action-contract-valid" "action_contract_valid" (contractHolds request fun contract => contract.id != "" && contract.version != "")
      .fail "action_contract_valid" "action_contract_invalid",
    judge "p-authority-present" "authority_present" authority.isSome .missing "authority_present" "authority_missing",
    predicate evaluatedAt "p-authority-provenance-verified" "authority_provenance_verified"
      (if verified then .pass else if strict then .fail else .pass)
      (if verified then "authority_provenance_verified"
       else if !strict then "legacy_unverified_authority_dev_only" else "authority_verified_provenance_required"),
    judge "p-authority-valid" "authority_valid" valid .fail "authority_valid" "authority_invalid",
    judge "p-authority-not-expired" "authority_not_expired" unexpired .fail "authority_not_expired"
      (if authority.isSome then "authority_expired" else "authority_expired_or_missing"),
    judge "p-actor-identity-resolved" "actor_identity_resolved" actor .missing "actor_identity_resolved" "actor_identity_missing",
    judge "p-scope-allowed" "scope_allowed" allowed .fail "scope_allowed" "scope_expansion_detected",
    judge "p-prohibited-scope-absent" "prohibited_scope_absent" unprohibited .fail "prohibited_scope_absent" "prohibited_scope_detected",
    judge "p-evidence-present" "evidence_present" present .missing "evidence_present" "required_evidence_missing",
    predicate evaluatedAt "p-evidence-fresh" "evidence_fresh" freshStatus freshReason,
    judge "p-policy-snapshot-resolved" "policy_snapshot_resolved" resolved .fail "policy_snapshot_resolved" "policy_snapshot_unresolved",
    judge "p-irreversibility-boundary-defined" "irreversibility_boundary_defined" boundary .fail "irreversibility_boundary_defined"
      "irreversibility_boundary_missing",
    judge "p-human-approval-present" "human_approval_present" approvalOk .missing "human_approval_present" approvalReason,
    judge "p-bind-context-valid" "bind_context_valid" bound .fail "bind_context_valid" "bind_context_invalid"]

def knownPredicateTypes : List String :=
  ["action_contract_present","action_contract_valid","authority_present","authority_valid","authority_provenance_verified",
   "authority_not_expired","scope_allowed","prohibited_scope_absent","evidence_present","evidence_fresh","policy_snapshot_resolved",
   "human_approval_present","irreversibility_boundary_defined","actor_identity_resolved","bind_context_valid"]

def staleShouldEscalate : Bool :=
  contractHolds request fun contract =>
    contract.escalationConditions.any fun item => ["evidence_stale","stale_evidence"].contains (lower item)

def withStatus (status : PredicateStatus) (predicates : List PredicateResult) : List PredicateResult :=
  predicates.filter fun item => item.status == status.text

def reasonSet (items : List PredicateResult) : List String := sortedTexts (items.map PredicateResult.reason).dedup

def buildResult (resultAt : String) (predicates : List PredicateResult) : RuntimeAuthorityValidationResult :=
  let unknown := predicates.filter fun item => !knownPredicateTypes.contains item.predicateType && item.severity == "critical"
  let passed := withStatus .pass predicates
  let failed := withStatus .fail predicates
  let stale := withStatus .stale predicates
  let missing := withStatus .missing predicates
  let indeterminate := withStatus .indeterminate predicates
  let critical := !(failed.isEmpty && stale.isEmpty && missing.isEmpty && indeterminate.isEmpty && unknown.isEmpty)
  let escalates := indeterminate.isEmpty && !stale.isEmpty && staleShouldEscalate request
  let tokens := (failed ++ stale ++ missing ++ indeterminate).map PredicateResult.reason ++
    if unknown.isEmpty then [] else ["unknown_critical_predicate"]
  { status := if critical then "fail" else "pass"
    recommendedOutcome :=
      if !indeterminate.isEmpty then .refuse
      else if !stale.isEmpty then (if staleShouldEscalate request then .escalate else .block)
      else if !(failed.isEmpty && missing.isEmpty && unknown.isEmpty) then .block
      else .commit
    passedPredicates := passed
    failedPredicates := failed
    stalePredicates := stale
    missingPredicates := missing
    indeterminatePredicates := indeterminate
    refusalBasis := if indeterminate.isEmpty then [] else reasonSet indeterminate
    escalationBasis := if escalates then reasonSet stale else []
    evaluatedAt := resultAt
    reasonSummary := if tokens.isEmpty then "all_predicates_passed" else ", ".intercalate tokens }

def validate : RuntimeAuthorityValidationResult :=
  let evaluatedAt := world.isoformat (world.surroundings.orNow request.now .evaluation)
  match evaluatePredicates world request evaluatedAt with
  | .error error =>
    { status := "fail"
      recommendedOutcome := .block
      reasonSummary := "validator_exception_fail_closed"
      refusalBasis := ["validator_exception"]
      metadata := [(.str "exception",.str error.text)]
      evaluatedAt }
  | .ok predicates => buildResult request (world.isoformat (world.surroundings.utcnow .result,some 0)) predicates

end Validate

inductive ExecutionIntent where
  | text (s : String)
  | record (members : Dict)

structure BoundaryCall where
  executionIntent : ExecutionIntent
  actionContract : Option ActionClassContract
  authorityEvidence : Option AuthorityEvidence
  requestedScope : List String
  requiredEvidenceMetadata : Dict
  evidenceFreshnessMetadata : Dict
  policySnapshotId : Option String
  actorIdentity : Option String
  humanApprovalState : Dict
  bindContextMetadata : Dict
  verifiedAuthorityEvidence : Option VerifiedAuthorityEvidence
  authorityVerifierPolicy : Option AuthorityEvidenceVerifierPolicy
  authorityRevocationPolicy : Option AuthorityRevocationPolicy
  now : Option Moment

-- sorted(set(first) | set(second)); keys that do not compare raise.
def sortedKeys (first second : Dict) : Except Exc (List Key) :=
  let keys := (first ++ second).map Prod.fst |>.dedup
  if keys.length ≤ 1 then .ok keys
  else if keys.all Key.isStr || keys.all fun key => (keyNumber key).isSome then
    .ok (keys.insertionSort fun a b => keyLe a b = true)
  else .error (typeError "< not supported between instances")

def mergeEvidenceMetadata (required freshness : Dict) : Except Exc Dict := do
  let keys ← sortedKeys required freshness
  keys.mapM fun key => do
    let needed ← dictFrom ((lookup key required).getD (.dict []))
    let fresh ← dictFrom ((lookup key freshness).getD (.dict []))
    let present := (needed.getD "present" (.bool false)).truthy
    return (key,.dict [field "present" (.bool present),field "fresh" (fresh.getD "fresh" (needed.getD "fresh" (.bool false)))])

def BoundaryCall.request (call : BoundaryCall) (merged : Dict) : ValidationRequest where
  actionContract := call.actionContract
  authorityEvidence := call.authorityEvidence
  verifiedAuthorityEvidence := call.verifiedAuthorityEvidence
  authorityVerifierPolicy := call.authorityVerifierPolicy
  authorityRevocationPolicy := call.authorityRevocationPolicy
  requestedScope := call.requestedScope
  requiredEvidenceMetadata := merged
  policySnapshotId := call.policySnapshotId
  actorIdentity := call.actorIdentity
  humanApprovalState := call.humanApprovalState
  bindContextMetadata := call.bindContextMetadata
  now := call.now

def sortedPredicates (predicates : List PredicateResult) : List PredicateResult :=
  predicates.insertionSort fun a b => textLe a.predicateId b.predicateId = true

def isActionAdmissible (intent : ExecutionIntent) : Option ActionClassContract → Bool
  | none => false
  | some contract =>
    match intent with
    | .text s => strip s != ""
    | .record members =>
      let intentActionClass := strip (members.getD "action_class" (.str "")).text
      !(intentActionClass != "" && intentActionClass != contract.actionClass) && decide (members.get "admissible" ≠ .bool false)

def resolveOutcome (intent : ExecutionIntent) (contract : Option ActionClassContract) (recommended : CommitBoundaryOutcome) : CommitBoundaryOutcome :=
  match recommended with
  | .escalate => .escalate
  | .refuse => .refuse
  | .block => .block
  | .commit => if isActionAdmissible intent contract then .commit else .refuse

section Evaluate
variable (world : World) (call : BoundaryCall)

def assemble (merged : Dict) : CommitBoundaryResult :=
  let request := call.request merged
  let result := validate world request
  let authority := effectiveAuthority request
  { commitBoundaryResult := resolveOutcome call.executionIntent call.actionContract result.recommendedOutcome
    actionContractId := (call.actionContract.map ActionClassContract.id).getD ""
    actionContractVersion := (call.actionContract.map ActionClassContract.version).getD ""
    authorityEvidenceId := (authority.map AuthorityEvidence.authorityEvidenceId).getD ""
    authorityEvidenceHash := (authority.map AuthorityEvidence.evidenceHash).getD ""
    authorityValidationStatus := result.status
    admissibilityPredicates := sortedPredicates (result.passedPredicates ++ result.failedPredicates ++ result.stalePredicates ++
      result.missingPredicates ++ result.indeterminatePredicates)
    failedPredicates := sortedPredicates result.failedPredicates
    stalePredicates := sortedPredicates result.stalePredicates
    missingPredicates := sortedPredicates result.missingPredicates
    refusalBasis := sortedTexts result.refusalBasis.dedup
    escalationBasis := sortedTexts result.escalationBasis.dedup
    irreversibilityBoundaryId := (call.actionContract.map fun contract => (contract.irreversibility.getD "boundary" (.str "")).text).getD ""
    evaluatedAt := world.isoformat (world.surroundings.orNow call.now .boundary)
    reasonSummary := result.reasonSummary }

-- Merging the evidence comes before the validator, outside of its handler.
def evaluate : Except Exc CommitBoundaryResult := do
  let merged ← mergeEvidenceMetadata call.requiredEvidenceMetadata call.evidenceFreshnessMetadata
  return assemble world call merged

end Evaluate

variable {world : World} {request : ValidationRequest} {call : BoundaryCall} {predicates : List PredicateResult}

theorem status_text_injective : Function.Injective PredicateStatus.text := by
  intro first second same
  cases first <;> cases second <;> first | rfl | (exact absurd same (by decide))

structure Found (world : World) (request : ValidationRequest) (predicates : List PredicateResult) : Prop where
  types : predicates.map PredicateResult.predicateType |>.Perm knownPredicateTypes
  statuses : ∀ item ∈ predicates, ∃ status : PredicateStatus, item.status = status.text
  provenance : ∃ verified, provenanceVerified world request = .ok verified ∧
    ∃ item ∈ predicates, item.status = (if verified then PredicateStatus.pass else if strictPosture world.env then .fail else .pass).text

theorem evaluatePredicates_found (evaluated : evaluatePredicates world request evaluatedAt = .ok predicates) :
    Found world request predicates := by
  obtain ⟨verified,provenance,evaluated⟩ := bind_ok.mp evaluated
  obtain ⟨_,_,evaluated⟩ := bind_ok.mp evaluated
  obtain ⟨_,_,evaluated⟩ := bind_ok.mp evaluated
  obtain ⟨⟨freshStatus,_⟩,_,evaluated⟩ := bind_ok.mp evaluated
  obtain ⟨_,_,evaluated⟩ := bind_ok.mp evaluated
  obtain ⟨⟨_,_⟩,_,evaluated⟩ := bind_ok.mp evaluated
  cases evaluated
  refine ⟨?_,?_,verified,provenance,_,List.mem_of_getElem? (i := 3) rfl,rfl⟩
  · exact (by decide : List.Perm ["action_contract_present","action_contract_valid","authority_present","authority_provenance_verified",
      "authority_valid","authority_not_expired","actor_identity_resolved","scope_allowed","prohibited_scope_absent","evidence_present",
      "evidence_fresh","policy_snapshot_resolved","irreversibility_boundary_defined","human_approval_present","bind_context_valid"]
      knownPredicateTypes)
  · intro item listed
    simp only [List.mem_cons,List.not_mem_nil,or_false] at listed
    rcases listed with rfl | rfl | rfl | rfl | rfl | rfl | rfl | rfl | rfl | rfl | rfl | rfl | rfl | rfl | rfl <;> exact ⟨_,rfl⟩

variable {status : PredicateStatus}

theorem mem_withStatus : item ∈ withStatus status predicates ↔ item ∈ predicates ∧ item.status = status.text := by
  simp [withStatus]

theorem build_listed (at_ : String) (status : PredicateStatus) : (buildResult request at_ predicates).listed status = withStatus status predicates := by
  cases status <;> rfl

theorem listed_once (at_ : String) (known : item.status = status.text) (listed : item ∈ predicates) :
    ∃! place, item ∈ (buildResult request at_ predicates).listed place := by
  refine ⟨status,?_,?_⟩
  · simp only [build_listed]
    exact mem_withStatus.mpr ⟨listed,known⟩
  · intro other there
    simp only [build_listed] at there
    exact status_text_injective ((mem_withStatus.mp there).2.symm.trans known)

theorem build_commits (statuses : ∀ item ∈ predicates, ∃ status : PredicateStatus, item.status = status.text)
    (commits : (buildResult request at_ predicates).recommendedOutcome = .commit) : ∀ item ∈ predicates, item.status = "pass" := by
  intro item listed
  obtain ⟨status,known⟩ := statuses item listed
  have there : item ∈ withStatus status predicates := mem_withStatus.mpr ⟨listed,known⟩
  have filled : (withStatus status predicates).isEmpty = false := by
    rw [List.isEmpty_eq_false_iff]
    exact List.ne_nil_of_mem there
  cases status with
  | pass => exact known
  | _ =>
    simp only [buildResult,filled] at commits
    split_ifs at commits
    simp_all

theorem sorted_perm : (sortedPredicates predicates).Perm predicates := List.perm_insertionSort _ predicates

theorem listed_perm (statuses : ∀ item ∈ predicates, item.status = "pass") (at_ : String) : let result := buildResult request at_ predicates
    (result.passedPredicates ++ result.failedPredicates ++ result.stalePredicates ++ result.missingPredicates ++
      result.indeterminatePredicates).Perm predicates := by
  have all : withStatus .pass predicates = predicates := List.filter_eq_self.mpr fun item listed => by simp [statuses item listed,PredicateStatus.text]
  have none_ (status : PredicateStatus) (other : status ≠ .pass) : withStatus status predicates = [] := by
    refine List.filter_eq_nil_iff.mpr fun item listed => ?_
    rw [statuses item listed]
    cases status <;> first | exact absurd rfl other | decide
  simp [buildResult,all,none_]

theorem resolve_commits (commits : resolveOutcome intent contract recommended = .commit) : recommended = .commit := by
  cases recommended <;> simp_all [resolveOutcome]

theorem provenance_accepted (verified : provenanceVerified world request = .ok true) :
    ∃ proof contract actor, request.verifiedAuthorityEvidence = some proof ∧ request.actionContract = some contract ∧
      request.actorIdentity = some actor ∧
      validateVerifiedAuthorityEvidence world.surroundings proof (proofContext world request contract actor) = .ok [] := by
  unfold provenanceVerified at verified
  split at verified
  · rename_i proof contract actor hasProof hasContract hasActor
    split at verified
    · cases verified
    · obtain ⟨failures,checked,verified⟩ := bind_ok.mp verified
      have none_ : failures = [] := List.isEmpty_iff.mp (Except.ok.inj verified)
      exact ⟨proof,contract,actor,hasProof,hasContract,hasActor,none_ ▸ checked⟩
  · cases verified

def evaluationTime (world : World) (request : ValidationRequest) : String :=
  world.isoformat (world.surroundings.orNow request.now .evaluation)

structure BoundaryHolds (world : World) (call : BoundaryCall) (merged : Dict) (result : CommitBoundaryResult) : Prop where
  everyPredicate : result.commitBoundaryResult = .commit → ∃ predicates,
    evaluatePredicates world (call.request merged) (evaluationTime world (call.request merged)) = .ok predicates ∧
      (predicates.map PredicateResult.predicateType).Perm knownPredicateTypes ∧ (∀ item ∈ predicates, item.status = "pass") ∧
      result.admissibilityPredicates.Perm predicates
  listedOnce : ∀ predicates,evaluatePredicates world (call.request merged) (evaluationTime world (call.request merged)) = .ok predicates →
      ∀ item ∈ predicates, ∃! place, item ∈ (validate world (call.request merged)).listed place
  failsClosed : ∀ error,evaluatePredicates world (call.request merged) (evaluationTime world (call.request merged)) = .error error →
      result.commitBoundaryResult = .block
  proven : strictPosture world.env = true → result.commitBoundaryResult = .commit → ∃ proof contract actor,
    call.verifiedAuthorityEvidence = some proof ∧ call.actionContract = some contract ∧ call.actorIdentity = some actor ∧
      validateVerifiedAuthorityEvidence world.surroundings proof (proofContext world (call.request merged) contract actor) = .ok []

theorem boundary_holds (world : World) (call : BoundaryCall) (merged : Dict) : BoundaryHolds world call merged (assemble world call merged) := by
  cases evaluated : evaluatePredicates world (call.request merged) (evaluationTime world (call.request merged)) with
  | error error =>
    have blocked : (assemble world call merged).commitBoundaryResult = .block := by
      unfold evaluationTime at evaluated
      simp only [assemble,validate,evaluated]
      rfl
    refine ⟨?_,?_,fun _ _ => blocked,?_⟩
    · intro commits
      rw [blocked] at commits
      cases commits
    · intro predicates found
      rw [evaluated] at found
      cases found
    · intro _ commits
      rw [blocked] at commits
      cases commits
  | ok predicates =>
    have found := evaluatePredicates_found evaluated
    have validated : validate world (call.request merged) =
        buildResult (call.request merged) (world.isoformat (world.surroundings.utcnow .result,some 0)) predicates := by
      unfold evaluationTime at evaluated
      simp only [validate,evaluated]
    have passed (commits : (assemble world call merged).commitBoundaryResult = .commit) : ∀ item ∈ predicates, item.status = "pass" := by
      have recommended := resolve_commits commits
      rw [validated] at recommended
      exact build_commits found.statuses recommended
    refine ⟨?_,?_,?_,?_⟩
    · intro commits
      refine ⟨predicates,evaluated,found.types,passed commits,?_⟩
      simp only [assemble,validated]
      exact sorted_perm.trans (listed_perm (passed commits) _)
    · intro others same item listed
      cases evaluated.symm.trans same
      obtain ⟨status,known⟩ := found.statuses item listed
      rw [validated]
      exact listed_once _ known listed
    · intro error raised
      rw [evaluated] at raised
      cases raised
    · intro strict commits
      obtain ⟨verified,provenance,item,listed,status⟩ := found.provenance
      rw [passed commits item listed,strict] at status
      cases verified with
      | true => exact provenance_accepted provenance
      | false => exact absurd status (by decide)

theorem commit_requires_every_predicate (world : World) (call : BoundaryCall) :
    match mergeEvidenceMetadata call.requiredEvidenceMetadata call.evidenceFreshnessMetadata with
    | .error error => evaluate world call = .error error
    | .ok merged => ∃ result, evaluate world call = .ok result ∧ BoundaryHolds world call merged result := by
  cases merges : mergeEvidenceMetadata call.requiredEvidenceMetadata call.evidenceFreshnessMetadata with
  | error error =>
    dsimp only
    rw [evaluate,merges]
    rfl
  | ok merged =>
    refine ⟨assemble world call merged,?_,boundary_holds world call merged⟩
    rw [evaluate,merges]
    rfl

-- The validator and the rest of the system read the same posture out of the environment.
def SamePosture (env : Env) : Prop :=
  (strictPosture env = true ↔ (resolvePosture env).isStrict = true) ∧ (runtimePosture env = "prod" ↔ resolvePosture env = .prod)

-- The names only resolve_posture knows, and the variable only it falls back to.
def Misread (env : Env) : Prop :=
  let posture := lower (strip ((env "VERITAS_POSTURE").getD ""))
  posture ∈ ["hardened","production"] ∨
    posture = "" ∧ lower (strip ((env "VERITAS_ENV").getD "")) ∈ ["secure","hardened","prod","production"]

def aliased (raw : String) : PostureLevel := ((postureAliases.find? fun entry => entry.1 == raw).map Prod.snd).getD .dev

theorem aliased_cases (raw : String) : aliased raw = 
    if raw ∈ ["secure","hardened"] then .secure else if raw ∈ ["prod","production"] then .prod else if raw ∈ ["stg","staging","stage"] then .staging else .dev := by
  by_cases known : raw ∈ postureAliases.map Prod.fst
  · simp only [postureAliases,List.map_cons,List.map_nil,List.mem_cons,List.not_mem_nil,or_false] at known
    rcases known with rfl | rfl | rfl | rfl | rfl | rfl | rfl | rfl | rfl | rfl | rfl | rfl <;> decide
  · have missed : postureAliases.find? (fun entry => entry.1 == raw) = none := by
      refine List.find?_eq_none.mpr fun entry listed same => known ?_
      exact List.mem_map.mpr ⟨entry,listed,by simpa using same⟩
    rw [aliased,missed]
    simp only [postureAliases,List.map_cons,List.map_nil,List.mem_cons,List.not_mem_nil,or_false,not_or] at known
    simp [known]

theorem aliased_strict (raw : String) : (aliased raw).isStrict = true ↔ raw ∈ ["secure","hardened","prod","production"] := by
  rw [aliased_cases]
  split_ifs with secure prod staging
  · simp only [List.mem_cons,List.not_mem_nil,or_false] at secure
    rcases secure with rfl | rfl <;> decide
  · simp only [List.mem_cons,List.not_mem_nil,or_false] at prod
    rcases prod with rfl | rfl <;> decide
  all_goals simp_all [PostureLevel.isStrict]

theorem aliased_prod (raw : String) : aliased raw = .prod ↔ raw ∈ ["prod","production"] := by
  rw [aliased_cases]
  split_ifs with secure prod staging
  · simp only [List.mem_cons,List.not_mem_nil,or_false] at secure
    rcases secure with rfl | rfl <;> decide
  · simpa using prod
  · simpa using prod
  · simpa using prod

theorem readings_agree (posture fallback : String) :
    ((["secure","prod"].contains posture = true ↔ (aliased (if posture = "" then fallback else posture)).isStrict = true) ∧
        (posture = "prod" ↔ aliased (if posture = "" then fallback else posture) = .prod)) ↔
      ¬(posture ∈ ["hardened","production"] ∨ posture = "" ∧ fallback ∈ ["secure","hardened","prod","production"]) := by
  by_cases blank : posture = ""
  · subst blank
    rw [if_pos rfl,aliased_strict,aliased_prod]
    simp only [List.contains_eq_mem,List.mem_cons,List.not_mem_nil,or_false,decide_eq_true_eq]
    grind
  · rw [if_neg blank,aliased_strict,aliased_prod]
    simp only [List.contains_eq_mem,List.mem_cons,List.not_mem_nil,or_false,decide_eq_true_eq,blank,false_and]
    grind

theorem posture_agrees_exact (env : Env) : SamePosture env ↔ ¬ Misread env := by
  have agree := readings_agree (lower (strip ((env "VERITAS_POSTURE").getD ""))) (lower (strip ((env "VERITAS_ENV").getD "")))
  cases given : env "VERITAS_POSTURE" with
  | none =>
    have blank : lower (strip "") = "" := by decide
    have dev : runtimePosture env = "dev" := by rw [runtimePosture,given]; decide
    rw [given,Option.getD_none,blank] at agree
    have lax : ["secure","prod"].contains "dev" = ["secure","prod"].contains "" := by decide
    have apart : ("dev" = "prod") = ("" = "prod") := by simp
    rw [SamePosture,Misread,strictPosture,dev,given,Option.getD_none,blank,← agree,resolvePosture,given,Option.getD_none,blank,lax,apart]
    rfl
  | some raw =>
    have same : runtimePosture env = lower (strip raw) := by rw [runtimePosture,given]; rfl
    rw [given,Option.getD_some] at agree
    rw [SamePosture,Misread,strictPosture,same,given,Option.getD_some,← agree,resolvePosture,given,Option.getD_some]
    rfl

-- A deployment that names its posture by the alias: its commits need no verified authority.
def aliasedEnv : Env := fun name => if name = "VERITAS_POSTURE" then some "production" else none

def sampleWorld (env : Env) : World where
  env := env
  surroundings := ⟨id,fun _ => none,fun _ => 0⟩
  python := WatVerifier.samplePython
  isoformat := fun _ => ""

def sampleContract : ActionClassContract where
  id := "contract-1"
  version := "v1"
  domain := "payments"
  actionClass := "transfer"
  description := ""
  declaredIntent := ""
  allowedScope := ["pay"]
  prohibitedScope := []
  authoritySources := []
  requiredEvidence := []
  evidenceFreshness := []
  irreversibility := [field "boundary" (.str "ledger write")]
  humanApprovalRules := []
  refusalConditions := []
  escalationConditions := []
  defaultFailureMode := "block"
  metadata := []

def sampleEvidence : AuthorityEvidence where
  authorityEvidenceId := "evidence-1"
  actionContractId := "contract-1"
  actionContractVersion := "v1"
  actorIdentity := "clerk-1"
  actorRole := "clerk"
  authoritySourceRefs := ["iam"]
  roleOrPolicyBasis := []
  scopeGrants := ["pay"]
  scopeLimitations := []
  validityWindow := []
  issuedAt := ""
  validFrom := ""
  validUntil := "2027-01-01T00:00:00+00:00"
  revalidatedAt := none
  policySnapshotId := none
  actionContractHash := none
  evidenceHash := ""
  verificationResult := .valid
  failureReasons := []
  metadata := []

def sampleCall : BoundaryCall where
  executionIntent := .text "pay the invoice"
  actionContract := some sampleContract
  authorityEvidence := some sampleEvidence
  requestedScope := ["pay"]
  requiredEvidenceMetadata := []
  evidenceFreshnessMetadata := []
  policySnapshotId := some "snapshot-1"
  actorIdentity := some "clerk-1"
  humanApprovalState := []
  bindContextMetadata := [field "intent" (.str "pay")]
  verifiedAuthorityEvidence := none
  authorityVerifierPolicy := none
  authorityRevocationPolicy := none
  now := some (DateTime.daysBeforeYear 2026 * DateTime.dayMicros,some 0)

theorem alias_commits_unverified : ¬ SamePosture aliasedEnv ∧ resolvePosture aliasedEnv = .prod ∧
    sampleCall.verifiedAuthorityEvidence = none ∧
    (evaluate (sampleWorld aliasedEnv) sampleCall).toOption.map CommitBoundaryResult.commitBoundaryResult = some .commit := by
  refine ⟨?_,by decide,rfl,by decide +kernel⟩
  intro same
  exact absurd (same.2.mpr (by decide)) (by decide)

def Violated (predicates : List PredicateResult) : Prop :=
  ∃ item ∈ predicates, item.status = PredicateStatus.fail.text ∨ item.status = PredicateStatus.missing.text

-- The stale predicates are judged before the failed ones, and the contract wants them escalated.
structure Overtaken (request : ValidationRequest) (predicates : List PredicateResult) : Prop where
  determinate : ∀ item ∈ predicates, item.status ≠ PredicateStatus.indeterminate.text
  stale : ∃ item ∈ predicates, item.status = PredicateStatus.stale.text
  escalates : staleShouldEscalate request = true

theorem withStatus_empty : (withStatus status predicates).isEmpty = true ↔ ∀ item ∈ predicates, item.status ≠ status.text := by
  simp [withStatus]

theorem withStatus_filled : (withStatus status predicates).isEmpty = false ↔ ∃ item ∈ predicates, item.status = status.text := by
  rw [← Bool.not_eq_true,withStatus_empty]
  push Not
  rfl

theorem overtaken_lists : Overtaken request predicates ↔ (withStatus .indeterminate predicates).isEmpty = true ∧
    (withStatus .stale predicates).isEmpty = false ∧ staleShouldEscalate request = true := by
  rw [withStatus_empty,withStatus_filled]
  exact ⟨fun given => ⟨given.determinate,given.stale,given.escalates⟩,fun given => ⟨given.1,given.2.1,given.2.2⟩⟩

theorem violated_recommended (request : ValidationRequest) (violated : Violated predicates) (at_ : String) :
    (Overtaken request predicates ∧ (buildResult request at_ predicates).recommendedOutcome = .escalate) ∨
      (¬Overtaken request predicates ∧ ((buildResult request at_ predicates).recommendedOutcome = .block ∨
        (buildResult request at_ predicates).recommendedOutcome = .refuse)) := by
  have found : ((withStatus .fail predicates).isEmpty && (withStatus .missing predicates).isEmpty) = false := by
    obtain ⟨item,listed,status | status⟩ := violated
    · rw [withStatus_filled.mpr ⟨item,listed,status⟩,Bool.false_and]
    · rw [withStatus_filled.mpr ⟨item,listed,status⟩,Bool.and_false]
  rw [overtaken_lists]
  cases indeterminate : (withStatus .indeterminate predicates).isEmpty with
  | false => simp [buildResult,indeterminate]
  | true =>
    cases stale : (withStatus .stale predicates).isEmpty with
    | false => cases escalates : staleShouldEscalate request <;> simp [buildResult,indeterminate,stale,escalates]
    | true => simp [buildResult,indeterminate,stale,found]

theorem violated_stays_blocked (intent : ExecutionIntent) (request : ValidationRequest) (at_ : String) (predicates : List PredicateResult)
    (violated : Violated predicates) :
    resolveOutcome intent request.actionContract (buildResult request at_ predicates).recommendedOutcome ∈
        [CommitBoundaryOutcome.block,CommitBoundaryOutcome.refuse] ↔ ¬Overtaken request predicates := by
  rcases violated_recommended request violated at_ with ⟨overtaken,escalates⟩ | ⟨plain,blocks | refuses⟩
  · simp [escalates,resolveOutcome,overtaken]
  · simp [blocks,resolveOutcome,plain]
  · simp [refuses,resolveOutcome,plain]

def judgedPredicate (predicateType : String) (status : PredicateStatus) : PredicateResult :=
  predicate "" predicateType predicateType status "sample"

theorem violated_stays_blocked_alone : resolveOutcome (.text "pay") sampleCall.actionContract
        (buildResult (sampleCall.request []) "" [judgedPredicate "scope_allowed" .fail]).recommendedOutcome ∈
      [CommitBoundaryOutcome.block,CommitBoundaryOutcome.refuse] :=
  (violated_stays_blocked (.text "pay") (sampleCall.request []) "" [judgedPredicate "scope_allowed" .fail]
    ⟨_,List.mem_singleton_self _,.inl rfl⟩).mpr fun overtaken => by
      obtain ⟨item,listed,stale⟩ := overtaken.stale
      rw [List.mem_singleton.mp listed] at stale
      exact absurd stale (by decide)

-- The payment is prohibited by its contract, which has stale evidence escalated.
def prohibitedCall (fresh : Bool) : BoundaryCall :=
  { sampleCall with
    actionContract := some { sampleContract with
      prohibitedScope := ["pay"],requiredEvidence := ["invoice"],escalationConditions := ["stale_evidence"] }
    requiredEvidenceMetadata := [field "invoice" (.dict [field "present" (.bool true),field "fresh" (.bool fresh)])] }

theorem stale_softens_prohibition :
    (evaluate (sampleWorld fun _ => none) (prohibitedCall true)).toOption.map CommitBoundaryResult.commitBoundaryResult = some .block ∧
      (evaluate (sampleWorld fun _ => none) (prohibitedCall false)).toOption.map CommitBoundaryResult.commitBoundaryResult = some .escalate ∧
      ((evaluate (sampleWorld fun _ => none) (prohibitedCall false)).toOption.map fun result =>
        result.failedPredicates.map PredicateResult.predicateType) = some ["prohibited_scope_absent"] := by
  refine ⟨?_,?_,?_⟩
  all_goals decide +kernel

end VeritasOs.RuntimeAuthority
