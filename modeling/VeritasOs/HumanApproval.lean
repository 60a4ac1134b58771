import VeritasOs.AuthorityProof
import VeritasOs.JsonReread
import Mathlib.Data.List.Dedup

namespace VeritasOs.HumanApproval
open Text JsonText DateTime BindArtifacts PolicyBundle Authority Posture
open RuntimeAuthority (World approvalFields approvalValidationHash validatedHumanApprovalState runtimePosture)
open AuthorityProof (refuseIf refuseIf_ok named)

-- The fields as an artifact gives them: HumanApprovalReceipt(**payload) checks no type.
structure HumanApprovalReceipt where
  approvalReceiptId : Value
  decisionId : Value
  executionIntentId : Value
  approverIdentity : Value
  approverRole : Value
  approvedActionClass : Value
  approvedScope : Value
  approvalBasisRefs : Value
  approvedAt : Value
  expiresAt : Value
  policySnapshotId : Value
  authorityEvidenceId : Value
  approvalResult : Value
  signatureVerified : Value
  receiptHash : Value
  requestRef : Value
  aiOutputRef : Value
  bindContextHash : Value
  metadata : Value

-- sorted(str(item) for item in value)
def sortedStrings (value : Value) : Except Exc (List String) := do
  let items ← listFrom value
  return RuntimeAuthority.sortedTexts (items.map Value.text)

def receiptDict (receipt : HumanApprovalReceipt) (scope basis : List String) : Dict :=
  [field "approval_receipt_id" receipt.approvalReceiptId,field "decision_id" receipt.decisionId,
   field "execution_intent_id" receipt.executionIntentId,field "approver_identity" receipt.approverIdentity,
   field "approver_role" receipt.approverRole,field "approved_action_class" receipt.approvedActionClass,
   field "approved_scope" (strList scope),field "approval_basis_refs" (strList basis),field "approved_at" receipt.approvedAt,
   field "expires_at" receipt.expiresAt,field "policy_snapshot_id" receipt.policySnapshotId,
   field "authority_evidence_id" receipt.authorityEvidenceId,field "request_ref" receipt.requestRef,
   field "ai_output_ref" receipt.aiOutputRef,field "bind_context_hash" receipt.bindContextHash,
   field "approval_result" receipt.approvalResult,field "signature_verified" receipt.signatureVerified,
   field "receipt_hash" receipt.receiptHash,field "metadata" receipt.metadata]

def HumanApprovalReceipt.toDict (receipt : HumanApprovalReceipt) : Except Exc Dict := do
  let scope ← sortedStrings receipt.approvedScope
  let basis ← sortedStrings receipt.approvalBasisRefs
  return receiptDict receipt scope basis

def HumanApprovalReceipt.toDictForHash (receipt : HumanApprovalReceipt) : Except Exc Dict := do
  let payload ← receipt.toDict
  return payload.filter fun member => !named ["receipt_hash"] member

def HumanApprovalReceipt.deterministicDigest (sha256 : String → String) (receipt : HumanApprovalReceipt) : Except Exc String := do
  let payload ← receipt.toDictForHash
  sha256OfCanonicalJson sha256 (.dict payload)

-- HumanApprovalReceipt(**receipt.to_dict()) with a new hash: the scope and the references are lists then.
def withReceiptHash (sha256 : String → String) (receipt : HumanApprovalReceipt) : Except Exc HumanApprovalReceipt := do
  let digest ← receipt.deterministicDigest sha256
  let scope ← sortedStrings receipt.approvedScope
  let basis ← sortedStrings receipt.approvalBasisRefs
  return { receipt with approvedScope := strList scope,approvalBasisRefs := strList basis,receiptHash := .str digest }

def verifierDerivedProvenanceKeys : List String :=
  ["verification_source","artifact_type","artifact_version","signer_key_id","signer_algorithm","signed_at","verified_at",
   "receipt_hash_verified","signature_verified_by_runtime","signer_identity","signer_role","signer_policy_id","signer_policy_hash",
   "signature_verification_reason","verifier_trust_level","verifier_id","verifier_key_id","verifier_policy_id","verifier_policy_hash"]

def withoutVerifierDerivedProvenance : Value → Dict
  | .dict members =>
    Dict.update [] ((members.map fun member => (.str (keyValue member.1).text,member.2)).filter fun member =>
      !named verifierDerivedProvenanceKeys member)
  | _ => []

def requiredFields : List String :=
  ["approval_receipt_id","decision_id","execution_intent_id","approver_identity","approver_role","approved_action_class",
   "approved_scope","approval_basis_refs","approved_at","expires_at","policy_snapshot_id","authority_evidence_id","approval_result",
   "signature_verified","receipt_hash"]

def optionalFields : List String := ["request_ref","ai_output_ref","bind_context_hash","metadata"]

def receiptFromSignedPayload (payload : Dict) : Except Exc HumanApprovalReceipt :=
  let hashless : Dict := payload.filter fun member => !named ["receipt_hash"] member
  let unsigned := ((hashless.set "signature_verified" (.bool false)).set "receipt_hash" (.str "")).set "metadata"
    (.dict (withoutVerifierDerivedProvenance (payload.get "metadata")))
  if unsigned.all (named (requiredFields ++ optionalFields)) && requiredFields.all (Dict.has unsigned) then
    .ok {
      approvalReceiptId := unsigned.get "approval_receipt_id"
      decisionId := unsigned.get "decision_id"
      executionIntentId := unsigned.get "execution_intent_id"
      approverIdentity := unsigned.get "approver_identity"
      approverRole := unsigned.get "approver_role"
      approvedActionClass := unsigned.get "approved_action_class"
      approvedScope := unsigned.get "approved_scope"
      approvalBasisRefs := unsigned.get "approval_basis_refs"
      approvedAt := unsigned.get "approved_at"
      expiresAt := unsigned.get "expires_at"
      policySnapshotId := unsigned.get "policy_snapshot_id"
      authorityEvidenceId := unsigned.get "authority_evidence_id"
      approvalResult := unsigned.get "approval_result"
      signatureVerified := unsigned.get "signature_verified"
      receiptHash := unsigned.get "receipt_hash"
      requestRef := unsigned.get "request_ref"
      aiOutputRef := unsigned.get "ai_output_ref"
      bindContextHash := unsigned.get "bind_context_hash"
      metadata := unsigned.get "metadata" }
  else .error (typeError "HumanApprovalReceipt.__init__() got other arguments than its fields")

structure SignatureVerificationResult where
  verified : Bool
  keyId : Option String := none
  algorithm : Option String := none
  signerIdentity : Option String := none
  signerRole : Option String := none
  reason : Option String := none
  verifierTrustLevel : Option String := none
  verifierId : Option String := none
  verifierKeyId : Option String := none
  verifierPolicyId : Option String := none
  verifierPolicyHash : Option String := none

-- What a verifier may answer: a result, or the bare flag of the old interface.
inductive RawResult where
  | flag (b : Bool)
  | structured (result : SignatureVerificationResult)

structure HumanApprovalSignerPolicy where
  policyId : String
  allowedKeyIds : List String
  allowedAlgorithms : List String
  requiredSignerRoles : Option (List String) := none
  requiredSignerIdentities : Option (List String) := none
  allowedActionClasses : Option (List String) := none
  allowedPolicySnapshotIds : Option (List String) := none
  policyHash : Option String := none

def optTexts : Option (List String) → Value
  | none => .none
  | some items => strList (RuntimeAuthority.sortedTexts items)

def HumanApprovalSignerPolicy.toDictForHash (policy : HumanApprovalSignerPolicy) : Dict :=
  [field "policy_id" (.str policy.policyId),field "allowed_key_ids" (strList (RuntimeAuthority.sortedTexts policy.allowedKeyIds)),
   field "allowed_algorithms" (strList (RuntimeAuthority.sortedTexts policy.allowedAlgorithms)),
   field "required_signer_roles" (optTexts policy.requiredSignerRoles),
   field "required_signer_identities" (optTexts policy.requiredSignerIdentities),
   field "allowed_action_classes" (optTexts policy.allowedActionClasses),
   field "allowed_policy_snapshot_ids" (optTexts policy.allowedPolicySnapshotIds)]

def HumanApprovalSignerPolicy.deterministicHash (sha256 : String → String) (policy : HumanApprovalSignerPolicy) : Except Exc String :=
  let stated := policy.policyHash.getD ""
  if stated ≠ "" then .ok stated else sha256OfCanonicalJson sha256 (.dict policy.toDictForHash)

structure ApprovedHumanApprovalVerifier where
  verifierId : String
  trustLevel : String
  verifierKeyId : Option String := none
  policyHash : Option String := none

structure HumanApprovalVerifierPolicy where
  approvedHumanApprovalVerifiers : List ApprovedHumanApprovalVerifier

def HumanApprovalVerifierPolicy.approvedVerifierById (policy : HumanApprovalVerifierPolicy) (verifierId : Option String) :
    Option ApprovedHumanApprovalVerifier :=
  policy.approvedHumanApprovalVerifiers.find? fun verifier => verifier.verifierId == strip (verifierId.getD "")

def filled (value : Option String) : Bool := strip (value.getD "") != ""

-- The signer an artifact names in its envelope.
def signerMapping (artifact : Dict) : Dict := (artifact.get "signer").asDict?.getD []

def optText : Value → Option String
  | .none => none
  | value => some value.text

def structuredVerificationResult (raw : RawResult) (artifact : Dict) (required : Bool) : Except Exc SignatureVerificationResult :=
  match raw with
  | .structured result => .ok result
  | .flag verified => do
    refuseIf required "human_approval_structured_signature_result_required"
    return {
      verified
      keyId := optText ((signerMapping artifact).get "key_id")
      algorithm := optText ((signerMapping artifact).get "algorithm")
      signerIdentity := optText ((signerMapping artifact).get "identity")
      signerRole := optText ((signerMapping artifact).get "role")
      reason := if verified then some "legacy_bool_verifier" else none }

def refuseFor : Option String → Except Exc Unit
  | none => .ok ()
  | some reason => .error (valueError reason)

-- The approved verifier of a production deployment, asked for where a proof is issued and where
-- it is validated.
def productionVerifierFailure (trustLevel verifierId verifierKeyId verifierPolicyHash : Option String)
    (policy : Option HumanApprovalVerifierPolicy) : Option String :=
  match trustLevel with
  | none => some "human_approval_production_verifier_required"
  | some level =>
    if lower (strip level) ≠ "production" then some "human_approval_verifier_trust_level_not_allowed"
    else if !filled verifierId then some "human_approval_verifier_id_required"
    else
      match policy.bind (·.approvedVerifierById verifierId) with
      | none => some "human_approval_verifier_not_allowed"
      | some approved =>
        if lower (strip approved.trustLevel) ≠ "production" then some "human_approval_verifier_not_allowed"
        else if approved.verifierKeyId.isSome && decide (verifierKeyId ≠ approved.verifierKeyId) then
          some "human_approval_verifier_key_mismatch"
        else if approved.policyHash.isSome && verifierPolicyHash.isSome && decide (verifierPolicyHash ≠ approved.policyHash) then
          some "human_approval_verifier_policy_hash_mismatch"
        else none

def validateProductionVerifierPolicy (result : SignatureVerificationResult) (policy : Option HumanApprovalVerifierPolicy) : Except Exc Unit :=
  refuseFor (productionVerifierFailure result.verifierTrustLevel result.verifierId result.verifierKeyId result.verifierPolicyHash policy)

def validateSignatureVerificationResult (result : SignatureVerificationResult) (policy : HumanApprovalSignerPolicy) : Except Exc Unit := do
  refuseIf (!result.verified) "human_approval_signature_verification_failed"
  refuseIf (!filled result.keyId) "human_approval_signature_key_id_missing"
  refuseIf (!filled result.algorithm) "human_approval_signature_algorithm_missing"
  refuseIf (policy.requiredSignerIdentities.isSome && !filled result.signerIdentity) "human_approval_signature_signer_identity_missing"
  refuseIf (policy.requiredSignerRoles.isSome && !filled result.signerRole) "human_approval_signature_signer_role_missing"

def outside (allowed : List String) (value : Option String) : Bool := !(value.map allowed.contains).getD false

def outsideOptional (allowed : Option (List String)) (value : Option String) : Bool := (allowed.map fun items => outside items value).getD false

def validateSignerPolicy (result : SignatureVerificationResult) (policy : HumanApprovalSignerPolicy)
    (actionClass policySnapshotId : Option String) : Except Exc Unit := do
  validateSignatureVerificationResult result policy
  refuseIf (outside policy.allowedKeyIds result.keyId) "human_approval_signer_key_not_allowed"
  refuseIf (outside policy.allowedAlgorithms result.algorithm) "human_approval_signer_algorithm_not_allowed"
  refuseIf (outsideOptional policy.requiredSignerRoles result.signerRole) "human_approval_signer_role_not_allowed"
  refuseIf (outsideOptional policy.requiredSignerIdentities result.signerIdentity) "human_approval_signer_identity_not_allowed"
  refuseIf (outsideOptional policy.allowedActionClasses actionClass) "human_approval_signer_action_class_not_allowed"
  refuseIf (outsideOptional policy.allowedPolicySnapshotIds policySnapshotId) "human_approval_signer_policy_snapshot_not_allowed"

def firstPresent (mapping : Dict) (names : List String) : Option String := names.findSome? fun name => optText (mapping.get name)

def orElse (first second : Option String) : Option String := if first.getD "" ≠ "" then first else second

-- What an artifact says of its signer, in its envelope or in the metadata of its receipt.
def signerClaim (artifact : Dict) (envelope signer metadata : List String) : Option String :=
  let receipt := (artifact.get "receipt").asDict?.getD []
  orElse (orElse (firstPresent artifact envelope) (firstPresent (signerMapping artifact) signer))
    (firstPresent ((receipt.get "metadata").asDict?.getD []) metadata)

def contradicts (claim verified : Option String) : Bool := claim.isSome && verified.isSome && decide (claim ≠ verified)

def validateArtifactSignerMetadataClaims (artifact : Dict) (result : SignatureVerificationResult) : Except Exc Unit := do
  let key := ["key_id","signer_key_id"]
  let algorithm := ["algorithm","signer_algorithm"]
  refuseIf (contradicts (signerClaim artifact key key key) result.keyId) "human_approval_signer_key_mismatch"
  refuseIf (contradicts (signerClaim artifact algorithm algorithm algorithm) result.algorithm) "human_approval_signer_algorithm_mismatch"
  refuseIf (contradicts (signerClaim artifact ["signer_identity"] ["signer_identity","identity"] ["signer_identity"]) result.signerIdentity)
    "human_approval_signer_identity_mismatch"
  refuseIf (contradicts (signerClaim artifact ["signer_role"] ["signer_role","role"] ["signer_role"]) result.signerRole)
    "human_approval_signer_role_mismatch"

-- _parse_iso_datetime: a naive time is read as UTC.
def parseIsoDatetime (s : String) : Except Exc (Option Int) :=
  match fromisoformat s.toList with
  | none => .ok none
  | some (wall,none) => .ok (some wall)
  | some (wall,some offset) =>
    if 0 ≤ wall - offset ∧ wall - offset < maxInstant then .ok (some (wall - offset)) else .error ⟨.overflowError,"date value out of range"⟩

def expiryFailures (expiresAt : Value) (now : Moment) : Except Exc (List String) := do
  match ← parseIsoDatetime expiresAt.text with
  | none => return ["human_approval_expiry_unparseable"]
  | some expiry =>
    match Moment.instant now with
    | none => .error (typeError "can't compare offset-naive and offset-aware datetimes")
    | some current => return if expiry ≤ current then ["human_approval_expired"] else []

def differs (wanted : Option String) (actual : Value) : Bool := (wanted.map fun s => !pyEq actual (.str s)).getD false

def reasonSet (reasons : List String) : List String := RuntimeAuthority.sortedTexts reasons.dedup

def objection (holds : Bool) (reason : String) : List String := if holds then [] else [reason]

def validateHumanApprovalReceipt (receipt : HumanApprovalReceipt) (requestedScope : List String)
    (actionClass policySnapshotId : Option String) (now : Moment) : Except Exc (List String) := do
  let expiry ← expiryFailures receipt.expiresAt now
  let scope ← listFrom receipt.approvedScope
  let approved := scope.map fun item => strip item.text
  let wanted := (requestedScope.map strip).filter (· ≠ "")
  return reasonSet (objection (pyEq receipt.approvalResult (.str "approved")) "human_approval_not_approved" ++
    objection (decide (receipt.signatureVerified = .bool true)) "human_approval_signature_unverified" ++
    objection (strip receipt.approverIdentity.text != "") "human_approval_approver_identity_missing" ++
    objection (strip receipt.approverRole.text != "") "human_approval_approver_role_missing" ++ expiry ++
    objection (wanted.all approved.contains) "human_approval_scope_not_granted" ++
    objection (!differs policySnapshotId receipt.policySnapshotId) "human_approval_policy_snapshot_mismatch" ++
    objection (!differs actionClass receipt.approvedActionClass) "human_approval_action_class_mismatch")

section Approval
variable (surroundings : Surroundings)

structure ApprovalRequest where
  artifact : Value
  verifySignatureFn : Option (Dict → Except Exc RawResult)
  requestedScope : List String
  actionClass : Option String
  policySnapshotId : Option String
  now : Option Moment
  signerPolicy : Option HumanApprovalSignerPolicy
  verifierPolicy : Option HumanApprovalVerifierPolicy
  requireStructuredSignatureResult : Bool
  requireProductionVerifier : Bool

structure VerifiedHumanApprovalReceipt where
  receipt : HumanApprovalReceipt
  artifactType : String
  artifactVersion : String
  receiptHash : String
  signerKeyId : Option String
  signerAlgorithm : Option String
  signerIdentity : Option String
  signerRole : Option String
  signerPolicyId : String
  signerPolicyHash : String
  signatureVerificationReason : Option String
  verifierTrustLevel : Option String
  verifierId : Option String
  verifierKeyId : Option String
  verifierPolicyId : Option String
  verifierPolicyHash : Option String
  signedAt : Value
  verifiedAt : String
  verificationSource : String
  requestRef : Value
  aiOutputRef : Value
  executionIntentId : Value
  decisionId : Value
  actionClass : Value
  policySnapshotId : Value
  authorityEvidenceId : Value
  bindContextHash : Value
  verificationProofHash : String

def VerifiedHumanApprovalReceipt.proofHashPayload (proof : VerifiedHumanApprovalReceipt) : Dict :=
  [field "receipt_hash" (.str proof.receiptHash),field "artifact_type" (.str proof.artifactType),
   field "artifact_version" (.str proof.artifactVersion),field "signer_key_id" (optStr proof.signerKeyId),
   field "signer_algorithm" (optStr proof.signerAlgorithm),field "signer_identity" (optStr proof.signerIdentity),
   field "signer_role" (optStr proof.signerRole),field "signer_policy_id" (.str proof.signerPolicyId),
   field "signer_policy_hash" (.str proof.signerPolicyHash),
   field "signature_verification_reason" (optStr proof.signatureVerificationReason),
   field "verifier_trust_level" (optStr proof.verifierTrustLevel),field "verifier_id" (optStr proof.verifierId),
   field "verifier_key_id" (optStr proof.verifierKeyId),field "verifier_policy_id" (optStr proof.verifierPolicyId),
   field "verifier_policy_hash" (optStr proof.verifierPolicyHash),field "signed_at" proof.signedAt,
   field "verified_at" (.str proof.verifiedAt),field "verification_source" (.str proof.verificationSource),
   field "request_ref" proof.requestRef,field "ai_output_ref" proof.aiOutputRef,field "execution_intent_id" proof.executionIntentId,
   field "decision_id" proof.decisionId,field "action_class" proof.actionClass,field "policy_snapshot_id" proof.policySnapshotId,
   field "authority_evidence_id" proof.authorityEvidenceId,field "bind_context_hash" proof.bindContextHash]

-- The payload in the order of VERIFICATION_PROOF_HASH_FIELDS.
def VerifiedHumanApprovalReceipt.issuedPayload (proof : VerifiedHumanApprovalReceipt) : Dict :=
  [field "receipt_hash" (.str proof.receiptHash),field "artifact_type" (.str proof.artifactType),
   field "artifact_version" (.str proof.artifactVersion),field "signer_key_id" (optStr proof.signerKeyId),
   field "signer_algorithm" (optStr proof.signerAlgorithm),field "signed_at" proof.signedAt,
   field "verified_at" (.str proof.verifiedAt),field "verification_source" (.str proof.verificationSource),
   field "signer_identity" (optStr proof.signerIdentity),field "signer_role" (optStr proof.signerRole),
   field "signer_policy_id" (.str proof.signerPolicyId),field "signer_policy_hash" (.str proof.signerPolicyHash),
   field "signature_verification_reason" (optStr proof.signatureVerificationReason),
   field "verifier_trust_level" (optStr proof.verifierTrustLevel),field "verifier_id" (optStr proof.verifierId),
   field "verifier_key_id" (optStr proof.verifierKeyId),field "verifier_policy_id" (optStr proof.verifierPolicyId),
   field "verifier_policy_hash" (optStr proof.verifierPolicyHash),field "request_ref" proof.requestRef,
   field "ai_output_ref" proof.aiOutputRef,field "execution_intent_id" proof.executionIntentId,field "decision_id" proof.decisionId,
   field "action_class" proof.actionClass,field "policy_snapshot_id" proof.policySnapshotId,
   field "authority_evidence_id" proof.authorityEvidenceId,field "bind_context_hash" proof.bindContextHash]

-- The provenance written over the metadata of the receipt.
def verifiedMetadata (result : SignatureVerificationResult) (policyId policyHash verifiedAt token : String) (signedAt : Value) : Dict :=
  [field "verification_source" (.str "signed_human_approval_artifact"),field "artifact_type" (.str "human_approval_receipt"),
   field "artifact_version" (.str "v1"),field "signer_key_id" (optStr result.keyId),field "signer_algorithm" (optStr result.algorithm),
   field "signer_identity" (optStr result.signerIdentity),field "signer_role" (optStr result.signerRole),
   field "signer_policy_id" (.str policyId),field "signer_policy_hash" (.str policyHash),
   field "signature_verification_reason" (optStr result.reason),field "verifier_trust_level" (optStr result.verifierTrustLevel),
   field "verifier_id" (optStr result.verifierId),field "verifier_key_id" (optStr result.verifierKeyId),
   field "verifier_policy_id" (optStr result.verifierPolicyId),field "verifier_policy_hash" (optStr result.verifierPolicyHash),
   field "signed_at" signedAt,field "verified_at" (.str verifiedAt),field "receipt_hash_verified" (.bool true),
   field "signature_verified_by_runtime" (.bool true),field "_runtime_verification_token" (.str token)]

def proofOf (receipt : HumanApprovalReceipt) (receiptHash policyId policyHash verifiedAt : String) (signedAt : Value)
    (result : SignatureVerificationResult) : VerifiedHumanApprovalReceipt where
  receipt := receipt
  artifactType := "human_approval_receipt"
  artifactVersion := "v1"
  receiptHash := receiptHash
  signerKeyId := result.keyId
  signerAlgorithm := result.algorithm
  signerIdentity := result.signerIdentity
  signerRole := result.signerRole
  signerPolicyId := policyId
  signerPolicyHash := policyHash
  signatureVerificationReason := result.reason
  verifierTrustLevel := result.verifierTrustLevel
  verifierId := result.verifierId
  verifierKeyId := result.verifierKeyId
  verifierPolicyId := result.verifierPolicyId
  verifierPolicyHash := result.verifierPolicyHash
  signedAt := signedAt
  verifiedAt := verifiedAt
  verificationSource := "signed_human_approval_artifact"
  requestRef := receipt.requestRef
  aiOutputRef := receipt.aiOutputRef
  executionIntentId := receipt.executionIntentId
  decisionId := receipt.decisionId
  actionClass := receipt.approvedActionClass
  policySnapshotId := receipt.policySnapshotId
  authorityEvidenceId := receipt.authorityEvidenceId
  bindContextHash := receipt.bindContextHash
  verificationProofHash := ""

-- The artifact, the verifier's function and the receipt payload, where the envelope is in order.
def openArtifact (request : ApprovalRequest) : Except Exc (Dict × (Dict → Except Exc RawResult) × Dict) :=
  match request.artifact with
  | .dict artifact => do
    refuseIf (!pyEq (Dict.get artifact "artifact_type") (.str "human_approval_receipt")) "human_approval_artifact_type_invalid"
    refuseIf (!pyEq (Dict.get artifact "artifact_version") (.str "v1")) "human_approval_artifact_version_invalid"
    match request.verifySignatureFn with
    | none => .error (valueError "human_approval_signature_verifier_required")
    | some verify =>
      match Dict.get artifact "receipt" with
      | .dict payload => return (artifact,verify,payload)
      | _ => .error (valueError "human_approval_receipt_missing")
  | _ => .error (valueError "human_approval_artifact_invalid")

-- The receipt of the artifact, with the digest the artifact states.
def unsignedReceipt (artifact payload : Dict) : Except Exc (HumanApprovalReceipt × String) := do
  let unsigned ← receiptFromSignedPayload payload
  let expectedHash ← unsigned.deterministicDigest surroundings.sha256
  refuseIf (!pyEq (artifact.get "receipt_hash") (.str expectedHash)) "human_approval_receipt_hash_mismatch"
  return (unsigned,expectedHash)

def signerPolicyOf (request : ApprovalRequest) : Except Exc HumanApprovalSignerPolicy :=
  match request.signerPolicy with
  | none => .error (valueError "human_approval_signer_policy_required")
  | some policy => .ok policy

-- What the verifier says of the signature, where it satisfies the policies and the artifact.
def checkedSignature (request : ApprovalRequest) (artifact : Dict) (verify : Dict → Except Exc RawResult)
    (policy : HumanApprovalSignerPolicy) : Except Exc SignatureVerificationResult := do
  let raw ← verify artifact
  let result ← structuredVerificationResult raw artifact request.requireStructuredSignatureResult
  if request.requireProductionVerifier then validateProductionVerifierPolicy result request.verifierPolicy
  validateSignerPolicy result policy request.actionClass request.policySnapshotId
  validateArtifactSignerMetadataClaims artifact result
  return result

def verifiedReceipt (unsigned : HumanApprovalReceipt) (expectedHash : String) (metadata : Dict) : Except Exc HumanApprovalReceipt := do
  let scope ← sortedStrings unsigned.approvedScope
  let basis ← sortedStrings unsigned.approvalBasisRefs
  return { unsigned with
    approvedScope := strList scope
    approvalBasisRefs := strList basis
    signatureVerified := .bool true
    receiptHash := .str expectedHash
    metadata := .dict (Dict.update (unsigned.metadata.asDict?.getD []) metadata) }

-- `token` is the uuid of the registration; the clock is read once for verified_at and once to validate.
def verifyHumanApprovalReceiptArtifactToProof (token : String) (request : ApprovalRequest) : Except Exc VerifiedHumanApprovalReceipt := do
  let (artifact,verify,payload) ← openArtifact request
  let (unsigned,expectedHash) ← unsignedReceipt surroundings artifact payload
  let policy ← signerPolicyOf request
  let result ← checkedSignature request artifact verify policy
  let policyHash ← policy.deterministicHash surroundings.sha256
  let verifiedAt := isoformat (surroundings.orNow request.now .result)
  let signedAt := Dict.get artifact "signed_at"
  let receipt ← verifiedReceipt unsigned expectedHash (verifiedMetadata result policy.policyId policyHash verifiedAt token signedAt)
  let failures ← validateHumanApprovalReceipt receipt request.requestedScope request.actionClass request.policySnapshotId
    (surroundings.orNow request.now .expiry)
  refuseFor failures.head?
  let proof := proofOf receipt expectedHash policy.policyId policyHash verifiedAt signedAt result
  let proofHash ← sha256OfCanonicalJson surroundings.sha256 (.dict proof.issuedPayload)
  return { proof with verificationProofHash := proofHash }

end Approval

-- What the validator is called with besides the proof. A time that is given is one of Python's.
structure ApprovalContext where
  requestedScope : List String
  actionClass : Option String
  policySnapshotId : Option String
  now : Option Moment
  requestRef : Option String
  aiOutputRef : Option String
  executionIntentId : Option String
  bindContextHash : Option String
  authorityEvidenceId : Option String
  verifierPolicy : Option HumanApprovalVerifierPolicy
  real : ∀ moment, now = some moment → Representable moment

-- expected is not None and str(expected) != str(actual)
def unbound (expected : Option String) (actual : Value) : Bool := (expected.map fun s => decide (s ≠ actual.text)).getD false

-- validate_human_approval_context_binding; the validator gives no decision id.
def contextBindingFailures (receipt : HumanApprovalReceipt) (context : ApprovalContext) : List String :=
  reasonSet (objection (!unbound context.requestRef receipt.requestRef) "human_approval_request_ref_mismatch" ++
    objection (!unbound context.aiOutputRef receipt.aiOutputRef) "human_approval_ai_output_ref_mismatch" ++
    objection (!unbound context.executionIntentId receipt.executionIntentId) "human_approval_execution_intent_mismatch" ++
    objection (!unbound context.actionClass receipt.approvedActionClass) "human_approval_action_class_mismatch" ++
    objection (!unbound context.policySnapshotId receipt.policySnapshotId) "human_approval_policy_snapshot_mismatch" ++
    objection (!unbound context.authorityEvidenceId receipt.authorityEvidenceId) "human_approval_authority_evidence_mismatch" ++
    objection (!unbound context.bindContextHash receipt.bindContextHash) "human_approval_bind_context_hash_mismatch")

section Runtime
variable (world : World)

def approvedState (receipt : HumanApprovalReceipt) (scope : List String) (validatedAt : String) : Dict :=
  [field "approved" (.bool true),field "approval_state_source" (.str "validated_human_approval_receipt"),
   field "approval_receipt_id" receipt.approvalReceiptId,field "approver_identity" receipt.approverIdentity,
   field "approver_role" receipt.approverRole,field "approved_scope" (strList scope),
   field "approved_action_class" receipt.approvedActionClass,field "policy_snapshot_id" receipt.policySnapshotId,
   field "receipt_hash" receipt.receiptHash,field "validated_at" (.str validatedAt)]

def buildHumanApprovalState (receipt : HumanApprovalReceipt) (context : ApprovalContext) : Except Exc Dict := do
  let evaluatedAt := world.surroundings.orNow context.now .expiry
  let failures ← validateHumanApprovalReceipt receipt context.requestedScope context.actionClass context.policySnapshotId evaluatedAt
  if !failures.isEmpty then return [field "approved" (.bool false),field "failure_reasons" (strList failures)]
  else
    let finalized ← withReceiptHash world.surroundings.sha256 receipt
    let scope ← sortedStrings finalized.approvedScope
    let state := approvedState finalized scope (isoformat evaluatedAt)
    let validationHash ← approvalValidationHash world state (scope.map .str)
    return state ++ [field "approval_validation_hash" (.str validationHash)]

def validatedHumanApprovalProof (proof : VerifiedHumanApprovalReceipt) (context : ApprovalContext) : Except Exc (Bool × String) :=
  if proof.verificationSource ≠ "signed_human_approval_artifact" then .ok (false,"human_approval_artifact_provenance_required")
  else
    match (if runtimePosture world.env = "prod" then productionVerifierFailure proof.verifierTrustLevel proof.verifierId proof.verifierKeyId
        proof.verifierPolicyHash context.verifierPolicy else none) with
    | some reason => .ok (false,reason)
    | none =>
      if proof.receipt.signatureVerified ≠ .bool true then .ok (false,"human_approval_signature_unverified")
      else if !pyEq proof.receipt.receiptHash (.str proof.receiptHash) then .ok (false,"human_approval_receipt_hash_mismatch")
      else do
        let expected ← sha256OfCanonicalJson world.surroundings.sha256 (.dict proof.proofHashPayload)
        if proof.verificationProofHash ≠ expected then return (false,"human_approval_verification_proof_hash_mismatch")
        else
          match contextBindingFailures proof.receipt context with
          | reason :: _ => return (false,reason)
          | [] =>
            let state ← buildHumanApprovalState world proof.receipt context
            validatedHumanApprovalState world state

end Runtime

theorem objection_none : objection holds reason = [] ↔ holds = true := by
  cases holds <;> simp [objection]

theorem reasonSet_none : reasonSet reasons = [] ↔ reasons = [] := by
  have perm : (reasonSet reasons).Perm reasons.dedup := List.perm_insertionSort _ _
  constructor
  · intro none
    rw [none] at perm
    exact (List.dedup_eq_nil reasons).mp perm.nil_eq.symm
  · rintro rfl
    rfl

variable {now : Moment} {receipt : HumanApprovalReceipt} {s : String} {proof : VerifiedHumanApprovalReceipt} {expiry : Int}
variable {sha256 : String → String}

theorem expiry_parts (passed : expiryFailures expiresAt now = .ok []) : ∃ expiry, parseIsoDatetime expiresAt.text = .ok (some expiry) := by
  obtain ⟨parsed,read,passed⟩ := bind_ok.mp passed
  cases parsed with
  | none => cases passed
  | some expiry => exact ⟨expiry,read⟩

-- What a receipt needs of its own for the validation to pass, whatever is asked of it.
structure Standing (receipt : HumanApprovalReceipt) : Prop where
  signature : receipt.signatureVerified = .bool true
  result : receipt.approvalResult = .str "approved"
  identity : strip receipt.approverIdentity.text ≠ ""
  role : strip receipt.approverRole.text ≠ ""
  expiry : ∃ expiry, parseIsoDatetime receipt.expiresAt.text = .ok (some expiry)

theorem validate_standing (valid : validateHumanApprovalReceipt receipt requestedScope actionClass policySnapshotId now = .ok []) :
    Standing receipt := by
  obtain ⟨expiry,read,valid⟩ := bind_ok.mp valid
  obtain ⟨scope,_,valid⟩ := bind_ok.mp valid
  have none := reasonSet_none.mp (Except.ok.inj valid)
  simp only [List.append_eq_nil_iff,objection_none,pyEq_str,decide_eq_true_eq,bne_iff_ne,ne_eq] at none
  obtain ⟨⟨⟨⟨⟨⟨⟨result,signature⟩,identity⟩,role⟩,rfl⟩,_⟩,_⟩,_⟩ := none
  exact ⟨signature,result,identity,role,expiry_parts read⟩

theorem validate_unasked (standing : Standing receipt) (scope : listFrom receipt.approvedScope = .ok items)
    (unexpired : expiryFailures receipt.expiresAt now = .ok []) : validateHumanApprovalReceipt receipt [] none none now = .ok [] := by
  refine bind_ok.mpr ⟨[],unexpired,bind_ok.mpr ⟨items,scope,?_⟩⟩
  refine congrArg Except.ok (reasonSet_none.mpr ?_)
  simp only [List.append_eq_nil_iff,objection_none,pyEq_str,decide_eq_true_eq,bne_iff_ne,ne_eq]
  exact ⟨⟨⟨⟨⟨⟨⟨standing.result,standing.signature⟩,standing.identity⟩,standing.role⟩,trivial⟩,rfl⟩,rfl⟩,rfl⟩

def nonBlank (value : Value) : Prop := strip (value.orStr "") ≠ ""

variable {world : World}

theorem approved_state_exact
    (hashed : approvalValidationHash world (approvedState receipt scope validatedAt) (scope.map .str) = .ok validationHash) :
    (∃ reason, validatedHumanApprovalState world
      (approvedState receipt scope validatedAt ++ [field "approval_validation_hash" (.str validationHash)]) = .ok (true,reason)) ↔
    nonBlank receipt.approvalReceiptId ∧ nonBlank receipt.receiptHash ∧ nonBlank receipt.approvedActionClass ∧
      nonBlank receipt.policySnapshotId ∧ nonBlank (.str validatedAt) ∧ nonBlank (.str validationHash) := by
  have again : approvalValidationHash world
      (approvedState receipt scope validatedAt ++ [field "approval_validation_hash" (.str validationHash)]) (scope.map .str) =
        .ok validationHash := hashed
  have filled : approvalFields.all (fun name => strip ((Dict.get
        (approvedState receipt scope validatedAt ++ [field "approval_validation_hash" (.str validationHash)]) name).orStr "") != "") = true ↔
      nonBlank receipt.approvalReceiptId ∧ nonBlank receipt.receiptHash ∧ nonBlank receipt.approvedActionClass ∧
        nonBlank receipt.policySnapshotId ∧ nonBlank (.str validatedAt) ∧ nonBlank (.str validationHash) := by
    simp [approvalFields,approvedState,Dict.get,lookup,field,nonBlank]
  have approved : (Dict.get (approvedState receipt scope validatedAt ++ [field "approval_validation_hash" (.str validationHash)])
    "approved").truthy = true := rfl
  have source : pyEq (Dict.get (approvedState receipt scope validatedAt ++ [field "approval_validation_hash" (.str validationHash)])
    "approval_state_source") (.str "validated_human_approval_receipt") = true := (pyEq_str _ _).mpr rfl
  have listed : Dict.get (approvedState receipt scope validatedAt ++ [field "approval_validation_hash" (.str validationHash)])
    "approved_scope" = .list (scope.map .str) := rfl
  have stated : pyEq (Dict.get (approvedState receipt scope validatedAt ++ [field "approval_validation_hash" (.str validationHash)])
    "approval_validation_hash") (.str validationHash) = true := (pyEq_str _ _).mpr rfl
  have clean : (Dict.get (approvedState receipt scope validatedAt ++ [field "approval_validation_hash" (.str validationHash)])
    "failure_reasons").truthy = false := rfl
  rw [← filled]
  generalize approvedState receipt scope validatedAt ++ [field "approval_validation_hash" (.str validationHash)] = state at *
  unfold validatedHumanApprovalState
  simp only [approved,source,listed,again,clean,Bool.not_true,Bool.false_eq_true,if_false]
  cases all : approvalFields.all fun name => strip ((Dict.get state name).orStr "") != "" with
  | false => simp
  | true =>
    refine ⟨fun _ => rfl,fun _ => ⟨"human_approval_present",?_⟩⟩
    show (if (!pyEq (Dict.get state "approval_validation_hash") (.str validationHash)) = true then _ else _) = _
    rw [stated]
    rfl

theorem filled_strip (listed : c ∈ s.toList) (solid : isSpace c = false) : strip s ≠ "" := by
  intro blank
  unfold strip stripBy at blank
  have none : ((s.toList.dropWhile isSpace).rdropWhile isSpace) = [] := by simpa using congrArg String.toList blank
  have spaces := List.rdropWhile_eq_nil_iff.mp none
  rcases front : s.toList.dropWhile isSpace with _ | ⟨first,rest⟩
  · rw [List.dropWhile_eq_nil_iff.mp front c listed] at solid
    cases solid
  · have kept := List.head?_dropWhile_not isSpace s.toList
    rw [front] at kept spaces
    simp [spaces first List.mem_cons_self] at kept

theorem isoformat_filled (moment : Moment) : nonBlank (.str (isoformat moment)) := by
  have text : 'T' ∈ (isoformat moment).toList := by simp [isoformat]
  have shown : (Value.str (isoformat moment)).orStr "" = isoformat moment := by
    unfold Value.orStr
    split
    · rfl
    · rename_i empty
      simp [Value.truthy] at empty
      rw [empty] at text
      cases text
  unfold nonBlank
  rw [shown]
  exact filled_strip text (by decide)

-- Where the validator's answer to a proof is a yes.
def Accepted (world : World) (context : ApprovalContext) (proof : VerifiedHumanApprovalReceipt) : Prop :=
  ∃ reason, validatedHumanApprovalProof world proof context = .ok (true,reason)

-- What the validation looks at in the receipt of a proof. The receipt's own digest is taken, but
-- compared with nothing.
structure Acceptable (sha256 : String → String) (receiptHash : String) (receipt : HumanApprovalReceipt) : Prop extends Standing receipt where
  hash : receipt.receiptHash = .str receiptHash
  digest : ∃ digest, receipt.deterministicDigest sha256 = .ok digest
  receiptId : nonBlank receipt.approvalReceiptId
  actionClass : nonBlank receipt.approvedActionClass
  snapshot : nonBlank receipt.policySnapshotId

theorem built_parts (built : buildHumanApprovalState world receipt context = .ok state)
    (passed : validatedHumanApprovalState world state = .ok (true,reason)) :
    Standing receipt ∧ (∃ digest, receipt.deterministicDigest world.surroundings.sha256 = .ok digest) ∧
      nonBlank receipt.approvalReceiptId ∧ nonBlank receipt.approvedActionClass ∧ nonBlank receipt.policySnapshotId := by
  obtain ⟨failures,valid,built⟩ := bind_ok.mp built
  cases failures with
  | cons first rest =>
    cases built
    have refused : validatedHumanApprovalState world [field "approved" (.bool false),field "failure_reasons" (strList (first :: rest))] =
      .ok (false,((RuntimeAuthority.sortedTexts (((first :: rest).map Value.str).map Value.text)).head?).getD "") := rfl
    rw [refused] at passed
    cases passed
  | nil =>
    obtain ⟨finalized,hashed,built⟩ := bind_ok.mp built
    obtain ⟨scope,_,built⟩ := bind_ok.mp built
    obtain ⟨validationHash,validated,built⟩ := bind_ok.mp built
    cases built
    obtain ⟨id,_,action,snapshot,_⟩ := (approved_state_exact validated).mp ⟨reason,passed⟩
    obtain ⟨digest,digested,hashed⟩ := bind_ok.mp hashed
    obtain ⟨_,_,hashed⟩ := bind_ok.mp hashed
    obtain ⟨_,_,hashed⟩ := bind_ok.mp hashed
    cases hashed
    exact ⟨validate_standing valid,⟨digest,digested⟩,id,action,snapshot⟩

theorem accepted_acceptable (accepted : Accepted world context proof) :
    Acceptable world.surroundings.sha256 proof.receiptHash proof.receipt := by
  obtain ⟨reason,accepted⟩ := accepted
  unfold validatedHumanApprovalProof at accepted
  split at accepted
  · cases accepted
  · split at accepted
    · cases accepted
    · split at accepted
      · cases accepted
      · split at accepted
        · cases accepted
        · rename_i hash
          obtain ⟨expected,_,accepted⟩ := bind_ok.mp accepted
          split at accepted
          · cases accepted
          · split at accepted
            · cases accepted
            · obtain ⟨state,built,passed⟩ := bind_ok.mp accepted
              obtain ⟨standing,digest,id,action,snapshot⟩ := built_parts built passed
              exact { standing with
                hash := (pyEq_str _ _).mp (by simpa using hash)
                digest := digest
                receiptId := id
                actionClass := action
                snapshot := snapshot }

-- What a proof keeps when its receipt is exchanged.
structure Sealed (sha256 : String → String) (proof : VerifiedHumanApprovalReceipt) : Prop where
  source : proof.verificationSource = "signed_human_approval_artifact"
  hash : sha256OfCanonicalJson sha256 (.dict proof.proofHashPayload) = .ok proof.verificationProofHash

def plainContext : ApprovalContext where
  requestedScope := []
  actionClass := none
  policySnapshotId := none
  now := some (0,some 3600000000)
  requestRef := none
  aiOutputRef := none
  executionIntentId := none
  bindContextHash := none
  authorityEvidenceId := none
  verifierPolicy := none
  real := by
    intro moment given
    cases given
    refine ⟨by decide,fun offset given => ?_⟩
    cases given
    decide

theorem parsed_range (parsed : parseIsoDatetime s = .ok (some expiry)) : 0 ≤ expiry := by
  unfold parseIsoDatetime at parsed
  split at parsed
  · cases parsed
  · rename_i read
    cases parsed
    exact fromisoformat_nonneg read
  · split at parsed
    · rename_i range
      cases parsed
      exact range.1
    · cases parsed

theorem plain_unexpired (parsed : parseIsoDatetime expiresAt.text = .ok (some expiry)) :
    expiryFailures expiresAt (0,some 3600000000) = .ok [] := by
  have future : ¬expiry ≤ 0 - 3600000000 := by
    have range := parsed_range parsed
    omega
  exact bind_ok.mpr ⟨some expiry,parsed,congrArg Except.ok (if_neg future)⟩

theorem sha256_recordable : (∃ digest, sha256OfCanonicalJson sha256 payload = .ok digest) ↔ Recordable payload := by
  rw [← canonical_recordable]
  unfold sha256OfCanonicalJson
  cases canonicalJsonDumps payload with
  | none => simp
  | some text => simp

theorem receiptDict_named : StrKeys (receiptDict receipt scope basis) := by
  simp [StrKeys,receiptDict,field]

theorem digest_parts (digested : receipt.deterministicDigest sha256 = .ok digest) :
    ∃ items basis, listFrom receipt.approvedScope = .ok items ∧ sortedStrings receipt.approvalBasisRefs = .ok basis ∧
      Recordable receipt.approvalReceiptId ∧ Recordable receipt.approvedActionClass ∧ Recordable receipt.policySnapshotId := by
  obtain ⟨payload,made,hashed⟩ := bind_ok.mp digested
  obtain ⟨whole,listed,made⟩ := bind_ok.mp made
  obtain ⟨scope,sorted,listed⟩ := bind_ok.mp listed
  obtain ⟨basis,refs,listed⟩ := bind_ok.mp listed
  obtain ⟨items,read,_⟩ := bind_ok.mp sorted
  cases listed
  cases made
  have recordable := sha256_recordable.mp ⟨digest,hashed⟩
  refine ⟨items,basis,read,refs,?_,?_,?_⟩
  · exact recordable_member recordable (show field "approval_receipt_id" receipt.approvalReceiptId ∈ _ by simp [receiptDict,named,field])
  · exact recordable_member recordable (show field "approved_action_class" receipt.approvedActionClass ∈ _ by simp [receiptDict,named,field])
  · exact recordable_member recordable (show field "policy_snapshot_id" receipt.policySnapshotId ∈ _ by simp [receiptDict,named,field])

theorem texts_recordable (texts : List String) : Recordable (strList texts) := by
  rw [strList,recordable_list]
  intro item listed
  obtain ⟨text,_,rfl⟩ := List.mem_map.mp listed
  exact recordable_str text

theorem digest_made (granted : listFrom receipt.approvedScope = .ok scope) (refs : listFrom receipt.approvalBasisRefs = .ok basis)
    (whole : ∀ scope basis, ∀ member ∈ receiptDict receipt scope basis, Recordable member.2) :
    ∃ digest, receipt.deterministicDigest sha256 = .ok digest := by
  have payload (scope basis : List String) : Recordable (.dict ((receiptDict receipt scope basis).filter fun member =>
      !named ["receipt_hash"] member)) :=
    (recordable_dict fun member listed => receiptDict_named member (List.mem_of_mem_filter listed)).mpr fun member listed =>
      whole scope basis member (List.mem_of_mem_filter listed)
  obtain ⟨digest,hashed⟩ : ∃ digest, sha256OfCanonicalJson sha256 _ = .ok digest := sha256_recordable.mpr
    (payload (RuntimeAuthority.sortedTexts (scope.map Value.text)) (RuntimeAuthority.sortedTexts (basis.map Value.text)))
  refine ⟨digest,bind_ok.mpr ⟨_,?_,hashed⟩⟩
  refine bind_ok.mpr ⟨_,bind_ok.mpr ⟨_,bind_ok.mpr ⟨scope,granted,rfl⟩,?_⟩,rfl⟩
  exact bind_ok.mpr ⟨_,bind_ok.mpr ⟨basis,refs,rfl⟩,rfl⟩

theorem validationHash_made (world : World) (scope : List String) (validatedAt : String)
    (hash : receipt.receiptHash = .str digest) (id : Recordable receipt.approvalReceiptId)
    (action : Recordable receipt.approvedActionClass) (snapshot : Recordable receipt.policySnapshotId) :
    ∃ validationHash, approvalValidationHash world (approvedState receipt scope validatedAt) (scope.map .str) = .ok validationHash := by
  refine sha256_recordable.mpr ((recordable_dict (by simp [StrKeys,field])).mpr ?_)
  simp [approvedState,Dict.get,lookup,field,hash,id,action,snapshot,texts_recordable]

theorem text_filled (solid : strip s ≠ "") : nonBlank (.str s) := by
  unfold nonBlank Value.orStr
  split
  · exact solid
  · rename_i empty
    simp [Value.truthy] at empty
    rw [empty] at solid
    exact absurd (by decide) solid

theorem acceptable_accepted (lax : runtimePosture world.env ≠ "prod") (digests : ∀ text, strip (world.surroundings.sha256 text) ≠ "")
    (sealed_ : Sealed world.surroundings.sha256 proof) (acceptable : Acceptable world.surroundings.sha256 proof.receiptHash proof.receipt) :
    Accepted world plainContext proof := by
  obtain ⟨digest,digested⟩ := acceptable.digest
  obtain ⟨items,basis,read,refs,id,action,snapshot⟩ := digest_parts digested
  obtain ⟨expiry,parsed⟩ := acceptable.expiry
  have valid := validate_unasked acceptable.toStanding read (plain_unexpired parsed)
  have sorted : sortedStrings proof.receipt.approvedScope = .ok (RuntimeAuthority.sortedTexts (items.map Value.text)) :=
    bind_ok.mpr ⟨items,read,rfl⟩
  obtain ⟨finalized,finalizes,fields⟩ : ∃ finalized, withReceiptHash world.surroundings.sha256 proof.receipt = .ok finalized ∧
      finalized = { proof.receipt with
        approvedScope := strList (RuntimeAuthority.sortedTexts (items.map Value.text))
        approvalBasisRefs := strList basis
        receiptHash := .str digest } :=
    ⟨_,bind_ok.mpr ⟨digest,digested,bind_ok.mpr ⟨_,sorted,bind_ok.mpr ⟨basis,refs,rfl⟩⟩⟩,rfl⟩
  obtain ⟨scope,again⟩ : ∃ scope, sortedStrings finalized.approvedScope = .ok scope := ⟨_,by rw [fields]; rfl⟩
  obtain ⟨validationHash,validated⟩ := validationHash_made world scope (isoformat (0,some 3600000000)) (show finalized.receiptHash = .str digest by rw [fields])
    (show Recordable finalized.approvalReceiptId by rw [fields]; exact id)
    (show Recordable finalized.approvedActionClass by rw [fields]; exact action)
    (show Recordable finalized.policySnapshotId by rw [fields]; exact snapshot)
  have made : buildHumanApprovalState world proof.receipt plainContext =
      .ok (approvedState finalized scope (isoformat (0,some 3600000000)) ++ [field "approval_validation_hash" (.str validationHash)]) :=
    bind_ok.mpr ⟨[],valid,bind_ok.mpr ⟨finalized,finalizes,bind_ok.mpr ⟨scope,again,
      bind_ok.mpr ⟨validationHash,validated,rfl⟩⟩⟩⟩
  have hex {payload : Value} {hash : String} (hashed : sha256OfCanonicalJson world.surroundings.sha256 payload = .ok hash) :
      nonBlank (.str hash) := by
    unfold sha256OfCanonicalJson at hashed
    split at hashed
    · cases hashed
    · cases hashed
      exact text_filled (digests _)
  have ownDigest : nonBlank (.str digest) := by
    obtain ⟨_,_,hashed⟩ := bind_ok.mp digested
    exact hex hashed
  obtain ⟨reason,passed⟩ := (approved_state_exact validated).mpr ⟨by rw [fields]; exact acceptable.receiptId,by rw [fields]; exact ownDigest,
    by rw [fields]; exact acceptable.actionClass,by rw [fields]; exact acceptable.snapshot,isoformat_filled _,hex validated⟩
  refine ⟨reason,?_⟩
  have bound : contextBindingFailures proof.receipt plainContext = [] := rfl
  have hash : pyEq proof.receipt.receiptHash (.str proof.receiptHash) = true := (pyEq_str _ _).mpr acceptable.hash
  unfold validatedHumanApprovalProof
  rw [if_neg (fun other => other sealed_.source),if_neg lax]
  dsimp only
  rw [if_neg (fun other => other acceptable.signature),hash,sealed_.hash]
  show (if proof.verificationProofHash ≠ proof.verificationProofHash then _ else _) = _
  rw [if_neg (fun other => other rfl),bound]
  exact bind_ok.mpr ⟨_,made,passed⟩

theorem payload_perm (proof : VerifiedHumanApprovalReceipt) : proof.proofHashPayload.Perm proof.issuedPayload := by
  show ((proof.proofHashPayload.take 5 ++ ((proof.proofHashPayload.drop 5).take 10 ++ (proof.proofHashPayload.drop 15).take 3)) ++
      proof.proofHashPayload.drop 18).Perm
    ((proof.proofHashPayload.take 5 ++ ((proof.proofHashPayload.drop 15).take 3 ++ (proof.proofHashPayload.drop 5).take 10)) ++
      proof.proofHashPayload.drop 18)
  exact (List.perm_append_comm.append_left _).append_right _

theorem payload_record (proof : VerifiedHumanApprovalReceipt) : Record proof.proofHashPayload where
  named := by simp [StrKeys,VerifiedHumanApprovalReceipt.proofHashPayload,field]
  distinct := by
    have keys : proof.proofHashPayload.map Prod.fst = ["receipt_hash","artifact_type","artifact_version","signer_key_id","signer_algorithm",
      "signer_identity","signer_role","signer_policy_id","signer_policy_hash","signature_verification_reason","verifier_trust_level",
      "verifier_id","verifier_key_id","verifier_policy_id","verifier_policy_hash","signed_at","verified_at","verification_source",
      "request_ref","ai_output_ref","execution_intent_id","decision_id","action_class","policy_snapshot_id","authority_evidence_id",
      "bind_context_hash"].map Key.str := rfl
    rw [keys]
    decide +kernel

theorem payload_hash (sha256 : String → String) (proof : VerifiedHumanApprovalReceipt) :
    sha256OfCanonicalJson sha256 (.dict proof.proofHashPayload) = sha256OfCanonicalJson sha256 (.dict proof.issuedPayload) := by
  unfold sha256OfCanonicalJson
  rw [canonical_perm (payload_record proof) (payload_perm proof)]

theorem issued_sealed
    (issued : verifyHumanApprovalReceiptArtifactToProof surroundings token request = .ok proof) : Sealed surroundings.sha256 proof := by
  obtain ⟨⟨artifact,verify,payload⟩,_,issued⟩ := bind_ok.mp issued
  obtain ⟨⟨unsigned,expectedHash⟩,_,issued⟩ := bind_ok.mp issued
  obtain ⟨policy,_,issued⟩ := bind_ok.mp issued
  obtain ⟨result,_,issued⟩ := bind_ok.mp issued
  obtain ⟨policyHash,_,issued⟩ := bind_ok.mp issued
  obtain ⟨receipt,_,issued⟩ := bind_ok.mp issued
  obtain ⟨failures,_,issued⟩ := bind_ok.mp issued
  obtain ⟨_,_,issued⟩ := bind_ok.mp issued
  obtain ⟨proofHash,hashed,issued⟩ := bind_ok.mp issued
  cases issued
  exact ⟨rfl,(payload_hash _ _).trans hashed⟩

def laxWorld (surroundings : Surroundings) : World := { RuntimeAuthority.sampleWorld (fun _ => none) with surroundings }

theorem lax_posture (surroundings : Surroundings) : runtimePosture (laxWorld surroundings).env ≠ "prod" := by
  have dev : runtimePosture (fun _ => none) = "dev" := by decide
  show runtimePosture (fun _ => none) ≠ "prod"
  rw [dev]
  decide

theorem exchange_rejected {surroundings : Surroundings} {token : String} {request : ApprovalRequest} {proof : VerifiedHumanApprovalReceipt}
    (digests : ∀ text, strip (surroundings.sha256 text) ≠ "")
    (issued : verifyHumanApprovalReceiptArtifactToProof surroundings token request = .ok proof) (receipt : HumanApprovalReceipt) :
    (∀ (world : World) (context : ApprovalContext), world.surroundings.sha256 = surroundings.sha256 →
      ¬Accepted world context { proof with receipt }) ↔ ¬Acceptable surroundings.sha256 proof.receiptHash receipt := by
  obtain ⟨source,hash⟩ := issued_sealed issued
  constructor
  · intro rejected acceptable
    have kept : Sealed (laxWorld surroundings).surroundings.sha256 { proof with receipt } := ⟨source,hash⟩
    have accepted : Accepted (laxWorld surroundings) plainContext { proof with receipt } :=
      acceptable_accepted (lax_posture surroundings) digests kept acceptable
    exact rejected (laxWorld surroundings) plainContext rfl accepted
  · intro unacceptable world context same accepted
    have acceptable := accepted_acceptable accepted
    rw [same] at acceptable
    exact unacceptable acceptable

def sampleUnsigned : HumanApprovalReceipt where
  approvalReceiptId := .str "approval-1"
  decisionId := .str "decision-1"
  executionIntentId := .str "intent-1"
  approverIdentity := .str "officer-1"
  approverRole := .str "officer"
  approvedActionClass := .str "transfer"
  approvedScope := .list [.str "pay"]
  approvalBasisRefs := .list []
  approvedAt := .str "2026-01-01T00:00:00+00:00"
  expiresAt := .str "2027-01-01T00:00:00+00:00"
  policySnapshotId := .str "snapshot-1"
  authorityEvidenceId := .none
  approvalResult := .str "approved"
  signatureVerified := .bool false
  receiptHash := .str ""
  requestRef := .none
  aiOutputRef := .none
  bindContextHash := .none
  metadata := .dict []

def samplePayload : Dict :=
  [field "approval_receipt_id" (.str "approval-1"),field "decision_id" (.str "decision-1"),
   field "execution_intent_id" (.str "intent-1"),field "approver_identity" (.str "officer-1"),field "approver_role" (.str "officer"),
   field "approved_action_class" (.str "transfer"),field "approved_scope" (.list [.str "pay"]),
   field "approval_basis_refs" (.list []),field "approved_at" (.str "2026-01-01T00:00:00+00:00"),
   field "expires_at" (.str "2027-01-01T00:00:00+00:00"),field "policy_snapshot_id" (.str "snapshot-1"),
   field "authority_evidence_id" .none,field "approval_result" (.str "approved")]

def sampleResult : SignatureVerificationResult where
  verified := true
  keyId := some "officer-key"
  algorithm := some "ed25519"

def sampleArtifact (digest : String) : Dict :=
  [field "artifact_type" (.str "human_approval_receipt"),field "artifact_version" (.str "v1"),field "receipt" (.dict samplePayload),
   field "receipt_hash" (.str digest)]

def samplePolicy : HumanApprovalSignerPolicy where
  policyId := "signers-1"
  allowedKeyIds := ["officer-key"]
  allowedAlgorithms := ["ed25519"]
  policyHash := some "policy-hash"

def sampleRequest (digest : String) : ApprovalRequest where
  artifact := .dict (sampleArtifact digest)
  verifySignatureFn := some fun _ => .ok (.structured sampleResult)
  requestedScope := []
  actionClass := none
  policySnapshotId := none
  now := some AuthorityProof.sampleNow
  signerPolicy := some samplePolicy
  verifierPolicy := none
  requireStructuredSignatureResult := true
  requireProductionVerifier := false

theorem sample_read : receiptFromSignedPayload samplePayload = .ok sampleUnsigned := rfl

theorem sample_checked (digest : String) :
    checkedSignature (sampleRequest digest) (sampleArtifact digest) (fun _ => .ok (.structured sampleResult)) samplePolicy = .ok sampleResult := rfl

def sampleReceipt (digest : String) (scope : List Value) (expiresAt : String) : HumanApprovalReceipt :=
  { sampleUnsigned with
    approvedScope := .list scope
    expiresAt := .str expiresAt
    signatureVerified := .bool true
    receiptHash := .str digest
    metadata := .dict (verifiedMetadata sampleResult "signers-1" "policy-hash" (isoformat AuthorityProof.sampleNow) "token-1" .none) }

theorem sample_verified (digest : String) :
    verifiedReceipt sampleUnsigned digest (verifiedMetadata sampleResult "signers-1" "policy-hash" (isoformat AuthorityProof.sampleNow) "token-1" .none) =
      .ok (sampleReceipt digest [.str "pay"] "2027-01-01T00:00:00+00:00") := rfl

theorem sample_standing (digest : String) (scope : List Value)
    (parsed : parseIsoDatetime expiresAt = .ok (some expiry)) : Standing (sampleReceipt digest scope expiresAt) where
  signature := rfl
  result := rfl
  identity := show strip "officer-1" ≠ "" by decide
  role := show strip "officer" ≠ "" by decide
  expiry := ⟨expiry,parsed⟩

theorem sample_digest (sha256 : String → String) (digest : String) (scope : List Value) (expiresAt : String) :
    ∃ found, (sampleReceipt digest scope expiresAt).deterministicDigest sha256 = .ok found := by
  refine digest_made rfl rfl fun texts basis => ?_
  have metadata : Recordable (sampleReceipt digest scope expiresAt).metadata := rfl
  simp [receiptDict,field,metadata,texts_recordable]
  simp [sampleReceipt,sampleUnsigned]

theorem unsigned_digest (sha256 : String → String) : ∃ digest, sampleUnsigned.deterministicDigest sha256 = .ok digest := by
  refine digest_made rfl rfl fun texts basis => ?_
  have metadata : Recordable sampleUnsigned.metadata := rfl
  simp [receiptDict,field,metadata,texts_recordable]
  simp [sampleUnsigned]

theorem sample_acceptable (sha256 : String → String) (digest : String) (scope : List Value)
    (parsed : parseIsoDatetime expiresAt = .ok (some expiry)) : Acceptable sha256 digest (sampleReceipt digest scope expiresAt) :=
  { sample_standing digest scope parsed with
    hash := rfl
    digest := sample_digest sha256 digest scope expiresAt
    receiptId := text_filled (show strip "approval-1" ≠ "" by decide)
    actionClass := text_filled (show strip "transfer" ≠ "" by decide)
    snapshot := text_filled (show strip "snapshot-1" ≠ "" by decide) }

theorem first_expiry : parseIsoDatetime "2027-01-01T00:00:00+00:00" = .ok (some (daysBeforeYear 2027 * dayMicros)) := by decide +kernel

theorem second_expiry : parseIsoDatetime "2036-01-01T00:00:00+00:00" = .ok (some (daysBeforeYear 2036 * dayMicros)) := by decide +kernel

theorem sample_unexpired : expiryFailures (.str "2027-01-01T00:00:00+00:00") AuthorityProof.sampleNow = .ok [] := by decide +kernel

theorem sample_issued (surroundings : Surroundings) : ∃ request digest proof,
    verifyHumanApprovalReceiptArtifactToProof surroundings "token-1" request = .ok proof ∧ proof.receiptHash = digest ∧
      proof.receipt = sampleReceipt digest [.str "pay"] "2027-01-01T00:00:00+00:00" := by
  obtain ⟨digest,digested⟩ := unsigned_digest surroundings.sha256
  have opened : openArtifact (sampleRequest digest) = .ok (sampleArtifact digest,fun _ => .ok (.structured sampleResult),samplePayload) := rfl
  have stated : pyEq (Dict.get (sampleArtifact digest) "receipt_hash") (.str digest) = true := (pyEq_str _ _).mpr rfl
  have unsigned : unsignedReceipt surroundings (sampleArtifact digest) samplePayload = .ok (sampleUnsigned,digest) :=
    bind_ok.mpr ⟨_,sample_read,bind_ok.mpr ⟨digest,digested,bind_ok.mpr ⟨(),refuseIf_ok.mpr (by rw [stated]; rfl),rfl⟩⟩⟩
  have valid : validateHumanApprovalReceipt (sampleReceipt digest [.str "pay"] "2027-01-01T00:00:00+00:00") [] none none
      AuthorityProof.sampleNow = .ok [] :=
    validate_unasked (sample_standing digest _ first_expiry) rfl sample_unexpired
  let proof := proofOf (sampleReceipt digest [.str "pay"] "2027-01-01T00:00:00+00:00") digest "signers-1" "policy-hash"
    (isoformat AuthorityProof.sampleNow) .none sampleResult
  obtain ⟨proofHash,hashed⟩ : ∃ proofHash, sha256OfCanonicalJson surroundings.sha256 (.dict proof.issuedPayload) = .ok proofHash := by
    refine sha256_recordable.mpr ((recordable_dict ?_).mpr ?_)
    · simp [StrKeys,VerifiedHumanApprovalReceipt.issuedPayload,field]
    · simp [VerifiedHumanApprovalReceipt.issuedPayload,field,proof,proofOf,sampleReceipt,sampleUnsigned,sampleResult,optStr]
  refine ⟨sampleRequest digest,digest,{ proof with verificationProofHash := proofHash },?_,rfl,rfl⟩
  refine bind_ok.mpr ⟨_,opened,bind_ok.mpr ⟨_,unsigned,bind_ok.mpr ⟨samplePolicy,rfl,?_⟩⟩⟩
  refine bind_ok.mpr ⟨_,sample_checked digest,bind_ok.mpr ⟨"policy-hash",rfl,?_⟩⟩
  refine bind_ok.mpr ⟨_,sample_verified digest,bind_ok.mpr ⟨[],valid,bind_ok.mpr ⟨(),rfl,?_⟩⟩⟩
  exact bind_ok.mpr ⟨proofHash,hashed,rfl⟩

def taggedSurroundings : Surroundings where
  sha256 := fun text => "sha256:" ++ text
  hexInt := fun _ => none
  utcnow := fun _ => 0

theorem tagged_filled (text : String) : strip (taggedSurroundings.sha256 text) ≠ "" := by
  refine filled_strip (show 's' ∈ _ from ?_) (by decide)
  simp [taggedSurroundings]

theorem tagged_injective : Function.Injective taggedSurroundings.sha256 := by
  intro first second same
  have chars := congrArg String.toList same
  simp only [taggedSurroundings,String.toList_append] at chars
  exact String.toList_inj.mp (List.append_cancel_left chars)

theorem exchange_rejected_denied : ∃ request proof,
    verifyHumanApprovalReceiptArtifactToProof taggedSurroundings "token-1" request = .ok proof ∧
      ∀ (world : World) (context : ApprovalContext), world.surroundings.sha256 = taggedSurroundings.sha256 →
        ¬Accepted world context { proof with receipt := { proof.receipt with approvalResult := .str "denied" } } := by
  obtain ⟨request,digest,proof,issued,_,_⟩ := sample_issued taggedSurroundings
  refine ⟨request,proof,issued,(exchange_rejected tagged_filled issued _).mpr fun acceptable => ?_⟩
  have approved : Value.str "denied" = Value.str "approved" := acceptable.result
  exact absurd (Value.str.inj approved) (by decide)

theorem wider_receipt_accepted :
    ¬∀ (surroundings : Surroundings) (token : String) (request : ApprovalRequest) (proof : VerifiedHumanApprovalReceipt)
      (receipt : HumanApprovalReceipt), Function.Injective surroundings.sha256 → (∀ text, strip (surroundings.sha256 text) ≠ "") →
      verifyHumanApprovalReceiptArtifactToProof surroundings token request = .ok proof → receipt ≠ proof.receipt →
      ∀ (world : World) (context : ApprovalContext), world.surroundings.sha256 = surroundings.sha256 →
        ¬Accepted world context { proof with receipt } := by
  intro rejected
  obtain ⟨request,digest,proof,issued,hash,signed⟩ := sample_issued taggedSurroundings
  have wider := sample_acceptable taggedSurroundings.sha256 digest [.str "pay",.str "refund"] second_expiry
  have other : sampleReceipt digest [.str "pay",.str "refund"] "2036-01-01T00:00:00+00:00" ≠ proof.receipt := by
    rw [signed]
    intro same
    have scopes := congrArg HumanApprovalReceipt.approvedScope same
    cases scopes
  obtain ⟨source,proofHash⟩ := issued_sealed issued
  have kept : Sealed (laxWorld taggedSurroundings).surroundings.sha256
      { proof with receipt := sampleReceipt digest [.str "pay",.str "refund"] "2036-01-01T00:00:00+00:00" } := ⟨source,proofHash⟩
  have accepted : Accepted (laxWorld taggedSurroundings) plainContext
      { proof with receipt := sampleReceipt digest [.str "pay",.str "refund"] "2036-01-01T00:00:00+00:00" } :=
    acceptable_accepted (lax_posture taggedSurroundings) tagged_filled kept (by rw [hash]; exact wider)
  exact rejected taggedSurroundings "token-1" request proof _ tagged_injective tagged_filled issued other _ plainContext rfl accepted

end VeritasOs.HumanApproval
