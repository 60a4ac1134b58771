import VeritasOs.DateTime
import VeritasOs.WatVerifier

namespace VeritasOs.Authority
open Text JsonText DateTime BindArtifacts PolicyBundle

structure ActionClassContract where
  id : String
  version : String
  domain : String
  actionClass : String
  description : String
  declaredIntent : String
  allowedScope : List String
  prohibitedScope : List String
  authoritySources : List String
  requiredEvidence : List String
  evidenceFreshness : Dict
  irreversibility : Dict
  humanApprovalRules : Dict
  refusalConditions : List String
  escalationConditions : List String
  defaultFailureMode : String
  metadata : Dict

def ActionClassContract.toDict (contract : ActionClassContract) : Dict :=
  [field "id" (.str contract.id),field "version" (.str contract.version),field "domain" (.str contract.domain),
   field "action_class" (.str contract.actionClass),field "description" (.str contract.description),
   field "declared_intent" (.str contract.declaredIntent),field "allowed_scope" (strList contract.allowedScope),
   field "prohibited_scope" (strList contract.prohibitedScope),field "authority_sources" (strList contract.authoritySources),
   field "required_evidence" (strList contract.requiredEvidence),field "evidence_freshness" (.dict contract.evidenceFreshness),
   field "irreversibility" (.dict contract.irreversibility),field "human_approval_rules" (.dict contract.humanApprovalRules),
   field "refusal_conditions" (strList contract.refusalConditions),field "escalation_conditions" (strList contract.escalationConditions),
   field "default_failure_mode" (.str contract.defaultFailureMode),field "metadata" (.dict contract.metadata)]

inductive VerificationResult where
  | valid | invalid | expired | missing | stale | indeterminate
deriving DecidableEq

def VerificationResult.text : VerificationResult → String
  | .valid => "valid"
  | .invalid => "invalid"
  | .expired => "expired"
  | .missing => "missing"
  | .stale => "stale"
  | .indeterminate => "indeterminate"

structure AuthorityEvidence where
  authorityEvidenceId : String
  actionContractId : String
  actionContractVersion : String
  actorIdentity : String
  actorRole : String
  authoritySourceRefs : List String
  roleOrPolicyBasis : List String
  scopeGrants : List String
  scopeLimitations : List String
  validityWindow : Dict
  issuedAt : String
  validFrom : String
  validUntil : String
  revalidatedAt : Option String
  policySnapshotId : Option String
  actionContractHash : Option String
  evidenceHash : String
  verificationResult : VerificationResult
  failureReasons : List String
  metadata : Dict

def claimedTrust : List String := ["verified","signature_verified","not_revoked","trusted_issuer","verification_source","revoked"]

-- The claims that are signed: to_dict() without the conclusions of the caller.
def AuthorityEvidence.claimsDict (evidence : AuthorityEvidence) : Dict :=
  [field "authority_evidence_id" (.str evidence.authorityEvidenceId),field "action_contract_id" (.str evidence.actionContractId),
   field "action_contract_version" (.str evidence.actionContractVersion),
   field "actor_identity" (.str evidence.actorIdentity),field "actor_role" (.str evidence.actorRole),
   field "authority_source_refs" (strList evidence.authoritySourceRefs),field "role_or_policy_basis" (strList evidence.roleOrPolicyBasis),
   field "scope_grants" (strList evidence.scopeGrants),field "scope_limitations" (strList evidence.scopeLimitations),
   field "validity_window" (.dict evidence.validityWindow),field "issued_at" (.str evidence.issuedAt),
   field "valid_from" (.str evidence.validFrom),field "valid_until" (.str evidence.validUntil),
   field "revalidated_at" (optStr evidence.revalidatedAt),field "policy_snapshot_id" (optStr evidence.policySnapshotId),
   field "action_contract_hash" (optStr evidence.actionContractHash),
   field "metadata" (.dict (evidence.metadata.filter fun member => !claimedTrust.any fun name => decide (member.1 = .str name)))]

structure AuthorityRevocationVerificationResult where
  checked : Bool
  revoked : Option Bool
  checkedAt : String
  sourceIdentity : String
  sourceVersion : String
  sourceHash : String
  reason : String

def AuthorityRevocationVerificationResult.toDict (result : AuthorityRevocationVerificationResult) : Dict :=
  [field "checked" (.bool result.checked),field "revoked" ((result.revoked.map Value.bool).getD .none),
   field "checked_at" (.str result.checkedAt),field "source_identity" (.str result.sourceIdentity),
   field "source_version" (.str result.sourceVersion),field "source_hash" (.str result.sourceHash),field "reason" (.str result.reason)]

structure AuthorityRevocationPolicy where
  maxAgeSeconds : Int
  allowedSourceIdentities : List String

structure ApprovedAuthorityEvidenceVerifier where
  verifierId : String
  trustLevel : String
  verifierKeyId : String
  verifierPolicyId : String
  verifierPolicyHash : String
  signerPolicyId : String
  signerPolicyHash : String

structure AuthorityEvidenceVerifierPolicy where
  approvedVerifiers : List ApprovedAuthorityEvidenceVerifier

def AuthorityEvidenceVerifierPolicy.approvedById (policy : AuthorityEvidenceVerifierPolicy) (verifierId : String) :
    Option ApprovedAuthorityEvidenceVerifier :=
  policy.approvedVerifiers.find? fun item => item.verifierId == verifierId

-- A proof, with what the registry of this process holds for the object.
structure VerifiedAuthorityEvidence where
  authorityEvidence : AuthorityEvidence
  claimsHash : String
  artifactType : String
  artifactVersion : String
  actionContractHash : String
  signerKeyId : String
  signerAlgorithm : String
  issuerIdentity : String
  signerPolicyId : String
  signerPolicyHash : String
  verifierId : String
  verifierTrustLevel : String
  verifierPolicyId : String
  verifierPolicyHash : String
  signatureVerificationReason : String
  signedAt : String
  verifiedAt : String
  revocation : AuthorityRevocationVerificationResult
  verificationSource : String
  verificationProofHash : String
  registered : Option String

def VerifiedAuthorityEvidence.proofHashPayload (proof : VerifiedAuthorityEvidence) : Dict :=
  [field "claims" (.dict proof.authorityEvidence.claimsDict),field "claims_hash" (.str proof.claimsHash),
   field "artifact_type" (.str proof.artifactType),field "artifact_version" (.str proof.artifactVersion),
   field "action_contract_hash" (.str proof.actionContractHash),field "signer_key_id" (.str proof.signerKeyId),
   field "signer_algorithm" (.str proof.signerAlgorithm),field "issuer_identity" (.str proof.issuerIdentity),
   field "signer_policy_id" (.str proof.signerPolicyId),field "signer_policy_hash" (.str proof.signerPolicyHash),
   field "verifier_id" (.str proof.verifierId),field "verifier_trust_level" (.str proof.verifierTrustLevel),
   field "verifier_policy_id" (.str proof.verifierPolicyId),field "verifier_policy_hash" (.str proof.verifierPolicyHash),
   field "signature_verification_reason" (.str proof.signatureVerificationReason),field "signed_at" (.str proof.signedAt),
   field "verified_at" (.str proof.verifiedAt),field "revocation" (.dict proof.revocation.toDict),
   field "verification_source" (.str proof.verificationSource)]

-- A datetime: the wall clock in microseconds, and its offset from UTC when it has one.
abbrev Moment := Int × Option Int

def awareDatetime (value reason : String) : Except String Int :=
  match fromisoformat value.toList with
  | none => .error reason
  | some (_,none) => .error (reason ++ "_timezone_required")
  | some (wall,some offset) => .ok (wall - offset)

def Moment.instant (moment : Moment) : Option Int := moment.2.map (moment.1 - ·)

def isExpired (evidence : AuthorityEvidence) (now : Moment) : Except Exc Bool :=
  match Moment.instant now with
  | none => .error (valueError "validation_now_timezone_required")
  | some current =>
    match awareDatetime evidence.validUntil "valid_until_invalid" with
    | .error reason => .error (valueError reason)
    | .ok validUntil => .ok (decide (validUntil ≤ current))

def isScopeGranting (evidence : AuthorityEvidence) (scope : String) : Bool :=
  evidence.scopeGrants.contains scope && !evidence.scopeLimitations.contains scope

def validityFields (evidence : AuthorityEvidence) : Dict :=
  [field "issued_at" (.str evidence.issuedAt),field "valid_from" (.str evidence.validFrom),field "valid_until" (.str evidence.validUntil)]

-- The order of the window, where the present is in it, and the time of the last revalidation.
def orderFailures (evidence : AuthorityEvidence) (issued validFrom validUntil current : Int) : List String :=
  (if ¬(issued ≤ validFrom ∧ validFrom < validUntil) then ["validity_window_order_invalid"]
   else if current < validFrom then ["authority_not_yet_valid"]
   else if validUntil ≤ current then ["authority_expired"]
   else []) ++ (match evidence.revalidatedAt with
   | none => []
   | some at_ =>
     if at_ = "" then []
     else
       match awareDatetime at_ "revalidated_at_invalid" with
       | .error reason => [reason]
       | .ok _ => [])

-- The part of the validation that runs until the first ValueError.
def windowFailures (evidence : AuthorityEvidence) (now : Moment) : List String :=
  match awareDatetime evidence.issuedAt "issued_at_invalid" with
  | .error reason => [reason]
  | .ok issued =>
    match awareDatetime evidence.validFrom "valid_from_invalid" with
    | .error reason => [reason]
    | .ok validFrom =>
      match awareDatetime evidence.validUntil "valid_until_invalid" with
      | .error reason => [reason]
      | .ok validUntil =>
        (if pyEq (.dict evidence.validityWindow) (.dict (validityFields evidence)) then [] else ["validity_window_fields_mismatch"]) ++
        match Moment.instant now with
        | none => ["validation_now_timezone_required"]
        | some current => orderFailures evidence issued validFrom validUntil current

def validateAuthorityEvidence (evidence : AuthorityEvidence) (policySnapshotRequired : Bool) (now : Moment) : List String :=
  (if strip evidence.actorIdentity = "" then ["actor_identity_missing"] else []) ++
  (if evidence.authoritySourceRefs.isEmpty then ["authority_source_refs_missing"] else []) ++
  (if policySnapshotRequired && strip (evidence.policySnapshotId.getD "") = "" then ["policy_snapshot_id_missing"] else []) ++
  (if evidence.verificationResult ≠ .valid then ["verification_result_" ++ evidence.verificationResult.text] else []) ++
  windowFailures evidence now

-- Where a call that is given no time reads the clock itself.
inductive Reading where
  | boundary | evaluation | revocation | claims | expiry | result

structure Surroundings where
  sha256 : String → String
  hexInt : String → Option Int
  utcnow : Reading → Int

section Proofs
variable (surroundings : Surroundings)

def Surroundings.orNow (now : Option Moment) (reading : Reading) : Moment := now.getD (surroundings.utcnow reading,some 0)

def revocationFailure (result : AuthorityRevocationVerificationResult) (policy : AuthorityRevocationPolicy) (now : Moment) : Option String :=
  if !result.checked || result.revoked ≠ some false then some "authority_revocation_status_unestablished"
  else if !policy.allowedSourceIdentities.contains result.sourceIdentity then some "authority_revocation_source_unapproved"
  else if strip result.sourceVersion = "" then some "authority_revocation_source_version_missing"
  else if !(result.sourceHash.length = 64 && ((surroundings.hexInt result.sourceHash).map fun n => decide (0 ≤ n)).getD false) then
    some "authority_revocation_source_hash_invalid"
  else
    match awareDatetime result.checkedAt "authority_revocation_checked_at_invalid" with
    | .error reason => some reason
    | .ok checkedAt =>
      match Moment.instant now with
      | none => some "validation_now_timezone_required"
      | some current =>
        if current < checkedAt then some "authority_revocation_checked_at_future"
        else if policy.maxAgeSeconds * 1000000 < current - checkedAt then some "authority_revocation_status_stale"
        else none

def verifierFailures (proof : VerifiedAuthorityEvidence) (requireProduction : Bool) : Option AuthorityEvidenceVerifierPolicy → List String
  | none => ["authority_verifier_policy_required"]
  | some policy =>
    match policy.approvedById proof.verifierId with
    | none => ["authority_verifier_not_approved"]
    | some approved =>
      (if [proof.verifierTrustLevel,proof.signerKeyId,proof.verifierPolicyId,proof.verifierPolicyHash,proof.signerPolicyId,
            proof.signerPolicyHash] ≠
          [approved.trustLevel,approved.verifierKeyId,approved.verifierPolicyId,approved.verifierPolicyHash,approved.signerPolicyId,
            approved.signerPolicyHash] then ["authority_verifier_policy_mismatch"] else []) ++
      (if requireProduction && approved.trustLevel ≠ "production" then ["authority_production_verifier_required"] else [])

def timeFailure (value reason : String) : List String :=
  match awareDatetime value reason with
  | .error reason => [reason]
  | .ok _ => []

structure ProofContext where
  actionContract : ActionClassContract
  actorIdentity : String
  requestedScope : List String
  policySnapshotId : String
  verifierPolicy : Option AuthorityEvidenceVerifierPolicy
  revocationPolicy : Option AuthorityRevocationPolicy
  now : Option Moment
  requireProductionVerifier : Bool

def validateVerifiedAuthorityEvidence (proof : VerifiedAuthorityEvidence) (context : ProofContext) : Except Exc (List String) := do
  let expected ← sha256OfCanonicalJson surroundings.sha256 (.dict proof.proofHashPayload)
  let claims ← sha256OfCanonicalJson surroundings.sha256 (.dict proof.authorityEvidence.claimsDict)
  let contract ← sha256OfCanonicalJson surroundings.sha256 (.dict context.actionContract.toDict)
  return (
    (if proof.verificationProofHash ≠ expected ∨ proof.registered ≠ some expected then ["authority_verification_proof_invalid"] else []) ++
    (if proof.claimsHash ≠ claims then ["authority_claims_hash_mismatch"] else []) ++
    (if proof.actionContractHash ≠ contract then ["authority_action_contract_hash_mismatch"] else []) ++
    (if proof.authorityEvidence.actionContractId ≠ context.actionContract.id then ["authority_action_contract_id_mismatch"] else []) ++
    (if proof.authorityEvidence.actionContractVersion ≠ context.actionContract.version then
      ["authority_action_contract_version_mismatch"] else []) ++
    (if proof.authorityEvidence.actorIdentity ≠ context.actorIdentity then ["authority_actor_identity_mismatch"] else []) ++
    (if proof.authorityEvidence.policySnapshotId ≠ some context.policySnapshotId then ["authority_policy_snapshot_mismatch"] else []) ++
    timeFailure proof.signedAt "authority_signed_at_invalid" ++ timeFailure proof.verifiedAt "authority_verified_at_invalid" ++
    (if context.requestedScope.any fun scope => !isScopeGranting proof.authorityEvidence scope then ["authority_scope_not_granted"] else []) ++
    verifierFailures proof context.requireProductionVerifier context.verifierPolicy ++ (match context.revocationPolicy with
     | none => ["authority_revocation_policy_required"]
     | some policy => (revocationFailure surroundings proof.revocation policy (surroundings.orNow context.now .revocation)).toList) ++
    (validateAuthorityEvidence proof.authorityEvidence false (surroundings.orNow context.now .claims)).filter fun reason => !startsWith "verification_result_" reason)

end Proofs

end VeritasOs.Authority
