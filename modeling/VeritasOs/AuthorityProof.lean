import VeritasOs.Isoformat
import VeritasOs.RuntimeAuthority

namespace VeritasOs.AuthorityProof
open Text JsonText DateTime BindArtifacts PolicyBundle Authority

-- The claims of an artifact as AuthorityEvidence takes them: the type of no field is checked.
-- What to_dict() makes a list or a dict of is one here.
structure ClaimedEvidence where
  authorityEvidenceId : Value
  actionContractId : Value
  actionContractVersion : Value
  actorIdentity : Value
  actorRole : Value
  authoritySourceRefs : List Value
  roleOrPolicyBasis : List Value
  scopeGrants : List Value
  scopeLimitations : List Value
  validityWindow : Dict
  issuedAt : Value
  validFrom : Value
  validUntil : Value
  revalidatedAt : Value
  policySnapshotId : Value
  actionContractHash : Value
  evidenceHash : String
  verificationResult : VerificationResult
  failureReasons : List String
  metadata : Dict

def ClaimedEvidence.claimsDict (evidence : ClaimedEvidence) : Dict :=
  [field "authority_evidence_id" evidence.authorityEvidenceId,field "action_contract_id" evidence.actionContractId,
   field "action_contract_version" evidence.actionContractVersion,field "actor_identity" evidence.actorIdentity,
   field "actor_role" evidence.actorRole,field "authority_source_refs" (.list evidence.authoritySourceRefs),
   field "role_or_policy_basis" (.list evidence.roleOrPolicyBasis),field "scope_grants" (.list evidence.scopeGrants),
   field "scope_limitations" (.list evidence.scopeLimitations),field "validity_window" (.dict evidence.validityWindow),
   field "issued_at" evidence.issuedAt,field "valid_from" evidence.validFrom,field "valid_until" evidence.validUntil,
   field "revalidated_at" evidence.revalidatedAt,field "policy_snapshot_id" evidence.policySnapshotId,
   field "action_contract_hash" evidence.actionContractHash,
   field "metadata" (.dict (evidence.metadata.filter fun member => !claimedTrust.any fun name => decide (member.1 = .str name)))]

-- The payload of the content hash; a contract hash that is None is left out.
def ClaimedEvidence.toDictForHash (evidence : ClaimedEvidence) : Dict :=
  [field "authority_evidence_id" evidence.authorityEvidenceId,field "action_contract_id" evidence.actionContractId,
   field "action_contract_version" evidence.actionContractVersion,field "actor_identity" evidence.actorIdentity,
   field "actor_role" evidence.actorRole,field "authority_source_refs" (.list evidence.authoritySourceRefs),
   field "role_or_policy_basis" (.list evidence.roleOrPolicyBasis),field "scope_grants" (.list evidence.scopeGrants),
   field "scope_limitations" (.list evidence.scopeLimitations),field "validity_window" (.dict evidence.validityWindow),
   field "issued_at" evidence.issuedAt,field "valid_from" evidence.validFrom,field "valid_until" evidence.validUntil,
   field "revalidated_at" evidence.revalidatedAt,field "policy_snapshot_id" evidence.policySnapshotId] ++
  (if evidence.actionContractHash = .none then [] else [field "action_contract_hash" evidence.actionContractHash]) ++
  [field "evidence_hash" (.str ""),field "verification_result" (.str evidence.verificationResult.text),
   field "failure_reasons" (strList evidence.failureReasons),field "metadata" (.dict evidence.metadata)]

-- What the caller concludes is dropped before the claims are read.
def callerConclusions : List String :=
  ["evidence_hash","verification_result","failure_reasons","verified","signature_verified","not_revoked","revoked"]

def requiredClaims : List String :=
  ["authority_evidence_id","action_contract_id","action_contract_version","actor_identity","actor_role","authority_source_refs",
   "role_or_policy_basis","scope_grants","scope_limitations","validity_window","issued_at","valid_from","valid_until"]

def optionalClaims : List String := ["revalidated_at","policy_snapshot_id","action_contract_hash","metadata"]

def named (names : List String) (member : Key × Value) : Bool := names.any fun name => decide (member.1 = .str name)

def refuseIf (failed : Bool) (reason : String) : Except Exc Unit := if failed then .error (valueError reason) else .ok ()

-- AuthorityEvidence(**clean), with the lists and dicts of its to_dict().
def claimedEvidence (claims : Dict) : Except Exc ClaimedEvidence := do
  let clean := claims.filter fun member => !named callerConclusions member
  refuseIf (!(clean.all (named (requiredClaims ++ optionalClaims)) && requiredClaims.all (Dict.has clean))) "authority_claims_invalid"
  let authoritySourceRefs ← listFrom (Dict.get clean "authority_source_refs")
  let roleOrPolicyBasis ← listFrom (Dict.get clean "role_or_policy_basis")
  let scopeGrants ← listFrom (Dict.get clean "scope_grants")
  let scopeLimitations ← listFrom (Dict.get clean "scope_limitations")
  let validityWindow ← dictFrom (Dict.get clean "validity_window")
  let metadata ← dictFrom (Dict.getD clean "metadata" (.dict []))
  return {
    authorityEvidenceId := Dict.get clean "authority_evidence_id"
    actionContractId := Dict.get clean "action_contract_id"
    actionContractVersion := Dict.get clean "action_contract_version"
    actorIdentity := Dict.get clean "actor_identity"
    actorRole := Dict.get clean "actor_role"
    authoritySourceRefs
    roleOrPolicyBasis
    scopeGrants
    scopeLimitations
    validityWindow
    issuedAt := Dict.get clean "issued_at"
    validFrom := Dict.get clean "valid_from"
    validUntil := Dict.get clean "valid_until"
    revalidatedAt := Dict.get clean "revalidated_at"
    policySnapshotId := Dict.get clean "policy_snapshot_id"
    actionContractHash := Dict.get clean "action_contract_hash"
    evidenceHash := ""
    verificationResult := .indeterminate
    failureReasons := []
    metadata }

def awareValue (value : Value) (reason : String) : Except String Int :=
  match value with
  | .str s => awareDatetime s reason
  | _ => .error reason

def strippedValue : Value → Except Exc String
  | .str s => .ok (strip s)
  | other => .error (attributeError (typeName other ++ " object has no attribute strip"))

def memberOf (scope : String) (items : List Value) : Bool := items.any fun item => pyEq item (.str scope)

def isScopeGranting (evidence : ClaimedEvidence) (scope : String) : Bool :=
  memberOf scope evidence.scopeGrants && !memberOf scope evidence.scopeLimitations

def validityFields (evidence : ClaimedEvidence) : Dict :=
  [field "issued_at" evidence.issuedAt,field "valid_from" evidence.validFrom,field "valid_until" evidence.validUntil]

def orderFailures (evidence : ClaimedEvidence) (issued validFrom validUntil current : Int) : List String :=
  (if ¬(issued ≤ validFrom ∧ validFrom < validUntil) then ["validity_window_order_invalid"]
   else if current < validFrom then ["authority_not_yet_valid"]
   else if validUntil ≤ current then ["authority_expired"]
   else []) ++ (if evidence.revalidatedAt.truthy then
    match awareValue evidence.revalidatedAt "revalidated_at_invalid" with
    | .error reason => [reason]
    | .ok _ => []
   else [])

def windowFailures (evidence : ClaimedEvidence) (now : Moment) : List String :=
  match awareValue evidence.issuedAt "issued_at_invalid" with
  | .error reason => [reason]
  | .ok issued =>
    match awareValue evidence.validFrom "valid_from_invalid" with
    | .error reason => [reason]
    | .ok validFrom =>
      match awareValue evidence.validUntil "valid_until_invalid" with
      | .error reason => [reason]
      | .ok validUntil =>
        (if pyEq (.dict evidence.validityWindow) (.dict (validityFields evidence)) then [] else ["validity_window_fields_mismatch"]) ++
        match Moment.instant now with
        | none => ["validation_now_timezone_required"]
        | some current => orderFailures evidence issued validFrom validUntil current

def snapshotFailures (evidence : ClaimedEvidence) (required : Bool) : Except Exc (List String) := do
  if required then
    let snapshot ← strippedValue (if evidence.policySnapshotId.truthy then evidence.policySnapshotId else .str "")
    return if snapshot = "" then ["policy_snapshot_id_missing"] else []
  else return []

def validateAuthorityEvidence (evidence : ClaimedEvidence) (policySnapshotRequired : Bool) (now : Moment) : Except Exc (List String) := do
  let actor ← strippedValue evidence.actorIdentity
  let snapshot ← snapshotFailures evidence policySnapshotRequired
  return ((if actor = "" then ["actor_identity_missing"] else []) ++
    (if evidence.authoritySourceRefs.isEmpty then ["authority_source_refs_missing"] else []) ++ snapshot ++
    (if evidence.verificationResult ≠ .valid then ["verification_result_" ++ evidence.verificationResult.text] else []) ++
    windowFailures evidence now)

structure SignatureVerificationResult where
  verified : Bool
  keyId : Option String := none
  algorithm : Option String := none
  issuerIdentity : Option String := none
  reason : Option String := none
  verifierTrustLevel : Option String := none
  verifierId : Option String := none
  verifierKeyId : Option String := none
  verifierPolicyId : Option String := none
  verifierPolicyHash : Option String := none

structure AuthorityEvidenceSignerPolicy where
  policyId : String
  allowedKeyIds : List String
  allowedAlgorithms : List String
  allowedIssuerIdentities : List String

-- The arguments of the call; the verifier and the checker are the deployment's own.
structure IssueRequest where
  artifact : Dict
  actionContract : ActionClassContract
  actorIdentity : String
  requestedScope : List String
  policySnapshotId : String
  signatureVerifier : Dict → Except Exc SignatureVerificationResult
  signerPolicy : AuthorityEvidenceSignerPolicy
  revocationChecker : Value → Moment → Except Exc AuthorityRevocationVerificationResult
  revocationPolicy : AuthorityRevocationPolicy
  verifierPolicy : Option AuthorityEvidenceVerifierPolicy
  now : Option Moment

-- A proof over claims as they came, with what the registry of this process holds for the object.
structure SealedAuthority where
  authorityEvidence : ClaimedEvidence
  claimsHash : String
  artifactType : String
  artifactVersion : String
  actionContractHash : String
  signerKeyId : String
  signerAlgorithm : String
  issuerIdentity : String
  signerPolicyId : String
  signerPolicyHash : String
  verifierId : String
  verifierTrustLevel : String
  verifierPolicyId : String
  verifierPolicyHash : String
  signatureVerificationReason : String
  signedAt : String
  verifiedAt : String
  revocation : AuthorityRevocationVerificationResult
  verificationSource : String
  verificationProofHash : String
  registered : Option String

def SealedAuthority.proofHashPayload (proof : SealedAuthority) : Dict :=
  [field "claims" (.dict proof.authorityEvidence.claimsDict),field "claims_hash" (.str proof.claimsHash),
   field "artifact_type" (.str proof.artifactType),field "artifact_version" (.str proof.artifactVersion),
   field "action_contract_hash" (.str proof.actionContractHash),field "signer_key_id" (.str proof.signerKeyId),
   field "signer_algorithm" (.str proof.signerAlgorithm),field "issuer_identity" (.str proof.issuerIdentity),
   field "signer_policy_id" (.str proof.signerPolicyId),field "signer_policy_hash" (.str proof.signerPolicyHash),
   field "verifier_id" (.str proof.verifierId),field "verifier_trust_level" (.str proof.verifierTrustLevel),
   field "verifier_policy_id" (.str proof.verifierPolicyId),field "verifier_policy_hash" (.str proof.verifierPolicyHash),
   field "signature_verification_reason" (.str proof.signatureVerificationReason),field "signed_at" (.str proof.signedAt),
   field "verified_at" (.str proof.verifiedAt),field "revocation" (.dict proof.revocation.toDict),
   field "verification_source" (.str proof.verificationSource)]

section Issue
variable (surroundings : Surroundings)

def AuthorityEvidenceSignerPolicy.deterministicHash (policy : AuthorityEvidenceSignerPolicy) : Except Exc String :=
  sha256OfCanonicalJson surroundings.sha256 (.dict [
    field "policy_id" (.str policy.policyId),field "allowed_key_ids" (strList (RuntimeAuthority.sortedTexts policy.allowedKeyIds)),
    field "allowed_algorithms" (strList (RuntimeAuthority.sortedTexts policy.allowedAlgorithms)),
    field "allowed_issuer_identities" (strList (RuntimeAuthority.sortedTexts policy.allowedIssuerIdentities))])

def artifactClaims (artifact : Dict) : Except Exc Dict := do
  refuseIf (!pyEq (artifact.get "artifact_type") (.str "authority_evidence")) "authority_artifact_type_invalid"
  refuseIf (!pyEq (artifact.get "artifact_version") (.str "v1")) "authority_artifact_version_invalid"
  match artifact.get "claims" with
  | .dict claims => return claims
  | _ => .error (valueError "authority_claims_missing")

def authenticClaims (artifact : Dict) : Except Exc (ClaimedEvidence × String) := do
  let claims ← artifactClaims artifact
  let evidence ← claimedEvidence claims
  let claimsHash ← sha256OfCanonicalJson surroundings.sha256 (.dict evidence.claimsDict)
  refuseIf (!pyEq (artifact.get "claims_hash") (.str claimsHash)) "authority_claims_hash_mismatch"
  let evidenceHash ← sha256OfCanonicalJson surroundings.sha256 (.dict evidence.toDictForHash)
  return ({ evidence with evidenceHash },claimsHash)

def allows (allowed : List String) (value : Option String) : Bool := (value.map allowed.contains).getD false

def signerClaim (artifact : Dict) : Except Exc Dict :=
  match artifact.getD "signer" (.dict []) with
  | .dict members => .ok members
  | other => .error (attributeError (typeName other ++ " object has no attribute get"))

def checkSigner (artifact : Dict) (result : SignatureVerificationResult) (policy : AuthorityEvidenceSignerPolicy) : Except Exc Unit := do
  refuseIf (!result.verified) "authority_signature_invalid"
  refuseIf (!allows policy.allowedKeyIds result.keyId) "authority_signer_key_unapproved"
  refuseIf (!allows policy.allowedAlgorithms result.algorithm) "authority_signer_algorithm_unapproved"
  refuseIf (!allows policy.allowedIssuerIdentities result.issuerIdentity) "authority_issuer_unapproved"
  let claimed ← signerClaim artifact
  refuseIf (!pyEq (claimed.get "key_id") (optStr result.keyId) || !pyEq (claimed.get "algorithm") (optStr result.algorithm))
    "authority_signer_claim_mismatch"
  refuseIf (!pyEq (artifact.get "issuer_identity") .none && !pyEq (artifact.get "issuer_identity") (optStr result.issuerIdentity))
    "authority_issuer_claim_mismatch"

def verifierPolicyFailure (result : SignatureVerificationResult) (signerPolicy : AuthorityEvidenceSignerPolicy)
    (verifierPolicy : AuthorityEvidenceVerifierPolicy) (requireProduction : Bool) : Except Exc (Option String) :=
  match verifierPolicy.approvedById (result.verifierId.getD "") with
  | none => .ok (some "authority_verifier_not_approved")
  | some approved => do
    let signerPolicyHash ← signerPolicy.deterministicHash surroundings
    if [result.verifierTrustLevel,result.verifierKeyId,result.verifierPolicyId,result.verifierPolicyHash,some signerPolicy.policyId,
          some signerPolicyHash] ≠
        [some approved.trustLevel,some approved.verifierKeyId,some approved.verifierPolicyId,some approved.verifierPolicyHash,
          some approved.signerPolicyId,some approved.signerPolicyHash] then return some "authority_verifier_policy_mismatch"
    else if requireProduction && approved.trustLevel ≠ "production" then return some "authority_production_verifier_required"
    else return none

def refuseFor (failure : Option String) : Except Exc Unit :=
  match failure with
  | none => .ok ()
  | some reason => .error (valueError reason)

def checkVerifier (result : SignatureVerificationResult) (signerPolicy : AuthorityEvidenceSignerPolicy) :
    Option AuthorityEvidenceVerifierPolicy → Except Exc Unit
  | none => .ok ()
  | some policy => do
    let failure ← verifierPolicyFailure surroundings result signerPolicy policy false
    refuseFor failure

def checkContext (evidence : ClaimedEvidence) (contractHash : String) (request : IssueRequest) : Except Exc Unit := do
  refuseIf (!pyEq evidence.actionContractId (.str request.actionContract.id)) "authority_action_contract_id_mismatch"
  refuseIf (!pyEq evidence.actionContractVersion (.str request.actionContract.version)) "authority_action_contract_version_mismatch"
  refuseIf (!pyEq evidence.actionContractHash (.str contractHash)) "authority_action_contract_hash_mismatch"
  refuseIf (!pyEq evidence.actorIdentity (.str request.actorIdentity)) "authority_actor_identity_mismatch"
  refuseIf (!pyEq evidence.policySnapshotId (.str request.policySnapshotId)) "authority_policy_snapshot_mismatch"
  refuseIf (request.requestedScope.any fun scope => !memberOf scope evidence.scopeGrants) "authority_scope_not_granted"
  refuseIf (request.requestedScope.any fun scope =>
    memberOf scope evidence.scopeLimitations || request.actionContract.prohibitedScope.contains scope) "authority_prohibited_scope"

-- The verification result is the caller's word and left out.
def standing (failures : List String) : List String := failures.filter fun reason => !startsWith "verification_result_" reason

def signedTime (stated : Value) (current : Int) : Except Exc String :=
  match stated with
  | .str s =>
    match awareDatetime s "authority_signed_at_invalid" with
    | .error reason => .error (valueError reason)
    | .ok signed => if current < signed then .error (valueError "authority_signed_at_future") else .ok s
  | _ => .error (valueError "authority_signed_at_invalid")

def shown (value : Option String) : String := value.getD "None"

-- VerifiedAuthorityEvidence(**proof_data), before the proof has its hash.
def proofData (request : IssueRequest) (evidence : ClaimedEvidence) (claimsHash contractHash signerPolicyHash signedAt : String)
    (result : SignatureVerificationResult) (revocation : AuthorityRevocationVerificationResult) (current : Moment) : SealedAuthority where
  authorityEvidence := evidence
  claimsHash := claimsHash
  artifactType := "authority_evidence"
  artifactVersion := "v1"
  actionContractHash := contractHash
  signerKeyId := shown result.keyId
  signerAlgorithm := shown result.algorithm
  issuerIdentity := shown result.issuerIdentity
  signerPolicyId := request.signerPolicy.policyId
  signerPolicyHash := signerPolicyHash
  verifierId := shown result.verifierId
  verifierTrustLevel := shown result.verifierTrustLevel
  verifierPolicyId := shown result.verifierPolicyId
  verifierPolicyHash := shown result.verifierPolicyHash
  signatureVerificationReason := shown result.reason
  signedAt := signedAt
  verifiedAt := isoformat current
  revocation := revocation
  verificationSource := "signed_authority_evidence_artifact"
  verificationProofHash := ""
  registered := none

-- `clock` is what datetime.now(UTC) reads where the call is given no time.
def verifyAuthorityEvidenceArtifactToProof (clock : Int) (request : IssueRequest) : Except Exc SealedAuthority := do
  let current := request.now.getD (clock,some 0)
  match Moment.instant current with
  | none => .error (valueError "validation_now_timezone_required")
  | some instant =>
    let (evidence,claimsHash) ← authenticClaims surroundings request.artifact
    let result ← request.signatureVerifier request.artifact
    checkSigner request.artifact result request.signerPolicy
    checkVerifier surroundings result request.signerPolicy request.verifierPolicy
    let contractHash ← sha256OfCanonicalJson surroundings.sha256 (.dict request.actionContract.toDict)
    checkContext evidence contractHash request
    let failures ← validateAuthorityEvidence evidence true current
    refuseFor (standing failures).head?
    let signedAt ← signedTime (Dict.get request.artifact "signed_at") instant
    let revocation ← request.revocationChecker evidence.authorityEvidenceId current
    refuseFor (revocationFailure surroundings revocation request.revocationPolicy current)
    let signerPolicyHash ← request.signerPolicy.deterministicHash surroundings
    let temporary := proofData request evidence claimsHash contractHash signerPolicyHash signedAt result revocation current
    let proofHash ← sha256OfCanonicalJson surroundings.sha256 (.dict temporary.proofHashPayload)
    return { temporary with verificationProofHash := proofHash,registered := some proofHash }

def verifierFailures (proof : SealedAuthority) (requireProduction : Bool) : Option AuthorityEvidenceVerifierPolicy → List String
  | none => ["authority_verifier_policy_required"]
  | some policy =>
    match policy.approvedById proof.verifierId with
    | none => ["authority_verifier_not_approved"]
    | some approved =>
      (if [proof.verifierTrustLevel,proof.signerKeyId,proof.verifierPolicyId,proof.verifierPolicyHash,proof.signerPolicyId,
            proof.signerPolicyHash] ≠
          [approved.trustLevel,approved.verifierKeyId,approved.verifierPolicyId,approved.verifierPolicyHash,approved.signerPolicyId,
            approved.signerPolicyHash] then ["authority_verifier_policy_mismatch"] else []) ++
      (if requireProduction && approved.trustLevel ≠ "production" then ["authority_production_verifier_required"] else [])

def revocationFailures (revocation : AuthorityRevocationVerificationResult) (context : ProofContext) : List String :=
  match context.revocationPolicy with
  | none => ["authority_revocation_policy_required"]
  | some policy => (revocationFailure surroundings revocation policy (surroundings.orNow context.now .revocation)).toList

def contextFailures (proof : SealedAuthority) (context : ProofContext) (expected claims contract : String) : List String :=
  (if proof.verificationProofHash ≠ expected ∨ proof.registered ≠ some expected then ["authority_verification_proof_invalid"] else []) ++
  (if proof.claimsHash ≠ claims then ["authority_claims_hash_mismatch"] else []) ++
  (if proof.actionContractHash ≠ contract then ["authority_action_contract_hash_mismatch"] else []) ++
  (if pyEq proof.authorityEvidence.actionContractId (.str context.actionContract.id) then [] else
    ["authority_action_contract_id_mismatch"]) ++
  (if pyEq proof.authorityEvidence.actionContractVersion (.str context.actionContract.version) then [] else
    ["authority_action_contract_version_mismatch"]) ++
  (if pyEq proof.authorityEvidence.actorIdentity (.str context.actorIdentity) then [] else ["authority_actor_identity_mismatch"]) ++
  (if pyEq proof.authorityEvidence.policySnapshotId (.str context.policySnapshotId) then [] else ["authority_policy_snapshot_mismatch"]) ++
  timeFailure proof.signedAt "authority_signed_at_invalid" ++ timeFailure proof.verifiedAt "authority_verified_at_invalid" ++
  (if context.requestedScope.any fun scope => !isScopeGranting proof.authorityEvidence scope then ["authority_scope_not_granted"] else [])

-- validate_verified_authority_evidence: the reasons not to accept the proof.
def validateSealedAuthority (proof : SealedAuthority) (context : ProofContext) : Except Exc (List String) := do
  let expected ← sha256OfCanonicalJson surroundings.sha256 (.dict proof.proofHashPayload)
  let claims ← sha256OfCanonicalJson surroundings.sha256 (.dict proof.authorityEvidence.claimsDict)
  let contract ← sha256OfCanonicalJson surroundings.sha256 (.dict context.actionContract.toDict)
  let raw ← validateAuthorityEvidence proof.authorityEvidence false (surroundings.orNow context.now .claims)
  return contextFailures proof context expected claims contract ++ verifierFailures proof context.requireProductionVerifier context.verifierPolicy ++
    revocationFailures surroundings proof.revocation context ++ standing raw

theorem refuseIf_ok : refuseIf failed reason = .ok done ↔ failed = false := by
  cases failed <;> simp [refuseIf]

theorem refuseFor_ok {failure : Option String} {done : Unit} : refuseFor failure = .ok done ↔ failure = none := by
  cases failure <;> simp [refuseFor]

def IssueRequest.current (request : IssueRequest) (clock : Int) : Moment := request.now.getD (clock,some 0)

structure IssuedFrom (clock : Int) (request : IssueRequest) (result : SignatureVerificationResult) (evidence : ClaimedEvidence)
    (claimsHash contractHash signerPolicyHash signedAt proofHash : String) (revocation : AuthorityRevocationVerificationResult) : Prop where
  zoned : ∃ instant, Moment.instant (request.current clock) = some instant ∧
    signedTime (Dict.get request.artifact "signed_at") instant = .ok signedAt
  claims : authenticClaims surroundings request.artifact = .ok (evidence,claimsHash)
  signer : checkSigner request.artifact result request.signerPolicy = .ok ()
  verifier : checkVerifier surroundings result request.signerPolicy request.verifierPolicy = .ok ()
  contract : sha256OfCanonicalJson surroundings.sha256 (.dict request.actionContract.toDict) = .ok contractHash
  context : checkContext evidence contractHash request = .ok ()
  temporal : ∃ failures, validateAuthorityEvidence evidence true (request.current clock) = .ok failures ∧ standing failures = []
  unrevoked : revocationFailure surroundings revocation request.revocationPolicy (request.current clock) = none
  signerPolicy : request.signerPolicy.deterministicHash surroundings = .ok signerPolicyHash
  sealed : sha256OfCanonicalJson surroundings.sha256 (.dict (proofData request evidence claimsHash contractHash signerPolicyHash signedAt
    result revocation (request.current clock)).proofHashPayload) = .ok proofHash

variable {surroundings}

variable {clock : Int} {request : IssueRequest} {result : SignatureVerificationResult} {proof : SealedAuthority}
variable {evidence : ClaimedEvidence} {claimsHash contractHash signedAt signerPolicyHash : String}

theorem issue_parts (verified : request.signatureVerifier request.artifact = .ok result)
    (issued : verifyAuthorityEvidenceArtifactToProof surroundings clock request = .ok proof) :
    ∃ evidence claimsHash contractHash signerPolicyHash signedAt proofHash revocation,
      IssuedFrom surroundings clock request result evidence claimsHash contractHash signerPolicyHash signedAt proofHash revocation ∧
      proof = { proofData request evidence claimsHash contractHash signerPolicyHash signedAt result revocation (request.current clock) with
        verificationProofHash := proofHash,registered := some proofHash } := by
  unfold verifyAuthorityEvidenceArtifactToProof at issued
  cases zoned : Moment.instant (request.current clock) with
  | none =>
    unfold IssueRequest.current at zoned
    simp only [zoned] at issued
    cases issued
  | some instant =>
    unfold IssueRequest.current at zoned
    simp only [zoned] at issued
    obtain ⟨⟨evidence,claimsHash⟩,claims,issued⟩ := bind_ok.mp issued
    obtain ⟨found,answered,issued⟩ := bind_ok.mp issued
    cases answered.symm.trans verified
    obtain ⟨_,signer,issued⟩ := bind_ok.mp issued
    obtain ⟨_,verifier,issued⟩ := bind_ok.mp issued
    obtain ⟨contractHash,contract,issued⟩ := bind_ok.mp issued
    obtain ⟨_,context,issued⟩ := bind_ok.mp issued
    obtain ⟨failures,valid,issued⟩ := bind_ok.mp issued
    obtain ⟨_,temporal,issued⟩ := bind_ok.mp issued
    obtain ⟨signedAt,signed,issued⟩ := bind_ok.mp issued
    obtain ⟨revocation,_,issued⟩ := bind_ok.mp issued
    obtain ⟨_,unrevoked,issued⟩ := bind_ok.mp issued
    obtain ⟨signerPolicyHash,signerPolicy,issued⟩ := bind_ok.mp issued
    obtain ⟨proofHash,sealed_,issued⟩ := bind_ok.mp issued
    cases issued
    refine ⟨evidence,claimsHash,contractHash,signerPolicyHash,signedAt,proofHash,revocation,?_,rfl⟩
    exact {
      zoned := ⟨instant,zoned,signed⟩
      claims,signer,verifier,contract,context
      temporal := ⟨failures,valid,List.head?_eq_none_iff.mp (refuseFor_ok.mp temporal)⟩
      unrevoked := refuseFor_ok.mp unrevoked
      signerPolicy
      sealed := sealed_ }

theorem claims_hash_kept (claims : authenticClaims surroundings artifact = .ok (evidence,claimsHash)) :
    sha256OfCanonicalJson surroundings.sha256 (.dict evidence.claimsDict) = .ok claimsHash := by
  unfold authenticClaims at claims
  obtain ⟨members,_,claims⟩ := bind_ok.mp claims
  obtain ⟨parsed,_,claims⟩ := bind_ok.mp claims
  obtain ⟨hash,hashed,claims⟩ := bind_ok.mp claims
  obtain ⟨_,_,claims⟩ := bind_ok.mp claims
  obtain ⟨evidenceHash,_,claims⟩ := bind_ok.mp claims
  cases claims
  exact hashed

theorem key_approved (signer : checkSigner artifact result policy = .ok ()) : ∃ key, result.keyId = some key := by
  unfold checkSigner at signer
  obtain ⟨_,_,signer⟩ := bind_ok.mp signer
  obtain ⟨_,approved,_⟩ := bind_ok.mp signer
  cases given : result.keyId with
  | none =>
    rw [given] at approved
    cases approved
  | some key => exact ⟨key,rfl⟩

structure Agreed (evidence : ClaimedEvidence) (request : IssueRequest) : Prop where
  id : pyEq evidence.actionContractId (.str request.actionContract.id) = true
  version : pyEq evidence.actionContractVersion (.str request.actionContract.version) = true
  actor : pyEq evidence.actorIdentity (.str request.actorIdentity) = true
  snapshot : pyEq evidence.policySnapshotId (.str request.policySnapshotId) = true
  scope : (request.requestedScope.any fun scope => !isScopeGranting evidence scope) = false

theorem context_agreed (context : checkContext evidence contractHash request = .ok ()) : Agreed evidence request := by
  unfold checkContext at context
  obtain ⟨_,id,context⟩ := bind_ok.mp context
  obtain ⟨_,version,context⟩ := bind_ok.mp context
  obtain ⟨_,_,context⟩ := bind_ok.mp context
  obtain ⟨_,actor,context⟩ := bind_ok.mp context
  obtain ⟨_,snapshot,context⟩ := bind_ok.mp context
  obtain ⟨_,granted,limited⟩ := bind_ok.mp context
  have listed := List.any_eq_false.mp (refuseIf_ok.mp granted)
  have unlimited := List.any_eq_false.mp (refuseIf_ok.mp limited)
  exact {
    id := by simpa using refuseIf_ok.mp id
    version := by simpa using refuseIf_ok.mp version
    actor := by simpa using refuseIf_ok.mp actor
    snapshot := by simpa using refuseIf_ok.mp snapshot
    scope := by
      refine List.any_eq_false.mpr fun scope asked => ?_
      have grants := listed scope asked
      have limits := unlimited scope asked
      simp only [Bool.or_eq_true,not_or] at limits
      simp [isScopeGranting,limits.1] at grants ⊢
      exact grants }

theorem signed_time_aware (signed : signedTime stated current = .ok signedAt) : timeFailure signedAt "authority_signed_at_invalid" = [] := by
  unfold signedTime at signed
  split at signed
  · rename_i text
    cases aware : awareDatetime text "authority_signed_at_invalid" with
    | error reason => simp [aware] at signed
    | ok instant =>
      simp only [aware] at signed
      split at signed
      · cases signed
      · cases signed
        simp [timeFailure,aware]
  · cases signed

theorem verified_time_aware (real : Representable moment) (zoned : Moment.instant moment = some instant)
    (reason : String) : timeFailure (isoformat moment) reason = [] := by
  obtain ⟨wall,zone⟩ := moment
  cases zone with
  | none => cases zoned
  | some offset => simp [timeFailure,awareDatetime,fromisoformat_isoformat real]

theorem standing_append (first second : List String) : standing (first ++ second) = standing first ++ standing second := List.filter_append ..

theorem standing_optional (valid : validateAuthorityEvidence evidence true now = .ok failures) (temporal : standing failures = []) :
    ∃ raw, validateAuthorityEvidence evidence false now = .ok raw ∧ standing raw = [] := by
  unfold validateAuthorityEvidence at valid ⊢
  obtain ⟨actor,stripped,valid⟩ := bind_ok.mp valid
  obtain ⟨snapshot,_,valid⟩ := bind_ok.mp valid
  cases valid
  simp only [standing_append,List.append_eq_nil_iff] at temporal
  obtain ⟨⟨⟨⟨blank,refs⟩,_⟩,result⟩,window⟩ := temporal
  refine ⟨_,bind_ok.mpr ⟨actor,stripped,bind_ok.mpr ⟨[],rfl,rfl⟩⟩,?_⟩
  simp only [standing_append,blank,refs,result,window]
  rfl

-- The entry of the verifier policy that validation finds is bound to the signing key. Issuing
-- looks a result without a verifier up under "", validation under "None".
def KeyMeets (surroundings : Surroundings) (request : IssueRequest) (result : SignatureVerificationResult) : Prop :=
  ∃ policy, request.verifierPolicy = some policy ∧ (result.verifierId ≠ none → result.verifierKeyId = result.keyId) ∧
    (result.verifierId = none → ∃ entry, policy.approvedById "None" = some entry ∧
      result.verifierTrustLevel = some entry.trustLevel ∧ result.keyId = some entry.verifierKeyId ∧
      result.verifierPolicyId = some entry.verifierPolicyId ∧ result.verifierPolicyHash = some entry.verifierPolicyHash ∧
      request.signerPolicy.policyId = entry.signerPolicyId ∧
      request.signerPolicy.deterministicHash surroundings = .ok entry.signerPolicyHash)

-- The entry issuing finds says the same as the result, with the key of the verifier.
structure Approved (approved : ApprovedAuthorityEvidenceVerifier) (result : SignatureVerificationResult)
    (signerPolicyId signerPolicyHash : String) : Prop where
  trust : result.verifierTrustLevel = some approved.trustLevel
  key : result.verifierKeyId = some approved.verifierKeyId
  policy : result.verifierPolicyId = some approved.verifierPolicyId
  hash : result.verifierPolicyHash = some approved.verifierPolicyHash
  signer : signerPolicyId = approved.signerPolicyId
  signerHash : signerPolicyHash = approved.signerPolicyHash

theorem verifier_approved {signerPolicy : AuthorityEvidenceSignerPolicy} {policy : AuthorityEvidenceVerifierPolicy}
    (hashed : signerPolicy.deterministicHash surroundings = .ok signerPolicyHash)
    (verifier : checkVerifier surroundings result signerPolicy (some policy) = .ok ()) :
    ∃ approved, policy.approvedById (result.verifierId.getD "") = some approved ∧
      Approved approved result signerPolicy.policyId signerPolicyHash := by
  obtain ⟨failure,checked,passed⟩ := bind_ok.mp verifier
  cases refuseFor_ok.mp passed
  unfold verifierPolicyFailure at checked
  cases found : policy.approvedById (result.verifierId.getD "") with
  | none => simp [found] at checked
  | some approved =>
    simp only [found,hashed] at checked
    refine ⟨approved,rfl,?_⟩
    by_cases same : [result.verifierTrustLevel,result.verifierKeyId,result.verifierPolicyId,result.verifierPolicyHash,
        some signerPolicy.policyId,some signerPolicyHash] =
      [some approved.trustLevel,some approved.verifierKeyId,some approved.verifierPolicyId,some approved.verifierPolicyHash,
        some approved.signerPolicyId,some approved.signerPolicyHash]
    · simp only [List.cons.injEq,Option.some.injEq,and_true] at same
      obtain ⟨trust,key,policy,hash,signer,signerHash⟩ := same
      exact ⟨trust,key,policy,hash,signer,signerHash⟩
    · simp [bind,Except.bind,same] at checked
      cases checked

theorem tuple_agrees (found : policy.approvedById proof.verifierId = some entry) : verifierFailures proof false (some policy) = [] ↔
      [proof.verifierTrustLevel,proof.signerKeyId,proof.verifierPolicyId,proof.verifierPolicyHash,proof.signerPolicyId,
          proof.signerPolicyHash] =
        [entry.trustLevel,entry.verifierKeyId,entry.verifierPolicyId,entry.verifierPolicyHash,entry.signerPolicyId,
          entry.signerPolicyHash] := by
  unfold verifierFailures
  simp only [found,Bool.false_and,Bool.false_eq_true,if_false,List.append_nil]
  split <;> simp_all

theorem verifier_meets
    (parts : IssuedFrom surroundings clock request result evidence claimsHash contractHash signerPolicyHash signedAt proofHash revocation)
    (built : proof = { proofData request evidence claimsHash contractHash signerPolicyHash signedAt result revocation (request.current clock) with verificationProofHash := proofHash,registered := some proofHash }) :
    verifierFailures proof false request.verifierPolicy = [] ↔ KeyMeets surroundings request result := by
  cases supplied : request.verifierPolicy with
  | none =>
    refine ⟨fun empty => (nomatch empty),fun meets => ?_⟩
    obtain ⟨policy,given,_⟩ := meets
    rw [supplied] at given
    cases given
  | some policy =>
    have verifier := parts.verifier
    rw [supplied] at verifier
    obtain ⟨approved,found,agrees⟩ := verifier_approved parts.signerPolicy verifier
    obtain ⟨key,signing⟩ := key_approved parts.signer
    have sharpened : KeyMeets surroundings request result ↔ (result.verifierId ≠ none → result.verifierKeyId = result.keyId) ∧
        (result.verifierId = none → ∃ entry, policy.approvedById "None" = some entry ∧
          [approved.trustLevel,key,approved.verifierPolicyId,approved.verifierPolicyHash,request.signerPolicy.policyId,signerPolicyHash] =
            [entry.trustLevel,entry.verifierKeyId,entry.verifierPolicyId,entry.verifierPolicyHash,entry.signerPolicyId,
              entry.signerPolicyHash]) := by
      unfold KeyMeets
      simp only [supplied,Option.some.injEq,exists_eq_left',agrees.trust,agrees.policy,agrees.hash,signing,parts.signerPolicy,
        Except.ok.injEq,List.cons.injEq,and_true]
    rw [sharpened]
    have stated : (proof.verifierId = shown result.verifierId ∧ proof.signerPolicyHash = signerPolicyHash) ∧
        [proof.verifierTrustLevel,proof.signerKeyId,proof.verifierPolicyId,proof.verifierPolicyHash,proof.signerPolicyId] =
          [approved.trustLevel,key,approved.verifierPolicyId,approved.verifierPolicyHash,request.signerPolicy.policyId] := by
      rw [built]
      simp [proofData,shown,agrees.trust,agrees.policy,agrees.hash,signing]
    simp only [List.cons.injEq,and_true] at stated
    obtain ⟨⟨id,hash⟩,trust,signer,policyId,policyHash,signerPolicyId⟩ := stated
    cases named : result.verifierId with
    | some verifierId =>
      rw [named] at found
      have same : policy.approvedById proof.verifierId = some approved := by
        rw [id,named]
        exact found
      rw [tuple_agrees same,trust,signer,policyId,policyHash,signerPolicyId,hash,signing,agrees.key,← agrees.signer,← agrees.signerHash]
      simp [eq_comm]
    | none =>
      have looked : proof.verifierId = "None" := by
        rw [id,named]
        rfl
      cases entered : policy.approvedById "None" with
      | none =>
        simp [verifierFailures,looked,entered]
      | some entry =>
        have same : policy.approvedById proof.verifierId = some entry := by rw [looked,entered]
        rw [tuple_agrees same,trust,signer,policyId,policyHash,signerPolicyId,hash]
        simp

def IssueRequest.context (request : IssueRequest) : ProofContext where
  actionContract := request.actionContract
  actorIdentity := request.actorIdentity
  requestedScope := request.requestedScope
  policySnapshotId := request.policySnapshotId
  verifierPolicy := request.verifierPolicy
  revocationPolicy := some request.revocationPolicy
  now := request.now
  requireProductionVerifier := false

theorem issued_only_verifier (sameTime : ∀ reading, surroundings.utcnow reading = clock) (real : Representable (request.current clock))
    (parts : IssuedFrom surroundings clock request result evidence claimsHash contractHash signerPolicyHash signedAt proofHash revocation)
    (built : proof = { proofData request evidence claimsHash contractHash signerPolicyHash signedAt result revocation (request.current clock) with verificationProofHash := proofHash,registered := some proofHash }) :
    validateSealedAuthority surroundings proof request.context = .ok (verifierFailures proof false request.verifierPolicy) := by
  obtain ⟨instant,zoned,signed⟩ := parts.zoned
  obtain ⟨failures,valid,temporal⟩ := parts.temporal
  obtain ⟨raw,again,standingRaw⟩ := standing_optional valid temporal
  have agreed := context_agreed parts.context
  have current (reading : Reading) : surroundings.orNow request.now reading = request.current clock := by
    rw [Surroundings.orNow,sameTime reading,IssueRequest.current]
  have fields : contextFailures proof request.context proofHash claimsHash contractHash = [] := by
    rw [built]
    unfold contextFailures
    simp only [proofData,IssueRequest.context,agreed.id,agreed.version,agreed.actor,agreed.snapshot,agreed.scope,
      signed_time_aware signed,verified_time_aware real zoned]
    simp
  have unrevoked : revocationFailures surroundings proof.revocation request.context = [] := by
    rw [built]
    simp only [revocationFailures,IssueRequest.context,current,proofData,parts.unrevoked]
    rfl
  have hashed : sha256OfCanonicalJson surroundings.sha256 (.dict proof.proofHashPayload) = .ok proofHash := by
    rw [built]
    exact parts.sealed
  have claims : sha256OfCanonicalJson surroundings.sha256 (.dict proof.authorityEvidence.claimsDict) = .ok claimsHash := by
    rw [built]
    exact claims_hash_kept parts.claims
  have rawAgain : validateAuthorityEvidence proof.authorityEvidence false (surroundings.orNow request.context.now .claims) = .ok raw := by
    rw [built]
    exact (congrArg _ (current .claims)).trans again
  have contract : sha256OfCanonicalJson surroundings.sha256 (.dict request.context.actionContract.toDict) = .ok contractHash := parts.contract
  unfold validateSealedAuthority
  rw [hashed,claims,contract,rawAgain]
  show Except.ok (contextFailures proof request.context proofHash claimsHash contractHash ++ _ ++ _ ++ standing raw) = _
  rw [fields,unrevoked,standingRaw,List.nil_append,List.append_nil,List.append_nil]
  rfl

theorem issued_validates {clock : Int} {request : IssueRequest} {result : SignatureVerificationResult} {proof : SealedAuthority}
    (sameTime : ∀ reading, surroundings.utcnow reading = clock) (real : Representable (request.current clock))
    (verified : request.signatureVerifier request.artifact = .ok result)
    (issued : verifyAuthorityEvidenceArtifactToProof surroundings clock request = .ok proof) :
    validateSealedAuthority surroundings proof request.context = .ok [] ↔ KeyMeets surroundings request result := by
  obtain ⟨evidence,claimsHash,contractHash,signerPolicyHash,signedAt,proofHash,revocation,parts,built⟩ := issue_parts verified issued
  rw [issued_only_verifier sameTime real parts built,Except.ok.injEq]
  exact verifier_meets parts built

end Issue

-- The hashes compared below are those of equal texts, so any digest tells the same.
def sampleSurroundings : Surroundings where
  sha256 := fun _ => "digest"
  hexInt := fun text => if text.toList.all (· == '0') then some 0 else none
  utcnow := fun _ => 0

def sampleClaims : Dict :=
  [field "authority_evidence_id" (.str "evidence-1"),field "action_contract_id" (.str "contract-1"),
   field "action_contract_version" (.str "v1"),field "actor_identity" (.str "clerk-1"),field "actor_role" (.str "clerk"),
   field "authority_source_refs" (.list [.str "iam"]),field "role_or_policy_basis" (.list []),field "scope_grants" (.list [.str "pay"]),
   field "scope_limitations" (.list []),field "validity_window" (.dict [field "issued_at" (.str "2026-01-01T00:00:00+00:00"),
     field "valid_from" (.str "2026-01-01T00:00:00+00:00"),field "valid_until" (.str "2027-01-01T00:00:00+00:00")]),
   field "issued_at" (.str "2026-01-01T00:00:00+00:00"),field "valid_from" (.str "2026-01-01T00:00:00+00:00"),
   field "valid_until" (.str "2027-01-01T00:00:00+00:00"),field "policy_snapshot_id" (.str "snapshot-1"),
   field "action_contract_hash" (.str "digest")]

def sampleArtifact : Dict :=
  [field "artifact_type" (.str "authority_evidence"),field "artifact_version" (.str "v1"),field "claims" (.dict sampleClaims),
   field "claims_hash" (.str "digest"),field "signer" (.dict [field "key_id" (.str "signing-key"),field "algorithm" (.str "ed25519")]),
   field "signed_at" (.str "2026-01-01T00:00:00+00:00")]

def sampleSigners : AuthorityEvidenceSignerPolicy where
  policyId := "signers-1"
  allowedKeyIds := ["signing-key"]
  allowedAlgorithms := ["ed25519"]
  allowedIssuerIdentities := ["issuer-1"]

def sampleResult (verifierKeyId : String) : SignatureVerificationResult where
  verified := true
  keyId := some "signing-key"
  algorithm := some "ed25519"
  issuerIdentity := some "issuer-1"
  verifierTrustLevel := some "production"
  verifierId := some "verifier-1"
  verifierKeyId := some verifierKeyId
  verifierPolicyId := some "policy-1"
  verifierPolicyHash := some "policy-hash"

def sampleEntry (verifierKeyId : String) : ApprovedAuthorityEvidenceVerifier where
  verifierId := "verifier-1"
  trustLevel := "production"
  verifierKeyId := verifierKeyId
  verifierPolicyId := "policy-1"
  verifierPolicyHash := "policy-hash"
  signerPolicyId := "signers-1"
  signerPolicyHash := "digest"

def sampleStatus : AuthorityRevocationVerificationResult where
  checked := true
  revoked := some false
  checkedAt := "2026-06-01T00:00:00+00:00"
  sourceIdentity := "crl-1"
  sourceVersion := "1"
  sourceHash := "0000000000000000000000000000000000000000000000000000000000000000"
  reason := ""

def sampleNow : Moment := ((daysBeforeYear 2026 + 160) * dayMicros,some 0)

def sampleRequest (verifierKeyId : String) : IssueRequest where
  artifact := sampleArtifact
  actionContract := RuntimeAuthority.sampleContract
  actorIdentity := "clerk-1"
  requestedScope := ["pay"]
  policySnapshotId := "snapshot-1"
  signatureVerifier := fun _ => .ok (sampleResult verifierKeyId)
  signerPolicy := sampleSigners
  revocationChecker := fun _ _ => .ok sampleStatus
  revocationPolicy := ⟨31536000,["crl-1"]⟩
  verifierPolicy := some ⟨[sampleEntry verifierKeyId]⟩
  now := some sampleNow

theorem sample_real : Representable sampleNow := by
  refine ⟨by decide,fun offset given => ?_⟩
  cases given
  decide

theorem issued_validates_sample : ∃ proof,
    verifyAuthorityEvidenceArtifactToProof sampleSurroundings 0 (sampleRequest "signing-key") = .ok proof ∧
      validateSealedAuthority sampleSurroundings proof (sampleRequest "signing-key").context = .ok [] := by
  have told : (verifyAuthorityEvidenceArtifactToProof sampleSurroundings 0 (sampleRequest "signing-key")).toOption.map
      SealedAuthority.verifierId = some "verifier-1" := by
    decide +kernel
  obtain ⟨proof,issued,_⟩ := toOption_shown told
  have verified : (sampleRequest "signing-key").signatureVerifier (sampleRequest "signing-key").artifact =
      .ok (sampleResult "signing-key") := rfl
  have meets : KeyMeets sampleSurroundings (sampleRequest "signing-key") (sampleResult "signing-key") :=
    ⟨⟨[sampleEntry "signing-key"]⟩,rfl,fun _ => rfl,fun absent => (nomatch absent)⟩
  have real : Representable ((sampleRequest "signing-key").current 0) := sample_real
  exact ⟨proof,issued,(issued_validates (fun _ => rfl) real verified issued).mpr meets⟩

-- The allowlist entry holds the key of the verifier, the proof the key of the signer.
theorem verifier_key_rejected : ¬∀ (surroundings : Surroundings) (clock : Int) (request : IssueRequest) (proof : SealedAuthority),
      (∀ reading, surroundings.utcnow reading = clock) → Representable (request.current clock) → request.verifierPolicy.isSome = true →
      verifyAuthorityEvidenceArtifactToProof surroundings clock request = .ok proof →
      validateSealedAuthority surroundings proof request.context = .ok [] := by
  intro validates
  have told : (verifyAuthorityEvidenceArtifactToProof sampleSurroundings 0 (sampleRequest "verifier-key")).toOption.map
      (fun proof => (validateSealedAuthority sampleSurroundings proof (sampleRequest "verifier-key").context).toOption) =
        some (some ["authority_verifier_policy_mismatch"]) := by
    decide +kernel
  obtain ⟨proof,issued,rejected⟩ := toOption_shown told
  have accepted := validates sampleSurroundings 0 (sampleRequest "verifier-key") proof (fun _ => rfl) sample_real rfl issued
  rw [accepted] at rejected
  cases rejected

end VeritasOs.AuthorityProof
