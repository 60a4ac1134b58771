import VeritasOs.CanonicalHandoff
import VeritasOs.PacketModel
import VeritasOs.PolicyBundle

namespace VeritasOs.GuardedPromotion
open JsonText DateTime PacketModel CanonicalHandoff

def formatVersion : String := "canonical-guarded-promotion-eligibility-packet/v1"
def validationMechanism : String := "validate_canonical_decision_handoff/v1"
def sourceHandoffDomain : String := "veritas.guarded-promotion-eligibility.source-handoff/v1"
def trustedContextDomain : String := "veritas.guarded-promotion-eligibility.trusted-context/v1"
def validationResultDomain : String := "veritas.guarded-promotion-eligibility.validation-result/v1"

def texts (items : List String) : Value := .list (items.map .str)

def scopeLimitations : List String :=
  ["NOT_EXECUTION_AUTHORITY","NOT_EXECUTION_INTENT","NOT_BIND_AUTHORIZATION","NOT_BIND_RECEIPT","NOT_EXTERNAL_EFFECT",
   "NOT_AUTHORITY_EVIDENCE","NOT_HUMAN_APPROVAL","NOT_TRUSTLOG_SUBSTITUTE"]

def eligibilitySeal : Seal where
  domain := "veritas.guarded-promotion-eligibility.packet/v1"
  idField := "eligibility_id"
  hashField := "eligibility_hash"
  head := "gpe:v1:sha256:"
  hashMismatch := "GPE_PACKET_HASH_MISMATCH"
  idMismatch := "GPE_PACKET_ID_MISMATCH"

-- CanonicalGuardedPromotionEligibilityPacket
def eligibilitySchema : Schema :=
  [("format_version",.literal (.str formatVersion)),("eligibility_id",.hashed "gpe:v1:sha256:"),("eligibility_hash",.hashed ""),
   ("validation_mechanism",.literal (.str validationMechanism)),("handoff_validator_version",.text),("issued_at",.text),
   ("evaluated_at",.text),("validation_status",.literal (.str "READY_FOR_GUARDED_PROMOTION")),
   ("ready_for_guarded_promotion",.literal (.bool true)),("fail_closed",.literal (.bool false)),("source_handoff",.mapping),
   ("source_handoff_hash",.hashed ""),("trusted_validation_context",.mapping),("trusted_validation_context_hash",.hashed ""),
   ("validation_result",.mapping),("validation_result_hash",.hashed ""),("verified_provenance_paths",.texts),
   ("source_decision_identity",.mapping),("candidate_identity",.mapping),("evidence_lineage",.mapping),("replay_summary",.mapping),
   ("scope_limitations",.texts)]

abbrev Part := Value ⊕ Moment

def shownPart : Part → Value
  | .inl value => value
  | .inr moment => .str (isoformat moment)

def partJson : Part → Packet Value
  | .inl value => orRefuse "GPE_JSON_VALUE_INVALID" (jsonValue value)
  | .inr moment => if aware moment then .ok (.str (isoformat moment)) else .error (.refused "GPE_TIMESTAMP_INVALID")

def partsJson : List (String × Part) → Packet Dict
  | [] => .ok []
  | (name,part) :: rest => do
    let shown ← partJson part
    let later ← partsJson rest
    .ok ((.str name,shown) :: later)

def assertionParts (assertion : TrustedValueAssertion) : List (String × Part) :=
  [("field_path",.inl assertion.fieldPath),("value_digest",.inl assertion.valueDigest),
   ("source_artifact_ref",.inl assertion.sourceArtifactRef),("source_hash",.inl assertion.sourceHash),
   ("verification_mechanism",.inl assertion.verificationMechanism),("verified_at",.inr assertion.verifiedAt),
   ("claims",.inl (.tuple assertion.claims))]

def candidateBindingParts (binding : CandidateHashBindingAssertion) : List (String × Part) :=
  [("candidate_value_digest",.inl binding.candidateValueDigest),("asserted_candidate_hash",.inl binding.assertedCandidateHash),
   ("candidate_hash_profile",.inl binding.candidateHashProfile),("source_artifact_ref",.inl binding.sourceArtifactRef),
   ("source_hash",.inl binding.sourceHash),("verification_mechanism",.inl binding.verificationMechanism),
   ("verified_at",.inr binding.verifiedAt),("claim",.inl binding.claim)]

def authorityBindingParts (binding : AuthorityEvidenceRequirementBindingAssertion) : List (String × Part) :=
  [("authority_requirement_value_digest",.inl binding.authorityRequirementValueDigest),
   ("authority_evidence_value_digest",.inl binding.authorityEvidenceValueDigest),("source_artifact_ref",.inl binding.sourceArtifactRef),
   ("source_hash",.inl binding.sourceHash),("verification_mechanism",.inl binding.verificationMechanism),
   ("verified_at",.inr binding.verifiedAt),("claim",.inl binding.claim)]

def optionJson : Option (List (String × Part)) → Packet Value
  | none => .ok .none
  | some parts => (partsJson parts).map .dict

def assertionsJson : List TrustedValueAssertion → Packet (List Value)
  | [] => .ok []
  | assertion :: rest => do
    let shown ← partsJson (assertionParts assertion)
    let later ← assertionsJson rest
    .ok (.dict shown :: later)

-- _json_value(context)
def contextJson (context : ValidationContext) : Packet Value := do
  let assertions ← assertionsJson context.valueAssertions
  let candidate ← optionJson (context.candidateHashBinding.map candidateBindingParts)
  let authority ← optionJson (context.authorityRequirementBinding.map authorityBindingParts)
  .ok (.dict [(.str "value_assertions",.list assertions),(.str "candidate_hash_binding",candidate),
    (.str "authority_requirement_binding",authority)])

def keysAre (names : List String) (members : Dict) : Bool :=
  members.all (fun member => names.any fun name => member.1 == .str name) && names.all fun name => (lookup (.str name) members).isSome

def readMoment : Value → Option Moment
  | .str s => fromisoformat s.toList
  | _ => none

def keyed (names : List String) : Value → Option Dict
  | .dict members => if keysAre names members then some members else none
  | _ => none

def assertionFromJson (raw : Value) : Option TrustedValueAssertion := do
  let item ← keyed ["field_path","value_digest","source_artifact_ref","source_hash","verification_mechanism","verified_at","claims"] raw
  let verifiedAt ← readMoment (item.get "verified_at")
  let claims ← (PolicyBundle.listFrom (item.get "claims")).toOption
  some ⟨item.get "field_path",item.get "value_digest",item.get "source_artifact_ref",item.get "source_hash",
    item.get "verification_mechanism",verifiedAt,claims⟩

def candidateBindingFromJson (raw : Value) : Option CandidateHashBindingAssertion := do
  let binding ← keyed ["candidate_value_digest","asserted_candidate_hash","candidate_hash_profile","source_artifact_ref","source_hash",
    "verification_mechanism","verified_at","claim"] raw
  let verifiedAt ← readMoment (binding.get "verified_at")
  some ⟨binding.get "candidate_value_digest",binding.get "asserted_candidate_hash",binding.get "candidate_hash_profile",
    binding.get "source_artifact_ref",binding.get "source_hash",binding.get "verification_mechanism",verifiedAt,binding.get "claim"⟩

def authorityBindingFromJson (raw : Value) : Option AuthorityEvidenceRequirementBindingAssertion := do
  let binding ← keyed ["authority_requirement_value_digest","authority_evidence_value_digest","source_artifact_ref","source_hash",
    "verification_mechanism","verified_at","claim"] raw
  let verifiedAt ← readMoment (binding.get "verified_at")
  some ⟨binding.get "authority_requirement_value_digest",binding.get "authority_evidence_value_digest",binding.get "source_artifact_ref",
    binding.get "source_hash",binding.get "verification_mechanism",verifiedAt,binding.get "claim"⟩

def nullable (read : Value → Option α) : Value → Option (Option α)
  | .none => some none
  | value => (read value).map some

def listItems : Value → Option (List Value)
  | .list items => some items
  | _ => none

-- _context_from_json(raw): whatever fails, it refuses with one code.
def contextFromJson (raw : Value) : Option ValidationContext := do
  let members ← keyed ["value_assertions","candidate_hash_binding","authority_requirement_binding"] raw
  let items ← listItems (members.get "value_assertions")
  let assertions ← items.mapM assertionFromJson
  let candidate ← nullable candidateBindingFromJson (members.get "candidate_hash_binding")
  let authority ← nullable authorityBindingFromJson (members.get "authority_requirement_binding")
  let context := ValidationContext.mk assertions candidate authority
  let _ ← (contextJson context).toOption
  some context

def pick (value : Value) (fields : List (String × String)) : Except Exc Dict :=
  fields.mapM fun field => do
    let found ← PolicyBundle.subscript value field.2
    .ok (.str field.1,found)

def getAll (value : Value) (names : List String) : Except Exc Dict :=
  match value with
  | .dict members => .ok (names.map fun name => (.str name,Dict.get members name))
  | _ => .error (PolicyBundle.attributeError "object has no attribute 'get'")

structure Identities where
  source : Dict
  candidate : Dict
  evidence : Dict
  replay : Dict

def Identities.values (found : Identities) : List Value := [.dict found.source,.dict found.candidate,.dict found.evidence,.dict found.replay]

def replayFields : List String :=
  ["original_decision_id","replay_decision_id","original_request_id","replay_request_id","semantic_profile","semantic_match",
   "fields_changed","severity","divergence_level"]

def identities (handoff : Value) : Except Exc Identities := do
  let source ← PolicyBundle.subscript handoff "source_decision"
  let candidate ← PolicyBundle.subscript handoff "candidate"
  let action ← PolicyBundle.subscript candidate "canonical_action"
  let trust ← PolicyBundle.subscript handoff "trustlog_lineage"
  let replay ← PolicyBundle.subscript handoff "replay_lineage"
  let authority ← PolicyBundle.subscript handoff "authority_evidence"
  let approval ← PolicyBundle.subscript handoff "human_approval_evidence"
  let policy ← PolicyBundle.subscript handoff "policy_lineage"
  let state ← PolicyBundle.subscript handoff "expected_state"
  let sourceIdentity ← pick source [("request_id","request_id"),("canonical_decision_id","canonical_decision_id"),
    ("canonical_decision_hash","canonical_decision_hash"),("canonical_decision_ts","canonical_decision_ts")]
  let candidateId ← pick candidate [("candidate_id","candidate_id")]
  let candidateHash ← pick handoff [("candidate_hash","candidate_hash")]
  let candidateFields ← pick candidate [("actor_identity","actor_identity"),("target_system","target_system"),
    ("target_resource","target_resource")]
  let actionFields ← pick action [("action_contract_id","contract_id"),("action_contract_version","version")]
  let trustFields ← pick trust [("trustlog_artifact_ref","artifact_ref"),("trustlog_chain_hash","chain_hash")]
  let replayArtifact ← pick replay [("replay_artifact_ref","artifact_ref"),("replay_artifact_hash","artifact_hash")]
  let authorityFields ← pick authority [("authority_evidence_ref","evidence_ref"),("authority_evidence_hash","evidence_hash")]
  let approvalFields ← pick approval [("human_approval_receipt_ref","receipt_ref"),("human_approval_receipt_hash","receipt_hash")]
  let policyFields ← pick policy [("policy_snapshot_id","snapshot_id"),("policy_version","version"),
    ("policy_semantic_digest","semantic_digest")]
  let stateFields ← pick state [("expected_state_fingerprint","fingerprint"),("expected_state_source_ref","source_ref")]
  let replaySummary ← getAll replay replayFields
  .ok ⟨sourceIdentity,candidateId ++ candidateHash ++ candidateFields ++ actionFields,
    trustFields ++ replayArtifact ++ authorityFields ++ approvalFields ++ policyFields ++ stateFields,replaySummary⟩

def identityCollapsed (replay : Dict) : Bool :=
  replay.get "original_request_id" != .none && (pyEq (replay.get "original_request_id") (replay.get "replay_request_id") ||
    pyEq (replay.get "original_decision_id") (replay.get "replay_decision_id"))

section Packets
variable (sha256 : String → String)

def invalid : String := "GPE_PACKET_INVALID"

def checkDigest (domain field hashField code : String) (packet : Dict) : Packet Unit := do
  let digest ← orRefuse "GPE_JSON_VALUE_INVALID" (domainDigest sha256 domain (packet.get field))
  refuseWhen (packet.get hashField != .str digest) code

-- An aware datetime, read from its text.
def awareMoment (value : Value) : Option Moment := (readMoment value).filter fun moment => aware moment

def rerunErrors : List ExcKind := [.attributeError,.keyError,.typeError,.valueError]

def checkEligibility (candidate : Dict) : Packet Unit := do
  checkDigest sha256 sourceHandoffDomain "source_handoff" "source_handoff_hash" "GPE_SOURCE_HANDOFF_HASH_MISMATCH" candidate
  checkDigest sha256 trustedContextDomain "trusted_validation_context" "trusted_validation_context_hash"
    "GPE_TRUSTED_CONTEXT_HASH_MISMATCH" candidate
  checkDigest sha256 validationResultDomain "validation_result" "validation_result_hash" "GPE_VALIDATION_RESULT_MISMATCH" candidate
  let context ← orRefuse "GPE_CONTEXT_RECONSTRUCTION_FAILED" (contextFromJson (candidate.get "trusted_validation_context"))
  let shown ← contextJson context
  refuseWhen (!pyEq shown (candidate.get "trusted_validation_context")) "GPE_TRUSTED_CONTEXT_ROUNDTRIP_MISMATCH"
  let evaluated ← orRefuse "GPE_TIMESTAMP_INVALID" (awareMoment (candidate.get "evaluated_at"))
  let issued ← orRefuse "GPE_TIMESTAMP_INVALID" (awareMoment (candidate.get "issued_at"))
  refuseWhen (decide (instant issued < instant evaluated)) "GPE_ISSUED_BEFORE_EVALUATED"
  let result ← refusing rerunErrors "GPE_VALIDATION_RERUN_FAILED"
    (escaping (validateCanonicalDecisionHandoff sha256 (candidate.get "source_handoff") context evaluated))
  refuseWhen (!result.ready) "GPE_HANDOFF_NOT_READY"
  let report ← orRefuse "GPE_JSON_VALUE_INVALID" (jsonValue (.dict result.toDict))
  refuseWhen (!pyEq report (candidate.get "validation_result")) "GPE_VALIDATION_RESULT_MISMATCH"
  let found ← escaping (identities (candidate.get "source_handoff"))
  refuseWhen (!pyEqItems found.values [candidate.get "source_decision_identity",candidate.get "candidate_identity",
    candidate.get "evidence_lineage",candidate.get "replay_summary"]) "GPE_PACKET_SUMMARY_MISMATCH"
  refuseWhen (identityCollapsed ((candidate.get "replay_summary").asDict?.getD [])) "GPE_REPLAY_IDENTITY_COLLAPSED"
  refuseWhen (candidate.get "scope_limitations" != texts scopeLimitations) "GPE_SCOPE_LIMITATIONS_MISSING"
  eligibilitySeal.check sha256 "GPE_JSON_VALUE_INVALID" candidate

def verifyGuardedPromotionEligibilityPacket (packet : Value) : Packet Dict := do
  let candidate ← readPacket invalid eligibilitySchema packet
  checkEligibility sha256 candidate
  .ok candidate

def eligibilityFields (issuedAt evaluatedAt : Moment) (source context report : Value) (sourceHash contextHash reportHash : String)
    (result : ValidationResult) (found : Identities) : Dict :=
  [(.str "format_version",.str formatVersion),(.str "validation_mechanism",.str validationMechanism),
   (.str "handoff_validator_version",.str validationVersion),(.str "issued_at",.str (isoformat issuedAt)),
   (.str "evaluated_at",.str (isoformat evaluatedAt)),(.str "validation_status",.str result.status.value),
   (.str "ready_for_guarded_promotion",.bool true),(.str "fail_closed",.bool false),(.str "source_handoff",source),
   (.str "source_handoff_hash",.str sourceHash),(.str "trusted_validation_context",context),
   (.str "trusted_validation_context_hash",.str contextHash),(.str "validation_result",report),(.str "validation_result_hash",.str reportHash),
   (.str "verified_provenance_paths",.tuple (result.verifiedProvenancePaths.map .str)),
   (.str "source_decision_identity",.dict found.source),(.str "candidate_identity",.dict found.candidate),
   (.str "evidence_lineage",.dict found.evidence),(.str "replay_summary",.dict found.replay),
   (.str "scope_limitations",.tuple (scopeLimitations.map .str))]

def buildGuardedPromotionEligibilityPacket (handoff : Value) (trustedContext : ValidationContext) (evaluatedAt issuedAt : Moment) :
    Packet Dict := do
  refuseWhen (!aware evaluatedAt) "GPE_EVALUATED_AT_INVALID"
  refuseWhen (!aware issuedAt) "GPE_ISSUED_AT_INVALID"
  refuseWhen (decide (instant issuedAt < instant evaluatedAt)) "GPE_ISSUED_BEFORE_EVALUATED"
  let source ← orRefuse "GPE_JSON_VALUE_INVALID" (jsonValue handoff)
  let context ← contextJson trustedContext
  let result ← escaping (validateCanonicalDecisionHandoff sha256 source trustedContext evaluatedAt)
  refuseWhen (!(result.ready && result.reasonCodes.isEmpty)) "GPE_HANDOFF_NOT_READY"
  let report ← orRefuse "GPE_JSON_VALUE_INVALID" (jsonValue (.dict result.toDict))
  let found ← escaping (identities source)
  let sourceHash ← orRefuse "GPE_JSON_VALUE_INVALID" (domainDigest sha256 sourceHandoffDomain source)
  let contextHash ← orRefuse "GPE_JSON_VALUE_INVALID" (domainDigest sha256 trustedContextDomain context)
  let reportHash ← orRefuse "GPE_JSON_VALUE_INVALID" (domainDigest sha256 validationResultDomain report)
  let fields := eligibilityFields issuedAt evaluatedAt source context report sourceHash contextHash reportHash result found
  let digest ← orRefuse "GPE_JSON_VALUE_INVALID" (eligibilitySeal.packetHash sha256 fields)
  verifyGuardedPromotionEligibilityPacket sha256 (.dict (eligibilitySeal.sealed fields digest))

end Packets

def optionalText : Value → Bool
  | .none | .str _ => true
  | _ => false

-- The context as its classes declare it, and its datetimes within the range of their type.
def typedAssertion (assertion : TrustedValueAssertion) : Bool :=
  isText assertion.fieldPath && isText assertion.valueDigest && optionalText assertion.sourceArtifactRef && optionalText assertion.sourceHash &&
    isText assertion.verificationMechanism && assertion.claims.all isText

def typedCandidateBinding (binding : CandidateHashBindingAssertion) : Bool :=
  isText binding.candidateValueDigest && isText binding.assertedCandidateHash && isText binding.candidateHashProfile &&
    optionalText binding.sourceArtifactRef && optionalText binding.sourceHash && isText binding.verificationMechanism && isText binding.claim

def typedAuthorityBinding (binding : AuthorityEvidenceRequirementBindingAssertion) : Bool :=
  isText binding.authorityRequirementValueDigest && isText binding.authorityEvidenceValueDigest && optionalText binding.sourceArtifactRef &&
    optionalText binding.sourceHash && isText binding.verificationMechanism && isText binding.claim

def contextMoments (context : ValidationContext) : List Moment :=
  context.valueAssertions.map (·.verifiedAt) ++ (context.candidateHashBinding.map (·.verifiedAt)).toList ++
    (context.authorityRequirementBinding.map (·.verifiedAt)).toList

structure Typed (context : ValidationContext) : Prop where
  assertions : context.valueAssertions.all typedAssertion = true
  candidate : context.candidateHashBinding.all typedCandidateBinding = true
  authority : context.authorityRequirementBinding.all typedAuthorityBinding = true
  moments : ∀ moment ∈ contextMoments context, Representable moment

variable {value : Value} {context : ValidationContext} {members : Dict} {name : String} {handoff : Value} {sha256 : String → String}

theorem isText_str (text : isText value = true) : ∃ s, value = .str s := by
  cases value with
  | str s => exact ⟨s,rfl⟩
  | _ => cases text

theorem isText_json (text : isText value = true) : isJson value = true := by
  obtain ⟨s,rfl⟩ := isText_str text
  rfl

theorem optionalText_json (text : optionalText value = true) : isJson value = true := by
  cases value with
  | none | str => rfl
  | _ => cases text

theorem optionalText_untupled (text : optionalText value = true) : jsonValue value = some value :=
  jsonValue_self value (optionalText_json text)

theorem isText_untupled (text : isText value = true) : jsonValue value = some value :=
  jsonValue_self value (isText_json text)

theorem tuple_listed (text : items.all isText = true) : jsonValue (.tuple items) = some (.list items) := by
  have each : ∀ item ∈ items, jsonValue item = some item := fun item listed => isText_untupled (List.all_eq_true.mp text item listed)
  simp [jsonValue,jsonItems_self each]

theorem readMoment_isoformat (zoned : aware moment = true) (range : Representable moment) :
    readMoment (.str (isoformat moment)) = some moment := by
  obtain ⟨wall,zone⟩ := moment
  cases zone with
  | none => cases zoned
  | some offset => exact fromisoformat_isoformat range

theorem awareMoment_isoformat (zoned : aware moment = true) (range : Representable moment) :
    awareMoment (.str (isoformat moment)) = some moment := by
  rw [awareMoment,readMoment_isoformat zoned range,Option.filter_some,if_pos zoned]

def assertionDict (assertion : TrustedValueAssertion) : Dict :=
  [(.str "field_path",assertion.fieldPath),(.str "value_digest",assertion.valueDigest),
   (.str "source_artifact_ref",assertion.sourceArtifactRef),(.str "source_hash",assertion.sourceHash),
   (.str "verification_mechanism",assertion.verificationMechanism),(.str "verified_at",.str (isoformat assertion.verifiedAt)),
   (.str "claims",.list assertion.claims)]

theorem partsJson_assertion (typed : typedAssertion assertion = true)
    (zoned : aware assertion.verifiedAt = true) : partsJson (assertionParts assertion) = .ok (assertionDict assertion) := by
  simp only [typedAssertion,Bool.and_eq_true] at typed
  obtain ⟨⟨⟨⟨⟨path,digest⟩,ref⟩,hash⟩,mechanism⟩,claims⟩ := typed
  simp [assertionParts,partsJson,partJson,isText_untupled path,isText_untupled digest,optionalText_untupled ref,optionalText_untupled hash,
    isText_untupled mechanism,tuple_listed claims,zoned,orRefuse,bind,Except.bind,assertionDict]

theorem assertion_reread (zoned : aware assertion.verifiedAt = true)
    (range : Representable assertion.verifiedAt) : assertionFromJson (.dict (assertionDict assertion)) = some assertion := by
  simp [assertionFromJson,keyed,keysAre,assertionDict,lookup,Dict.get,readMoment_isoformat zoned range,PolicyBundle.listFrom,Except.toOption]

def candidateBindingDict (binding : CandidateHashBindingAssertion) : Dict :=
  [(.str "candidate_value_digest",binding.candidateValueDigest),(.str "asserted_candidate_hash",binding.assertedCandidateHash),
   (.str "candidate_hash_profile",binding.candidateHashProfile),(.str "source_artifact_ref",binding.sourceArtifactRef),
   (.str "source_hash",binding.sourceHash),(.str "verification_mechanism",binding.verificationMechanism),
   (.str "verified_at",.str (isoformat binding.verifiedAt)),(.str "claim",binding.claim)]

theorem partsJson_candidate (typed : typedCandidateBinding binding = true)
    (zoned : aware binding.verifiedAt = true) : partsJson (candidateBindingParts binding) = .ok (candidateBindingDict binding) := by
  simp only [typedCandidateBinding,Bool.and_eq_true] at typed
  obtain ⟨⟨⟨⟨⟨⟨digest,candidate⟩,profile⟩,ref⟩,hash⟩,mechanism⟩,claim⟩ := typed
  simp [candidateBindingParts,partsJson,partJson,isText_untupled digest,isText_untupled candidate,isText_untupled profile,
    optionalText_untupled ref,optionalText_untupled hash,isText_untupled mechanism,isText_untupled claim,zoned,orRefuse,bind,Except.bind,
    candidateBindingDict]

theorem candidate_reread (zoned : aware binding.verifiedAt = true)
    (range : Representable binding.verifiedAt) : candidateBindingFromJson (.dict (candidateBindingDict binding)) = some binding := by
  simp [candidateBindingFromJson,keyed,keysAre,candidateBindingDict,lookup,Dict.get,readMoment_isoformat zoned range]

def authorityBindingDict (binding : AuthorityEvidenceRequirementBindingAssertion) : Dict :=
  [(.str "authority_requirement_value_digest",binding.authorityRequirementValueDigest),
   (.str "authority_evidence_value_digest",binding.authorityEvidenceValueDigest),(.str "source_artifact_ref",binding.sourceArtifactRef),
   (.str "source_hash",binding.sourceHash),(.str "verification_mechanism",binding.verificationMechanism),
   (.str "verified_at",.str (isoformat binding.verifiedAt)),(.str "claim",binding.claim)]

theorem partsJson_authority (typed : typedAuthorityBinding binding = true)
    (zoned : aware binding.verifiedAt = true) : partsJson (authorityBindingParts binding) = .ok (authorityBindingDict binding) := by
  simp only [typedAuthorityBinding,Bool.and_eq_true] at typed
  obtain ⟨⟨⟨⟨⟨requirement,evidence⟩,ref⟩,hash⟩,mechanism⟩,claim⟩ := typed
  simp [authorityBindingParts,partsJson,partJson,isText_untupled requirement,isText_untupled evidence,optionalText_untupled ref,
    optionalText_untupled hash,isText_untupled mechanism,isText_untupled claim,zoned,orRefuse,bind,Except.bind,authorityBindingDict]

theorem authority_reread (zoned : aware binding.verifiedAt = true)
    (range : Representable binding.verifiedAt) : authorityBindingFromJson (.dict (authorityBindingDict binding)) = some binding := by
  simp [authorityBindingFromJson,keyed,keysAre,authorityBindingDict,lookup,Dict.get,readMoment_isoformat zoned range]

def optionDict (members : Option Dict) : Value := (members.map Value.dict).getD .none

def contextDict (context : ValidationContext) : Dict :=
  [(.str "value_assertions",.list (context.valueAssertions.map fun assertion => .dict (assertionDict assertion))),
   (.str "candidate_hash_binding",optionDict (context.candidateHashBinding.map candidateBindingDict)),
   (.str "authority_requirement_binding",optionDict (context.authorityRequirementBinding.map authorityBindingDict))]

theorem assertionsJson_typed (typed : assertions.all typedAssertion = true)
    (zoned : ∀ assertion ∈ assertions, aware assertion.verifiedAt = true) :
    assertionsJson assertions = .ok (assertions.map fun assertion => .dict (assertionDict assertion)) := by
  induction assertions with
  | nil => rfl
  | cons head rest ih =>
    rw [List.all_cons,Bool.and_eq_true] at typed
    rw [List.forall_mem_cons] at zoned
    rw [assertionsJson,partsJson_assertion typed.1 zoned.1,ih typed.2 zoned.2]
    rfl

theorem assertions_reread {assertions : List TrustedValueAssertion}
    (moments : ∀ assertion ∈ assertions, aware assertion.verifiedAt = true ∧ Representable assertion.verifiedAt) :
    (assertions.map fun assertion => Value.dict (assertionDict assertion)).mapM assertionFromJson = some assertions := by
  induction assertions with
  | nil => rfl
  | cons head rest ih =>
    rw [List.forall_mem_cons] at moments
    simp [assertion_reread moments.1.1 moments.1.2,ih moments.2]

theorem contextJson_typed (typed : Typed context) (zoned : ∀ moment ∈ contextMoments context, aware moment = true) :
    contextJson context = .ok (.dict (contextDict context)) := by
  obtain ⟨assertions,candidate,authority⟩ := context
  simp only [contextMoments,List.mem_append,List.mem_map,Option.mem_toList] at zoned
  have first := assertionsJson_typed typed.assertions fun assertion listed => zoned _ (.inl (.inl ⟨assertion,listed,rfl⟩))
  have second : optionJson (candidate.map candidateBindingParts) = .ok (optionDict (candidate.map candidateBindingDict)) := by
    cases candidate with
    | none => rfl
    | some binding => simp [optionJson,optionDict,partsJson_candidate typed.candidate (zoned _ (.inl (.inr rfl))),Except.map]
  have third : optionJson (authority.map authorityBindingParts) = .ok (optionDict (authority.map authorityBindingDict)) := by
    cases authority with
    | none => rfl
    | some binding => simp [optionJson,optionDict,partsJson_authority typed.authority (zoned _ (.inr rfl)),Except.map]
  unfold contextJson
  rw [first,second,third]
  rfl

theorem context_reread (typed : Typed context) (zoned : ∀ moment ∈ contextMoments context, aware moment = true) :
    contextFromJson (.dict (contextDict context)) = some context := by
  have shown := contextJson_typed typed zoned
  obtain ⟨assertions,candidate,authority⟩ := context
  have moments (moment : Moment) (listed : moment ∈ contextMoments ⟨assertions,candidate,authority⟩) :
      aware moment = true ∧ Representable moment := ⟨zoned moment listed,typed.moments moment listed⟩
  simp only [contextMoments,List.mem_append,List.mem_map,Option.mem_toList] at moments
  have first := assertions_reread fun assertion listed => moments assertion.verifiedAt (.inl (.inl ⟨assertion,listed,rfl⟩))
  have second : nullable candidateBindingFromJson (optionDict (candidate.map candidateBindingDict)) = some candidate := by
    cases candidate with
    | none => rfl
    | some binding =>
      obtain ⟨aware_,range⟩ := moments binding.verifiedAt (.inl (.inr rfl))
      simp [optionDict,nullable,candidate_reread aware_ range]
  have third : nullable authorityBindingFromJson (optionDict (authority.map authorityBindingDict)) = some authority := by
    cases authority with
    | none => rfl
    | some binding =>
      obtain ⟨aware_,range⟩ := moments binding.verifiedAt (.inr rfl)
      simp [optionDict,nullable,authority_reread aware_ range]
  have known : keyed ["value_assertions","candidate_hash_binding","authority_requirement_binding"]
      (.dict (contextDict ⟨assertions,candidate,authority⟩)) = some (contextDict ⟨assertions,candidate,authority⟩) := by
    simp [keyed,keysAre,contextDict,lookup]
  unfold contextFromJson
  simp only [known,Option.bind_eq_bind,Option.bind_some]
  simp only [contextDict,Dict.get,lookup] at shown ⊢
  simp [listItems,first,second,third,shown,Except.toOption]

def fieldsOf (members : Dict) (fields : List (String × String)) : Dict := fields.map fun field => (.str field.1,members.get field.2)

def Holds (members : Dict) (fields : List (String × String)) : Prop := ∀ field ∈ fields, (lookup (.str field.2) members).isSome = true

theorem subscript_ok : PolicyBundle.subscript (.dict members) name = .ok value ↔ lookup (.str name) members = some value := by
  unfold PolicyBundle.subscript
  dsimp only
  cases held : lookup (.str name) members <;> simp

theorem subscript_dict (ok : PolicyBundle.subscript value name = .ok found) : ∃ members : Dict, value = .dict members := by
  cases value with
  | dict members => exact ⟨members,rfl⟩
  | _ => cases ok

theorem pick_ok : pick (.dict members) fields = .ok shown ↔ Holds members fields ∧ shown = fieldsOf members fields := by
  induction fields generalizing shown with
  | nil =>
    constructor
    · intro ok
      exact ⟨by simp [Holds],(Except.ok.inj ok).symm⟩
    · rintro ⟨_,rfl⟩
      rfl
  | cons field rest ih =>
    have step : pick (.dict members) (field :: rest) = (do
        let found ← PolicyBundle.subscript (.dict members) field.2
        let later ← pick (.dict members) rest
        .ok ((.str field.1,found) :: later)) := by
      simp only [pick,List.mapM_cons,bind_assoc]
      rfl
    rw [step,bind_ok]
    simp only [subscript_ok,bind_ok,ih,Except.ok.injEq]
    constructor
    · rintro ⟨found,held,_,⟨later,rfl⟩,rfl⟩
      refine ⟨List.forall_mem_cons.mpr ⟨by simp [held],later⟩,?_⟩
      simp [fieldsOf,Dict.get,held]
    · rintro ⟨held,rfl⟩
      obtain ⟨first,later⟩ := List.forall_mem_cons.mp held
      obtain ⟨found,known⟩ := Option.isSome_iff_exists.mp first
      exact ⟨found,known,_,⟨later,rfl⟩,by simp [fieldsOf,Dict.get,known]⟩

theorem pick_dict (ok : pick value (field :: rest) = .ok shown) : ∃ members : Dict, value = .dict members := by
  have step : pick value (field :: rest) = (do
      let found ← PolicyBundle.subscript value field.2
      let later ← pick value rest
      .ok ((.str field.1,found) :: later)) := by
    simp only [pick,List.mapM_cons,bind_assoc]
    rfl
  rw [step] at ok
  obtain ⟨found,read,_⟩ := bind_ok.mp ok
  exact subscript_dict read

def sourceKeys : List (String × String) :=
  [("request_id","request_id"),("canonical_decision_id","canonical_decision_id"),
    ("canonical_decision_hash","canonical_decision_hash"),("canonical_decision_ts","canonical_decision_ts")]

def actionSection (members : Dict) : Dict := sectionOf (sectionOf members "candidate") "canonical_action"

def identitiesOf (members : Dict) : Identities where
  source := fieldsOf (sectionOf members "source_decision") sourceKeys
  candidate := fieldsOf (sectionOf members "candidate") [("candidate_id","candidate_id")] ++
    fieldsOf members [("candidate_hash","candidate_hash")] ++
    fieldsOf (sectionOf members "candidate") [("actor_identity","actor_identity"),("target_system","target_system"),
      ("target_resource","target_resource")] ++
    fieldsOf (actionSection members) [("action_contract_id","contract_id"),("action_contract_version","version")]
  evidence := fieldsOf (sectionOf members "trustlog_lineage") [("trustlog_artifact_ref","artifact_ref"),("trustlog_chain_hash","chain_hash")] ++
    fieldsOf (sectionOf members "replay_lineage") [("replay_artifact_ref","artifact_ref"),("replay_artifact_hash","artifact_hash")] ++
    fieldsOf (sectionOf members "authority_evidence") [("authority_evidence_ref","evidence_ref"),("authority_evidence_hash","evidence_hash")] ++
    fieldsOf (sectionOf members "human_approval_evidence") [("human_approval_receipt_ref","receipt_ref"),
      ("human_approval_receipt_hash","receipt_hash")] ++
    fieldsOf (sectionOf members "policy_lineage") [("policy_snapshot_id","snapshot_id"),("policy_version","version"),
      ("policy_semantic_digest","semantic_digest")] ++
    fieldsOf (sectionOf members "expected_state") [("expected_state_fingerprint","fingerprint"),("expected_state_source_ref","source_ref")]
  replay := replayFields.map fun name => (.str name,(sectionOf members "replay_lineage").get name)

theorem section_held {inner : Dict} (held : lookup (.str name) members = some (.dict inner)) : sectionOf members name = inner := by
  simp [sectionOf,Dict.get,held,Value.asDict?]

theorem identities_ok (ok : identities handoff = .ok found) : ∃ members : Dict, handoff = .dict members ∧ found = identitiesOf members ∧
      (optionalSection members "authority_evidence").isSome = true ∧ (optionalSection members "human_approval_evidence").isSome = true := by
  unfold identities at ok
  obtain ⟨source,gotSource,ok⟩ := bind_ok.mp ok
  obtain ⟨members,rfl⟩ := subscript_dict gotSource
  obtain ⟨candidate,gotCandidate,ok⟩ := bind_ok.mp ok
  obtain ⟨action,gotAction,ok⟩ := bind_ok.mp ok
  obtain ⟨trust,gotTrust,ok⟩ := bind_ok.mp ok
  obtain ⟨replay,gotReplay,ok⟩ := bind_ok.mp ok
  obtain ⟨authority,gotAuthority,ok⟩ := bind_ok.mp ok
  obtain ⟨approval,gotApproval,ok⟩ := bind_ok.mp ok
  obtain ⟨policy,gotPolicy,ok⟩ := bind_ok.mp ok
  obtain ⟨state,gotState,ok⟩ := bind_ok.mp ok
  obtain ⟨_,one,ok⟩ := bind_ok.mp ok
  obtain ⟨_,two,ok⟩ := bind_ok.mp ok
  obtain ⟨_,three,ok⟩ := bind_ok.mp ok
  obtain ⟨_,four,ok⟩ := bind_ok.mp ok
  obtain ⟨_,five,ok⟩ := bind_ok.mp ok
  obtain ⟨_,six,ok⟩ := bind_ok.mp ok
  obtain ⟨_,seven,ok⟩ := bind_ok.mp ok
  obtain ⟨_,eight,ok⟩ := bind_ok.mp ok
  obtain ⟨_,nine,ok⟩ := bind_ok.mp ok
  obtain ⟨_,ten,ok⟩ := bind_ok.mp ok
  obtain ⟨_,eleven,ok⟩ := bind_ok.mp ok
  obtain ⟨_,twelve,ok⟩ := bind_ok.mp ok
  obtain rfl := Except.ok.inj ok
  obtain ⟨sourceMembers,rfl⟩ := pick_dict one
  obtain ⟨candidateMembers,rfl⟩ := pick_dict two
  obtain ⟨actionMembers,rfl⟩ := pick_dict five
  obtain ⟨trustMembers,rfl⟩ := pick_dict six
  obtain ⟨replayMembers,rfl⟩ := pick_dict seven
  obtain ⟨authorityMembers,rfl⟩ := pick_dict eight
  obtain ⟨approvalMembers,rfl⟩ := pick_dict nine
  obtain ⟨policyMembers,rfl⟩ := pick_dict ten
  obtain ⟨stateMembers,rfl⟩ := pick_dict eleven
  simp only [subscript_ok] at gotSource gotCandidate gotAction gotTrust gotReplay gotAuthority gotApproval gotPolicy gotState
  obtain ⟨_,rfl⟩ := pick_ok.mp one
  obtain ⟨_,rfl⟩ := pick_ok.mp two
  obtain ⟨_,rfl⟩ := pick_ok.mp three
  obtain ⟨_,rfl⟩ := pick_ok.mp four
  obtain ⟨_,rfl⟩ := pick_ok.mp five
  obtain ⟨_,rfl⟩ := pick_ok.mp six
  obtain ⟨_,rfl⟩ := pick_ok.mp seven
  obtain ⟨_,rfl⟩ := pick_ok.mp eight
  obtain ⟨_,rfl⟩ := pick_ok.mp nine
  obtain ⟨_,rfl⟩ := pick_ok.mp ten
  obtain ⟨_,rfl⟩ := pick_ok.mp eleven
  obtain rfl := Except.ok.inj twelve
  refine ⟨members,rfl,?_,by simp [optionalSection,Dict.get,gotAuthority,Value.asDict?],by simp [optionalSection,Dict.get,gotApproval,Value.asDict?]⟩
  unfold identitiesOf actionSection
  rw [section_held gotSource,section_held gotCandidate,section_held gotAction,section_held gotTrust,section_held gotReplay,
    section_held gotAuthority,section_held gotApproval,section_held gotPolicy,section_held gotState]
  rfl

theorem nonempty_held (filled : nonempty (members.get name) = true) : (lookup (.str name) members).isSome = true := by
  unfold Dict.get at filled
  cases held : lookup (.str name) members with
  | none => simp [held,nonempty] at filled
  | some value => rfl

theorem mapping_held (mapping : isMapping (members.get name) = true) :
    lookup (.str name) members = some (.dict (sectionOf members name)) := by
  unfold Dict.get at mapping
  cases held : lookup (.str name) members with
  | none => simp [held,isMapping] at mapping
  | some value =>
    rw [held,Option.getD_some] at mapping
    obtain ⟨inner,rfl⟩ := isMapping_dict mapping
    rw [section_held held]

theorem optional_held {inner : Dict} (given : optionalSection members name = some inner) :
    lookup (.str name) members = some (.dict (sectionOf members name)) ∧ sectionOf members name = inner := by
  have mapping : isMapping (members.get name) = true := by
    unfold optionalSection at given
    cases found : members.get name <;> simp_all [Value.asDict?,isMapping]
  exact ⟨mapping_held mapping,by simp [sectionOf,show (members.get name).asDict? = some inner from given]⟩

def EvidenceGiven (members : Dict) : Prop :=
  (optionalSection members "authority_evidence").isSome = true ∧ (optionalSection members "human_approval_evidence").isSome = true

theorem identities_given (ready : ReadyHandoff sha256 context evaluatedAt handoff members) (given : EvidenceGiven members) :
    identities (.dict members) = .ok (identitiesOf members) := by
  obtain ⟨authority,_,authorityGiven,_,_,_,_,_,_,_,authorityNamed⟩ := (ready.authority (.inr given.1)).evidence
  obtain ⟨approval,_,approvalGiven,_,_,_,_,_,_,approvalNamed⟩ := (ready.approval (.inr given.2)).evidence
  obtain ⟨policy,policyGiven,policyHolds⟩ := ready.policy
  obtain ⟨state,stateGiven,stateHolds⟩ := ready.state
  obtain ⟨action,acted,contract,version,_⟩ := ready.complete.action
  have sections := ready.structured.sections
  have complete := ready.complete
  have fields := complete.candidate
  simp only [candidateFieldsPresent,Bool.and_eq_true] at fields
  obtain ⟨authorityHeld,rfl⟩ := optional_held authorityGiven
  obtain ⟨approvalHeld,rfl⟩ := optional_held approvalGiven
  obtain ⟨policyHeld,rfl⟩ := optional_held policyGiven
  obtain ⟨stateHeld,rfl⟩ := optional_held stateGiven
  obtain ⟨actionHeld,actionSame⟩ := optional_held (show optionalSection (sectionOf members "candidate") "canonical_action" = some action from acted)
  subst actionSame
  have hold {inner : Dict} {wanted : List (String × String)} (filled : ∀ field ∈ wanted, nonempty (inner.get field.2) = true) :
      pick (.dict inner) wanted = .ok (fieldsOf inner wanted) :=
    pick_ok.mpr ⟨fun field listed => nonempty_held (filled field listed),rfl⟩
  unfold identities
  refine bind_ok.mpr ⟨_,subscript_ok.mpr (mapping_held (sections "source_decision" (by simp [requiredObjects]))),?_⟩
  refine bind_ok.mpr ⟨_,subscript_ok.mpr (mapping_held (sections "candidate" (by simp [requiredObjects]))),?_⟩
  refine bind_ok.mpr ⟨_,subscript_ok.mpr actionHeld,?_⟩
  refine bind_ok.mpr ⟨_,subscript_ok.mpr (mapping_held (sections "trustlog_lineage" (by simp [requiredObjects]))),?_⟩
  refine bind_ok.mpr ⟨_,subscript_ok.mpr (mapping_held (sections "replay_lineage" (by simp [requiredObjects]))),?_⟩
  refine bind_ok.mpr ⟨_,subscript_ok.mpr authorityHeld,bind_ok.mpr ⟨_,subscript_ok.mpr approvalHeld,?_⟩⟩
  refine bind_ok.mpr ⟨_,subscript_ok.mpr policyHeld,bind_ok.mpr ⟨_,subscript_ok.mpr stateHeld,?_⟩⟩
  refine bind_ok.mpr ⟨_,hold (by simp [ready.lineage.requested,complete.decisionId,complete.decisionHash,complete.decisionTs]),?_⟩
  refine bind_ok.mpr ⟨_,hold (by simp [complete.candidateId given.2]),?_⟩
  refine bind_ok.mpr ⟨_,hold (by simp [complete.candidateHash]),?_⟩
  refine bind_ok.mpr ⟨_,hold (by simp [fields.1.1,fields.1.2,fields.2]),bind_ok.mpr ⟨_,hold (by simp [contract,version]),?_⟩⟩
  refine bind_ok.mpr ⟨_,hold (by simp [complete.trustlog.1,complete.trustlog.2]),?_⟩
  refine bind_ok.mpr ⟨_,hold (by simp [complete.replay.1,complete.replay.2]),?_⟩
  refine bind_ok.mpr ⟨_,hold (by simpa using authorityNamed),bind_ok.mpr ⟨_,hold (by simpa using approvalNamed),?_⟩⟩
  refine bind_ok.mpr ⟨_,hold (by simpa using policyHolds.named),bind_ok.mpr ⟨_,hold (by simpa using stateHolds.named),?_⟩⟩
  rfl

theorem identities_json (json : isJson (.dict members) = true) : ∀ value ∈ (identitiesOf members).values, isJson value = true := by
  have inner (name : String) := sectionOf_json json name
  have action := sectionOf_json (inner "candidate") "canonical_action"
  have source := isJson_get (inner "source_decision")
  have candidate := isJson_get (inner "candidate")
  have acted := isJson_get action
  have trust := isJson_get (inner "trustlog_lineage")
  have replay := isJson_get (inner "replay_lineage")
  have authority := isJson_get (inner "authority_evidence")
  have approval := isJson_get (inner "human_approval_evidence")
  have policy := isJson_get (inner "policy_lineage")
  have state := isJson_get (inner "expected_state")
  simp [Identities.values,identitiesOf,actionSection,fieldsOf,sourceKeys,replayFields,isJson,isJsonMembers,Key.isStr,isJson_get json,source,
    candidate,acted,trust,replay,authority,approval,policy,state]

theorem report_json (json : isJson handoff = true) (status : Status) (reasons : List ReasonCode) (valid : Bool) (verified : List String) :
    isJson (.dict (resultOf handoff status reasons valid verified).toDict) = true := by
  have declared : ∀ reason ∈ (resultOf handoff status reasons valid verified).declaredReasonCodes, isJson reason = true := by
    intro reason listed
    simp only [resultOf] at listed
    split at listed
    · rename_i items found
      cases handoff with
      | dict members =>
        have inside : lookup (.str "refusal_reason_codes") members = some (.list items) ∨ items = [] := by
          simp only [Value.asDict?,Option.getD_some,Dict.getD] at found
          cases held : lookup (.str "refusal_reason_codes") members <;> simp_all
        rcases inside with held | rfl
        · exact (isJson_list items).mp (isJson_lookup json held) reason listed
        · cases listed
      | _ =>
        simp only [Value.asDict?,Option.getD_none,Dict.getD,lookup,Value.list.injEq] at found
        subst found
        cases listed
    · cases listed
  have texts (items : List String) : isJsonItems (items.map Value.str) = true := by
    refine (isJsonItems_iff _).mpr fun item listed => ?_
    obtain ⟨s,_,rfl⟩ := List.mem_map.mp listed
    rfl
  have codes : isJsonItems ((resultOf handoff status reasons valid verified).reasonCodes.map fun reason => .str reason.value) = true := by
    refine (isJsonItems_iff _).mpr fun item listed => ?_
    obtain ⟨reason,_,rfl⟩ := List.mem_map.mp listed
    rfl
  have status_ : isJson (strValue (resultOf handoff status reasons valid verified).declaredStatus) = true := by
    cases (resultOf handoff status reasons valid verified).declaredStatus <;> rfl
  simp [ValidationResult.toDict,isJson,isJsonMembers,Key.isStr,codes,texts,status_,(isJsonItems_iff _).mpr declared]

section Completeness
variable {sha256 : String → String}

theorem schema_distinct : (eligibilitySchema.map Prod.fst).Nodup := by decide

theorem verified_self (verified : verifyGuardedPromotionEligibilityPacket sha256 packet = .ok shown) :
    verifyGuardedPromotionEligibilityPacket sha256 (.dict shown) = .ok shown ∧ isJson (.dict shown) = true := by
  obtain ⟨candidate,read,checked⟩ := bind_ok.mp verified
  obtain ⟨passed,same⟩ := except_then_ok.mp checked
  obtain rfl := Except.ok.inj same
  exact ⟨bind_ok.mpr ⟨_,readPacket_self schema_distinct read,except_then_ok.mpr ⟨passed,rfl⟩⟩,(readPacket_ok schema_distinct read).1⟩

def fieldNames : List String :=
  ["format_version","validation_mechanism","handoff_validator_version","issued_at","evaluated_at","validation_status",
   "ready_for_guarded_promotion","fail_closed","source_handoff","source_handoff_hash","trusted_validation_context",
   "trusted_validation_context_hash","validation_result","validation_result_hash","verified_provenance_paths","source_decision_identity",
   "candidate_identity","evidence_lineage","replay_summary","scope_limitations"]

theorem names_distinct : (eligibilitySeal.idField :: eligibilitySeal.hashField :: fieldNames).Nodup := by decide

structure Contents where
  issuedAt : Moment
  evaluatedAt : Moment
  source : Dict
  context : Dict
  report : Dict
  sourceHash : String
  contextHash : String
  reportHash : String
  result : ValidationResult
  found : Identities

def Contents.fields (made : Contents) : Dict :=
  eligibilityFields made.issuedAt made.evaluatedAt (.dict made.source) (.dict made.context) (.dict made.report) made.sourceHash
    made.contextHash made.reportHash made.result made.found

structure Contents.Plain (made : Contents) : Prop where
  source : isJson (.dict made.source) = true
  context : isJson (.dict made.context) = true
  report : isJson (.dict made.report) = true
  found : ∀ value ∈ made.found.values, isJson value = true
  status : made.result.status = .readyForGuardedPromotion

variable {made : Contents} {digest : String} {context : ValidationContext} {verified : List String} {handoff source : Value}
variable {evaluatedAt issuedAt : Moment}

theorem contents_sealable (plain : made.Plain) : eligibilitySeal.Sealable made.fields := by
  refine sealable_names (show made.fields.map Prod.fst = fieldNames.map Key.str from rfl) names_distinct ?_
  have found := plain.found
  simp only [Identities.values,List.forall_mem_cons] at found
  simp [Contents.fields,eligibilityFields,untupled,plain.source,plain.context,plain.report,found]

theorem contents_shows (plain : made.Plain) (hexed : hexDigest digest.toList = true)
    (hashes : hexDigest made.sourceHash.toList = true ∧ hexDigest made.contextHash.toList = true ∧ hexDigest made.reportHash.toList = true) :
    Shows eligibilitySchema (eligibilitySeal.placed (untupledFields made.fields) digest) := by
  have whole {text : String} (digits : hexDigest text.toList = true) : hashed "" text = true := by simpa [hashed] using digits
  have headed : hashed "gpe:v1:sha256:" ("gpe:v1:sha256:" ++ digest) = true := hashed_digest hexed
  simp [Shows,eligibilitySchema,Seal.placed,untupledFields,Contents.fields,eligibilityFields,untupled,FieldType.read,FieldType.accepts,
    eligibilitySeal,isText,plain.status,Status.value,whole hexed,headed,whole hashes.1,whole hashes.2.1,whole hashes.2.2]

def Contents.packet (made : Contents) (digest : String) : Dict := eligibilitySeal.placed (untupledFields made.fields) digest

theorem packet_get (made : Contents) (digest : String) :
    (made.packet digest).get "eligibility_id" = .str ("gpe:v1:sha256:" ++ digest) ∧ (made.packet digest).get "eligibility_hash" = .str digest ∧
      (made.packet digest).get "issued_at" = .str (isoformat made.issuedAt) ∧
      (made.packet digest).get "evaluated_at" = .str (isoformat made.evaluatedAt) ∧
      (made.packet digest).get "source_handoff" = .dict made.source ∧ (made.packet digest).get "source_handoff_hash" = .str made.sourceHash ∧
      (made.packet digest).get "trusted_validation_context" = .dict made.context ∧
      (made.packet digest).get "trusted_validation_context_hash" = .str made.contextHash ∧
      (made.packet digest).get "validation_result" = .dict made.report ∧
      (made.packet digest).get "validation_result_hash" = .str made.reportHash ∧
      (made.packet digest).get "source_decision_identity" = .dict made.found.source ∧
      (made.packet digest).get "candidate_identity" = .dict made.found.candidate ∧
      (made.packet digest).get "evidence_lineage" = .dict made.found.evidence ∧
      (made.packet digest).get "replay_summary" = .dict made.found.replay ∧
      (made.packet digest).get "scope_limitations" = texts scopeLimitations := by
  simp [Contents.packet,Seal.placed,eligibilitySeal,untupledFields,Contents.fields,eligibilityFields,untupled,Dict.get,lookup,texts]

structure Contents.Validated (sha256 : String → String) (made : Contents) (context : ValidationContext) (verified : List String) : Prop where
  typed : Typed context
  zoned : ∀ moment ∈ contextMoments context, aware moment = true
  evaluated : aware made.evaluatedAt = true ∧ Representable made.evaluatedAt
  issued : aware made.issuedAt = true ∧ Representable made.issuedAt
  order : instant made.evaluatedAt ≤ instant made.issuedAt
  source : isJson (.dict made.source) = true
  ran : runChecks sha256 (.dict made.source) context made.evaluatedAt = .ok verified
  result : made.result = resultOf (.dict made.source) .readyForGuardedPromotion [] true verified
  identified : identities (.dict made.source) = .ok made.found
  context : made.context = contextDict context
  report : made.report = made.result.toDict
  sourceHash : domainDigest sha256 sourceHandoffDomain (.dict made.source) = some made.sourceHash
  contextHash : domainDigest sha256 trustedContextDomain (.dict made.context) = some made.contextHash
  reportHash : domainDigest sha256 validationResultDomain (.dict made.report) = some made.reportHash

theorem contextDict_json (typed : Typed context) : isJson (.dict (contextDict context)) = true := by
  have assertions : isJson (.list (context.valueAssertions.map fun assertion => .dict (assertionDict assertion))) = true := by
    refine (isJson_list _).mpr fun item listed => ?_
    obtain ⟨assertion,there,rfl⟩ := List.mem_map.mp listed
    have fields := List.all_eq_true.mp typed.assertions assertion there
    simp only [typedAssertion,Bool.and_eq_true] at fields
    obtain ⟨⟨⟨⟨⟨path,digest⟩,ref⟩,hash⟩,mechanism⟩,claims⟩ := fields
    have listed := (isJson_list assertion.claims).mpr fun claim held => isText_json (List.all_eq_true.mp claims claim held)
    exact (isJson_dict _).mpr ⟨record_names (show (assertionDict assertion).map Prod.fst = ["field_path","value_digest","source_artifact_ref",
        "source_hash","verification_mechanism","verified_at","claims"].map Key.str from rfl) (by decide),
      by simp [assertionDict,isText_json path,isText_json digest,optionalText_json ref,optionalText_json hash,isText_json mechanism,listed]⟩
  have candidate : isJson (optionDict (context.candidateHashBinding.map candidateBindingDict)) = true := by
    cases given : context.candidateHashBinding with
    | none => rfl
    | some binding =>
      have fields := typed.candidate
      simp only [given,Option.all_some,typedCandidateBinding,Bool.and_eq_true] at fields
      obtain ⟨⟨⟨⟨⟨⟨digest,candidate⟩,profile⟩,ref⟩,hash⟩,mechanism⟩,claim⟩ := fields
      exact (isJson_dict _).mpr ⟨record_names (show (candidateBindingDict binding).map Prod.fst = ["candidate_value_digest",
          "asserted_candidate_hash","candidate_hash_profile","source_artifact_ref","source_hash","verification_mechanism","verified_at",
          "claim"].map Key.str from rfl) (by decide),
        by simp [candidateBindingDict,isText_json digest,isText_json candidate,isText_json profile,optionalText_json ref,
          optionalText_json hash,isText_json mechanism,isText_json claim]⟩
  have authority : isJson (optionDict (context.authorityRequirementBinding.map authorityBindingDict)) = true := by
    cases given : context.authorityRequirementBinding with
    | none => rfl
    | some binding =>
      have fields := typed.authority
      simp only [given,Option.all_some,typedAuthorityBinding,Bool.and_eq_true] at fields
      obtain ⟨⟨⟨⟨⟨requirement,evidence⟩,ref⟩,hash⟩,mechanism⟩,claim⟩ := fields
      exact (isJson_dict _).mpr ⟨record_names (show (authorityBindingDict binding).map Prod.fst = ["authority_requirement_value_digest",
          "authority_evidence_value_digest","source_artifact_ref","source_hash","verification_mechanism","verified_at","claim"].map Key.str
          from rfl) (by decide),
        by simp [authorityBindingDict,isText_json requirement,isText_json evidence,optionalText_json ref,optionalText_json hash,
          isText_json mechanism,isText_json claim]⟩
  exact (isJson_dict _).mpr ⟨record_names (show (contextDict context).map Prod.fst = ["value_assertions","candidate_hash_binding",
    "authority_requirement_binding"].map Key.str from rfl) (by decide),by simp [contextDict,assertions,candidate,authority]⟩

theorem validated_plain (valid : made.Validated sha256 context verified) : made.Plain where
  source := valid.source
  context := by
    rw [valid.context]
    exact contextDict_json valid.typed
  report := by
    rw [valid.report,valid.result]
    exact report_json valid.source _ _ _ _
  found := by
    obtain ⟨members,same,found,_⟩ := identities_ok valid.identified
    obtain rfl := Value.dict.inj same
    rw [found]
    exact identities_json valid.source
  status := by rw [valid.result]; rfl

theorem pyEqItems_refl (json : ∀ value ∈ values, isJson value = true) : pyEqItems values values = true :=
  (pyEqItems_iff _ _).mpr (List.forall₂_same.mpr fun value listed => pyEq_refl value (json value listed))

theorem checkEligibility_made (valid : made.Validated sha256 context verified)
    (sealed_ : eligibilitySeal.packetHash sha256 (made.packet digest) = some digest) : checkEligibility sha256 (made.packet digest) =
      if identityCollapsed made.found.replay then .error (.refused "GPE_REPLAY_IDENTITY_COLLAPSED") else .ok () := by
  have plain := validated_plain valid
  obtain ⟨id_,hash_,issued,evaluated,source,sourceHash,contextValue,contextHash,report,reportHash,identity,candidate,evidence,replay,scope⟩ :=
    packet_get made digest
  have validated := ((validated_ready sha256).mpr ⟨verified,valid.ran,rfl⟩).1
  have reread : contextFromJson (.dict made.context) = some context := by
    rw [valid.context]
    exact context_reread valid.typed valid.zoned
  have shown : contextJson context = .ok (.dict made.context) := by
    rw [valid.context]
    exact contextJson_typed valid.typed valid.zoned
  have order : decide (instant made.issuedAt < instant made.evaluatedAt) = false := decide_eq_false (by have := valid.order; omega)
  have copied : jsonValue (.dict made.result.toDict) = some (.dict made.report) := by
    rw [← valid.report]
    exact jsonValue_self _ plain.report
  have fine : eligibilitySeal.check sha256 "GPE_JSON_VALUE_INVALID" (made.packet digest) = .ok () :=
    (Seal.check_ok sha256).mpr ⟨digest,sealed_,hash_,id_⟩
  have summaries : pyEqItems made.found.values made.found.values = true := pyEqItems_refl plain.found
  unfold checkEligibility checkDigest
  rw [source,sourceHash,contextValue,contextHash,report,reportHash,issued,evaluated,replay,identity,candidate,evidence,scope,
    valid.sourceHash,valid.contextHash,valid.reportHash,reread,awareMoment_isoformat valid.evaluated.1 valid.evaluated.2,
    awareMoment_isoformat valid.issued.1 valid.issued.2,fine]
  simp only [orRefuse,bind,Except.bind,shown,validated,← valid.result,valid.identified,escaping,refusing,copied,order]
  have ready : made.result.ready = true := by rw [valid.result]; rfl
  have sameContext := pyEq_refl _ plain.context
  have sameReport := pyEq_refl _ plain.report
  have values : [Value.dict made.found.source,.dict made.found.candidate,.dict made.found.evidence,.dict made.found.replay] = made.found.values := rfl
  simp only [values,summaries,sameContext,sameReport,ready,refuseWhen,bne_self_eq_false,Bool.not_true,Bool.false_eq_true,if_false,
    Value.asDict?,Option.getD_some]
  by_cases collapsed : identityCollapsed made.found.replay = true
  · simp only [collapsed,if_true]
  · simp only [collapsed,Bool.false_eq_true,if_false]

theorem made_read (hex : ∀ text, hexDigest (sha256 text).toList = true) (valid : made.Validated sha256 context verified)
    (sealed_ : eligibilitySeal.packetHash sha256 made.fields = some digest) :
    readPacket invalid eligibilitySchema (.dict (eligibilitySeal.sealed made.fields digest)) = .ok (made.packet digest) ∧
      eligibilitySeal.packetHash sha256 (made.packet digest) = some digest := by
  have plain := validated_plain valid
  have hashes {domain : String} {value : Value} {text : String} (json : isJson value = true)
      (hashed : domainDigest sha256 domain value = some text) : hexDigest text.toList = true := by
    obtain ⟨raw,_,made⟩ := domainDigest_json sha256 domain json
    obtain rfl := Option.some.inj (made.symm.trans hashed)
    exact hex raw
  have sealable := contents_sealable plain
  have hexed : hexDigest digest.toList = true := by
    have inner := untupled_json sealable.record sealable.json
    have copied := untupled_dict sealable.record sealable.json
    unfold Seal.packetHash domainDigest at sealed_
    rw [unsealed_fields sealable.fresh,copied] at sealed_
    have again : domainDigest sha256 eligibilitySeal.domain (.dict (untupledFields made.fields)) = some digest := by
      rw [domainDigest,jsonValue_self _ inner]
      exact sealed_
    exact hashes inner again
  exact sealed_read sha256 invalid schema_distinct sealable (contents_shows plain hexed
    ⟨hashes plain.source valid.sourceHash,hashes plain.context valid.contextHash,hashes plain.report valid.reportHash⟩) sealed_

structure PacketOf (packet : Dict) (source : Value) (evaluatedAt issuedAt : Moment) (found : Identities) : Prop where
  handoff : packet.get "source_handoff" = source
  evaluated : awareMoment (packet.get "evaluated_at") = some evaluatedAt
  issued : awareMoment (packet.get "issued_at") = some issuedAt
  identities : packet.get "source_decision_identity" = .dict found.source ∧ packet.get "candidate_identity" = .dict found.candidate ∧
    packet.get "evidence_lineage" = .dict found.evidence ∧ packet.get "replay_summary" = .dict found.replay

theorem build_identified (hex : ∀ text, hexDigest (sha256 text).toList = true)
    (copied : jsonValue handoff = some source) (typed : Typed context) (zoned : ∀ moment ∈ contextMoments context, aware moment = true)
    (evaluated : aware evaluatedAt = true ∧ Representable evaluatedAt) (issued : aware issuedAt = true ∧ Representable issuedAt)
    (order : instant evaluatedAt ≤ instant issuedAt) (ran : runChecks sha256 source context evaluatedAt = .ok verified)
    (identified : identities source = .ok found) : ∃ packet, PacketOf packet source evaluatedAt issuedAt found ∧
      buildGuardedPromotionEligibilityPacket sha256 handoff context evaluatedAt issuedAt =
        if identityCollapsed found.replay then .error (.refused "GPE_REPLAY_IDENTITY_COLLAPSED") else .ok packet := by
  obtain ⟨members,rfl,_⟩ := identities_ok identified
  have json := jsonValue_json handoff copied
  have contextFine := contextDict_json typed
  have reportFine := report_json json .readyForGuardedPromotion [] true verified
  obtain ⟨sourceText,_,sourceHash⟩ := domainDigest_json sha256 sourceHandoffDomain json
  obtain ⟨contextText,_,contextHash⟩ := domainDigest_json sha256 trustedContextDomain contextFine
  obtain ⟨reportText,_,reportHash⟩ := domainDigest_json sha256 validationResultDomain reportFine
  let made : Contents := ⟨issuedAt,evaluatedAt,members,contextDict context,
    (resultOf (.dict members) .readyForGuardedPromotion [] true verified).toDict,sha256 sourceText,sha256 contextText,sha256 reportText,
    resultOf (.dict members) .readyForGuardedPromotion [] true verified,found⟩
  have valid : made.Validated sha256 context verified :=
    ⟨typed,zoned,evaluated,issued,order,json,ran,rfl,identified,rfl,rfl,sourceHash,contextHash,reportHash⟩
  have sealable := contents_sealable (validated_plain valid)
  obtain ⟨text,_,hashed⟩ := domainDigest_json sha256 eligibilitySeal.domain (untupled_json sealable.record sealable.json)
  have sealed_ : eligibilitySeal.packetHash sha256 made.fields = some (sha256 text) := by
    rw [← hashed,Seal.packetHash,domainDigest,domainDigest,unsealed_fields sealable.fresh,untupled_dict sealable.record sealable.json,
      jsonValue_self _ (untupled_json sealable.record sealable.json)]
  obtain ⟨read,resealed⟩ := made_read hex valid sealed_
  have checked : checkEligibility sha256 (made.packet (sha256 text)) =
      if identityCollapsed found.replay then .error (.refused "GPE_REPLAY_IDENTITY_COLLAPSED") else .ok () :=
    checkEligibility_made valid resealed
  have validated := ((validated_ready sha256).mpr ⟨verified,ran,rfl⟩).1
  have late : decide (instant issuedAt < instant evaluatedAt) = false := decide_eq_false (by omega)
  have report := jsonValue_self _ reportFine
  obtain ⟨_,_,issuedAt_,evaluatedAt_,handoff_,_,_,_,_,_,own,candidate,evidence,replay,_⟩ := packet_get made (sha256 text)
  refine ⟨made.packet (sha256 text),⟨handoff_,?_,?_,own,candidate,evidence,replay⟩,?_⟩
  · rw [evaluatedAt_]
    exact awareMoment_isoformat evaluated.1 evaluated.2
  · rw [issuedAt_]
    exact awareMoment_isoformat issued.1 issued.2
  unfold buildGuardedPromotionEligibilityPacket
  simp only [copied,contextJson_typed typed zoned,validated,identified,escaping,orRefuse,refuseWhen,bind,Except.bind,evaluated.1,issued.1,late,
    report,sourceHash,contextHash,reportHash,Bool.not_true,Bool.false_eq_true,if_false]
  have ready : (resultOf (.dict members) .readyForGuardedPromotion [] true verified).ready = true := rfl
  have unreasoned : (resultOf (.dict members) .readyForGuardedPromotion [] true verified).reasonCodes.isEmpty = true := rfl
  have fields : eligibilityFields issuedAt evaluatedAt (.dict members) (.dict (contextDict context))
      (.dict (resultOf (.dict members) .readyForGuardedPromotion [] true verified).toDict) (sha256 sourceText) (sha256 contextText)
      (sha256 reportText) (resultOf (.dict members) .readyForGuardedPromotion [] true verified) found = made.fields := rfl
  rw [ready,unreasoned,fields,sealed_]
  simp only [verifyGuardedPromotionEligibilityPacket,read,checked,bind,Except.bind,Bool.and_self,Bool.not_true,Bool.false_eq_true,if_false]
  by_cases collapsed : identityCollapsed found.replay = true
  · simp only [collapsed,if_true]
  · simp only [collapsed,Bool.false_eq_true,if_false]

theorem contained_partJson (part : Part) : Contained (partJson part) := by
  cases part with
  | inl value => exact contained_orRefuse _ _
  | inr moment =>
    intro error
    cases zoned : aware moment <;> simp [partJson,zoned]

theorem contained_partsJson (parts : List (String × Part)) : Contained (partsJson parts) := by
  induction parts with
  | nil => exact contained_ok _
  | cons part rest ih => exact contained_bind (contained_partJson _) fun _ => contained_bind ih fun _ => contained_ok _

theorem contained_assertionsJson (assertions : List TrustedValueAssertion) : Contained (assertionsJson assertions) := by
  induction assertions with
  | nil => exact contained_ok _
  | cons assertion rest ih => exact contained_bind (contained_partsJson _) fun _ => contained_bind ih fun _ => contained_ok _

theorem contained_optionJson (parts : Option (List (String × Part))) : Contained (optionJson parts) := by
  cases parts with
  | none => exact contained_ok _
  | some parts =>
    intro error raised
    have inner := contained_partsJson parts error
    cases shown : partsJson parts <;> simp_all [optionJson,Except.map]

theorem contained_contextJson (context : ValidationContext) : Contained (contextJson context) :=
  contained_bind (contained_assertionsJson _) fun _ => contained_bind (contained_optionJson _) fun _ =>
    contained_bind (contained_optionJson _) fun _ => contained_ok _

theorem partsJson_zoned (made : partsJson parts = .ok shown) (listed : (name,Sum.inr moment) ∈ parts) : aware moment = true := by
  induction parts generalizing shown with
  | nil => cases listed
  | cons part rest ih =>
    obtain ⟨own,part⟩ := part
    obtain ⟨value,first,made⟩ := bind_ok.mp made
    obtain ⟨later,others,_⟩ := bind_ok.mp made
    rcases List.mem_cons.mp listed with same | further
    · obtain ⟨rfl,rfl⟩ := Prod.mk.inj same
      cases zoned : aware moment with
      | true => rfl
      | false => simp [partJson,zoned] at first
    · exact ih others further

theorem assertionsJson_zoned (made : assertionsJson assertions = .ok shown)
    (listed : assertion ∈ assertions) : aware assertion.verifiedAt = true := by
  induction assertions generalizing shown with
  | nil => cases listed
  | cons head rest ih =>
    obtain ⟨own,first,made⟩ := bind_ok.mp made
    obtain ⟨later,others,_⟩ := bind_ok.mp made
    rcases List.mem_cons.mp listed with rfl | further
    · exact partsJson_zoned first (show ("verified_at",Sum.inr assertion.verifiedAt) ∈ assertionParts assertion by simp [assertionParts])
    · exact ih others further

theorem contextJson_zoned (made : contextJson context = .ok shown) : ∀ moment ∈ contextMoments context, aware moment = true := by
  obtain ⟨assertions,first,made⟩ := bind_ok.mp made
  obtain ⟨candidate,second,made⟩ := bind_ok.mp made
  obtain ⟨authority,third,_⟩ := bind_ok.mp made
  intro moment listed
  simp only [contextMoments,List.mem_append,List.mem_map,Option.mem_toList,Option.map_eq_some_iff] at listed
  rcases listed with (⟨assertion,there,rfl⟩ | ⟨binding,given,rfl⟩) | ⟨binding,given,rfl⟩
  · exact assertionsJson_zoned first there
  · rw [given] at second
    cases made : partsJson (candidateBindingParts binding) with
    | error raised => simp [optionJson,made,Except.map] at second
    | ok shown => exact partsJson_zoned made (show ("verified_at",Sum.inr binding.verifiedAt) ∈ candidateBindingParts binding by simp [candidateBindingParts])
  · rw [given] at third
    cases made : partsJson (authorityBindingParts binding) with
    | error raised => simp [optionJson,made,Except.map] at third
    | ok shown => exact partsJson_zoned made (show ("verified_at",Sum.inr binding.verifiedAt) ∈ authorityBindingParts binding by simp [authorityBindingParts])

def IsReady (sha256 : String → String) (handoff : Value) (context : ValidationContext) (evaluatedAt : Moment) : Prop :=
  ∃ result, validateCanonicalDecisionHandoff sha256 handoff context evaluatedAt = .ok result ∧ result.ready = true

theorem isReady_ran :
    IsReady sha256 handoff context evaluatedAt ↔ ∃ verified, runChecks sha256 handoff context evaluatedAt = .ok verified := by
  constructor
  · rintro ⟨result,validated,ready⟩
    obtain ⟨verified,ran,_⟩ := (validated_ready sha256).mp ⟨validated,ready⟩
    exact ⟨verified,ran⟩
  · rintro ⟨verified,ran⟩
    obtain ⟨validated,ready⟩ := (validated_ready sha256).mpr ⟨verified,ran,rfl⟩
    exact ⟨_,validated,ready⟩

-- What the verifier checked, as far as the later packets rely on it.
structure Eligible (sha256 : String → String) (candidate : Dict) (context : ValidationContext) (evaluated issued : Moment)
    (found : Identities) : Prop where
  contextual : contextFromJson (candidate.get "trusted_validation_context") = some context
  early : awareMoment (candidate.get "evaluated_at") = some evaluated
  late : awareMoment (candidate.get "issued_at") = some issued
  order : instant evaluated ≤ instant issued
  ready : IsReady sha256 (candidate.get "source_handoff") context evaluated
  identified : identities (candidate.get "source_handoff") = .ok found
  summaries : pyEqItems found.values [candidate.get "source_decision_identity",candidate.get "candidate_identity",
    candidate.get "evidence_lineage",candidate.get "replay_summary"] = true

theorem checkEligibility_ok (checked : checkEligibility sha256 candidate = .ok ()) :
    ∃ context evaluated issued found, Eligible sha256 candidate context evaluated issued found := by
  unfold checkEligibility at checked
  simp only [bind_ok,exists_unit,orRefuse_ok,refuseWhen_ok,refusing_ok,escaping_ok,decide_eq_false_iff_not,Int.not_lt,
    Bool.not_eq_false'] at checked
  obtain ⟨_,_,_,context,contextual,_,_,_,evaluated,early,issued,late,order,result,validated,ready,_,_,_,found,identified,summaries,_⟩ := checked
  exact ⟨context,evaluated,issued,found,contextual,early,late,order,⟨result,validated,ready⟩,identified,summaries⟩

theorem eligibility_verified (verified : verifyGuardedPromotionEligibilityPacket sha256 packet = .ok candidate) :
    readPacket invalid eligibilitySchema packet = .ok candidate ∧ isJson (.dict candidate) = true ∧ Shows eligibilitySchema candidate ∧
      ∃ context evaluated issued found, Eligible sha256 candidate context evaluated issued found := by
  obtain ⟨shown,read,checked⟩ := bind_ok.mp verified
  obtain ⟨passed,same⟩ := except_then_ok.mp checked
  obtain rfl := Except.ok.inj same
  exact ⟨read,(readPacket_ok schema_distinct read).1,(readPacket_ok schema_distinct read).2,checkEligibility_ok passed⟩

theorem typed_lawful (json : isJson handoff = true) (typed : Typed context) : Lawful handoff context := by
  refine ⟨json,fun assertion listed => ?_⟩
  have fields := List.all_eq_true.mp typed.assertions assertion listed
  simp only [typedAssertion,Bool.and_eq_true] at fields
  obtain ⟨s,text⟩ := isText_str fields.1.1.1.1.1
  rw [text]
  rfl

theorem validated_answers (json : isJson handoff = true) (typed : Typed context) (evaluatedAt : Moment) :
    ∃ result, validateCanonicalDecisionHandoff sha256 handoff context evaluatedAt = .ok result := by
  have short := stopsShort_run sha256 handoff context evaluatedAt
  unfold validateCanonicalDecisionHandoff
  cases ran : runChecks sha256 handoff context evaluatedAt with
  | ok verified => exact ⟨_,rfl⟩
  | error stop =>
    cases stop with
    | returned status reasons valid verified => exact ⟨_,rfl⟩
    | raised error => exact absurd (typed_lawful json typed) (short _ ran)

-- An error escapes the builder only after the handoff was found ready.
theorem build_escaped (typed : Typed context)
    (raised : buildGuardedPromotionEligibilityPacket sha256 handoff context evaluatedAt issuedAt = .error (.escaped error)) :
    aware evaluatedAt = true ∧ aware issuedAt = true ∧ instant evaluatedAt ≤ instant issuedAt ∧
      (∀ moment ∈ contextMoments context, aware moment = true) ∧
      ∃ source, jsonValue handoff = some source ∧ IsReady sha256 source context evaluatedAt := by
  obtain ⟨⟨⟩,evaluated,raised⟩ := escaped_after (contained_refuse _ _) raised
  obtain ⟨⟨⟩,issued,raised⟩ := escaped_after (contained_refuse _ _) raised
  obtain ⟨⟨⟩,order,raised⟩ := escaped_after (contained_refuse _ _) raised
  obtain ⟨source,copied,raised⟩ := escaped_after (contained_orRefuse _ _) raised
  obtain ⟨shown,contextual,raised⟩ := escaped_after (contained_contextJson _) raised
  have json := jsonValue_json handoff ((orRefuse_ok _ _ _).mp copied)
  obtain ⟨result,validated,raised⟩ := escaped_after (contained_escaping (validated_answers json typed evaluatedAt)) raised
  obtain ⟨⟨⟩,ready,raised⟩ := escaped_after (contained_refuse _ _) raised
  simp only [refuseWhen_ok,Bool.not_eq_false',decide_eq_false_iff_not,Bool.and_eq_true] at evaluated issued order ready
  exact ⟨evaluated,issued,by omega,contextJson_zoned contextual,source,(orRefuse_ok _ _ _).mp copied,result,(escaping_ok _ _).mp validated,ready.1⟩

theorem build_unidentified (copied : jsonValue handoff = some source) (typed : Typed context)
    (zoned : ∀ moment ∈ contextMoments context, aware moment = true) (evaluated : aware evaluatedAt = true)
    (issued : aware issuedAt = true) (order : instant evaluatedAt ≤ instant issuedAt) (ready : IsReady sha256 source context evaluatedAt)
    (missing : identities source = .error error) :
    buildGuardedPromotionEligibilityPacket sha256 handoff context evaluatedAt issuedAt = .error (.escaped error) := by
  obtain ⟨verified,ran⟩ := isReady_ran.mp ready
  have validated := ((validated_ready sha256).mpr ⟨verified,ran,rfl⟩).1
  have late : decide (instant issuedAt < instant evaluatedAt) = false := decide_eq_false (by omega)
  have report := jsonValue_self _ (report_json (jsonValue_json handoff copied) .readyForGuardedPromotion [] true verified)
  have fine : (resultOf source .readyForGuardedPromotion [] true verified).ready = true := rfl
  have unreasoned : (resultOf source .readyForGuardedPromotion [] true verified).reasonCodes.isEmpty = true := rfl
  unfold buildGuardedPromotionEligibilityPacket
  simp only [copied,contextJson_typed typed zoned,validated,missing,escaping,orRefuse,refuseWhen,bind,Except.bind,evaluated,issued,late,
    report,fine,unreasoned,Bool.and_self,Bool.not_true,Bool.false_eq_true,if_false]

-- The claim of the packager: what is ready is packaged, and nothing but its own refusals escapes.
structure Packaged (sha256 : String → String) (handoff : Value) (context : ValidationContext) (evaluatedAt issuedAt : Moment) : Prop where
  complete : isJson handoff = true → aware evaluatedAt = true → aware issuedAt = true → instant evaluatedAt ≤ instant issuedAt →
    IsReady sha256 handoff context evaluatedAt →
    ∃ packet, buildGuardedPromotionEligibilityPacket sha256 handoff context evaluatedAt issuedAt = .ok packet ∧
      verifyGuardedPromotionEligibilityPacket sha256 (.dict packet) = .ok packet ∧
      ∀ layout, ∃ written, toJson false (.dict packet) = some written ∧
        (loads (dumps layout written)).map (fun json => verifyGuardedPromotionEligibilityPacket sha256 (fromJson json)) = some (.ok packet)
  contained : Contained (buildGuardedPromotionEligibilityPacket sha256 handoff context evaluatedAt issuedAt)

-- When it holds. A handoff that is ready once copied has both kinds of evidence, and one that is JSON data
-- is packaged under a context of aware datetimes, its replay not being the original decision.
structure Packageable (sha256 : String → String) (handoff : Value) (context : ValidationContext) (evaluatedAt issuedAt : Moment) : Prop where
  evidence : ∀ source, jsonValue handoff = some (.dict source) → aware evaluatedAt = true → aware issuedAt = true →
    instant evaluatedAt ≤ instant issuedAt → (∀ moment ∈ contextMoments context, aware moment = true) →
    IsReady sha256 (.dict source) context evaluatedAt → EvidenceGiven source
  replayed : ∀ source, handoff = .dict source → isJson handoff = true → aware evaluatedAt = true → aware issuedAt = true →
    instant evaluatedAt ≤ instant issuedAt → IsReady sha256 handoff context evaluatedAt →
    (∀ moment ∈ contextMoments context, aware moment = true) ∧ identityCollapsed (sectionOf source "replay_lineage") = false

theorem ready_mapping (ready : IsReady sha256 source context evaluatedAt) :
    ∃ members : Dict, source = .dict members ∧ ReadyHandoff sha256 context evaluatedAt (.dict members) members := by
  obtain ⟨verified,ran⟩ := isReady_ran.mp ready
  obtain ⟨members,found⟩ := runChecks_ok sha256 ran
  obtain rfl := found.structured.mapping
  exact ⟨members,rfl,found⟩

theorem collapsed_summary (members : Dict) :
    identityCollapsed (identitiesOf members).replay = identityCollapsed (sectionOf members "replay_lineage") := by
  simp [identityCollapsed,identitiesOf,replayFields,Dict.get,lookup]

theorem packaged_rereads (verified : verifyGuardedPromotionEligibilityPacket sha256 input = .ok packet) :
    verifyGuardedPromotionEligibilityPacket sha256 (.dict packet) = .ok packet ∧
      ∀ layout, ∃ written, toJson false (.dict packet) = some written ∧
        (loads (dumps layout written)).map (fun json => verifyGuardedPromotionEligibilityPacket sha256 (fromJson json)) = some (.ok packet) := by
  obtain ⟨again,json⟩ := verified_self verified
  refine ⟨again,fun layout => ?_⟩
  obtain ⟨written,made,reread⟩ := reread_self json layout
  obtain ⟨document,loaded,same⟩ := Option.map_eq_some_iff.mp reread
  exact ⟨written,made,by rw [loaded,Option.map_some,same,again]⟩

theorem build_verified (built : buildGuardedPromotionEligibilityPacket sha256 handoff context evaluatedAt issuedAt = .ok packet) :
    (∃ shown, contextJson context = .ok shown) ∧ ∃ input, verifyGuardedPromotionEligibilityPacket sha256 input = .ok packet := by
  obtain ⟨_,_,built⟩ := bind_ok.mp built
  obtain ⟨_,_,built⟩ := bind_ok.mp built
  obtain ⟨_,_,built⟩ := bind_ok.mp built
  obtain ⟨_,_,built⟩ := bind_ok.mp built
  obtain ⟨shown,contextual,built⟩ := bind_ok.mp built
  obtain ⟨_,_,built⟩ := bind_ok.mp built
  obtain ⟨_,_,built⟩ := bind_ok.mp built
  obtain ⟨_,_,built⟩ := bind_ok.mp built
  obtain ⟨_,_,built⟩ := bind_ok.mp built
  obtain ⟨_,_,built⟩ := bind_ok.mp built
  obtain ⟨_,_,built⟩ := bind_ok.mp built
  obtain ⟨_,_,built⟩ := bind_ok.mp built
  obtain ⟨digest,_,built⟩ := bind_ok.mp built
  exact ⟨⟨shown,contextual⟩,_,built⟩

end Completeness

theorem digestText_text (json : isJson value = true) : isText (digestText sha256 value) = true := by
  have recorded := isJson_recordable (assertionDocument value) (by simp [assertionDocument,isJson,isJsonMembers,Key.isStr,json])
  obtain ⟨text,written⟩ := Option.isSome_iff_exists.mp recorded
  simp [digestText,canonicalHandoffAssertionValueDigest,canonicalJsonDumps,written,strValue,isText]

theorem contextOf_moments (sha256 : String → String) (handoff : Dict) (verifiedAt : Moment) :
    ∀ moment ∈ contextMoments (contextOf sha256 handoff verifiedAt), moment = verifiedAt := by
  intro moment listed
  simp only [contextMoments,contextOf,assertionOf,List.map_map,List.mem_append,List.mem_map,Option.map_some,Option.toList_some,
    List.mem_singleton,Function.comp_apply] at listed
  rcases listed with (⟨_,_,rfl⟩ | rfl) | rfl <;> rfl

theorem contextOf_typed {handoff : Dict} {verifiedAt : Moment} (json : isJson (.dict handoff) = true)
    (hashed : isText (handoff.get "candidate_hash") = true) (range : Representable verifiedAt) :
    Typed (contextOf sha256 handoff verifiedAt) where
  assertions := by
    refine List.all_eq_true.mpr fun assertion listed => ?_
    obtain ⟨path,_,rfl⟩ := List.mem_map.mp listed
    have value : isJson ((resolve (.dict handoff) path).getD .none) = true := by
      cases resolved : resolve (.dict handoff) path with
      | none => rfl
      | some found => exact resolve_json json resolved
    simp [typedAssertion,assertionOf,optionalText,digestText_text value]
  candidate := by
    simp [contextOf,typedCandidateBinding,optionalText,hashed,digestText_text (sectionOf_json json "candidate")]
  authority := by
    simp [contextOf,typedAuthorityBinding,optionalText,digestText_text (isJson_get json "authority_requirement"),
      digestText_text (isJson_get json "authority_evidence"),authorityClaim]
  moments := by
    intro moment listed
    rw [contextOf_moments sha256 handoff verifiedAt moment listed]
    exact range

def zeros : String := String.ofList (List.replicate 64 '0')

def zeroHash (_ : String) : String := zeros

theorem zeros_list : zeros.toList = List.replicate 64 '0' := String.toList_ofList

theorem zeros_hex : hexDigest zeros.toList = true := by
  rw [zeros_list]
  simp [hexDigest,PacketModel.hexDigit]

theorem zeroHash_hex (text : String) : hexDigest (zeroHash text).toList = true := by
  rw [zeroHash]
  exact zeros_hex

theorem sampleAt_representable : Representable sampleAt :=
  ⟨by decide,fun offset known => by obtain rfl := Option.some.inj known; decide⟩

theorem sample_typed (sha256 : String → String) (approved : Bool) : Typed (sampleContext sha256 approved) :=
  contextOf_typed (sample_alone approved "handoff" (by simp)).2.1 rfl sampleAt_representable

theorem approval_absent : optionalSection (sampleHandoff "handoff" false) "human_approval_evidence" = none := by decide +kernel

theorem approved_given : EvidenceGiven (sampleHandoff "handoff" true) ∧
    identityCollapsed (sectionOf (sampleHandoff "handoff" true) "replay_lineage") = false := by
  unfold EvidenceGiven
  decide +kernel

end VeritasOs.GuardedPromotion
