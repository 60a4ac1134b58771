import VeritasOs.GuardedPromotion

namespace VeritasOs.IntentReadiness
open JsonText DateTime PacketModel CanonicalHandoff GuardedPromotion

def formatVersion : String := "canonical-execution-intent-formation-readiness/v1"
def verificationMechanism : String := "verify_guarded_promotion_eligibility_packet/v1"
def executionIntentContractVersion : String := "execution-intent-contract/v1"
def mappingDomain : String := "veritas.execution-intent-formation-readiness.mapping/v1"
def requiredFieldsDomain : String := "veritas.execution-intent-formation-readiness.required-fields/v1"

def executionIntentRequiredFields : List String :=
  ["execution_intent_id","decision_id","request_id","policy_snapshot_id","actor_identity","target_system","target_resource",
   "intended_action","evidence_refs","decision_hash","decision_ts","ttl_seconds","expected_state_fingerprint","approval_context",
   "policy_lineage"]

def requiredFieldPresence : Dict :=
  executionIntentRequiredFields.map fun field =>
    (.str field,.str (if ["execution_intent_id","ttl_seconds"].contains field then "intentionally_deferred" else "mapped"))

def scopeLimitations : List String :=
  ["NOT_EXECUTION_INTENT","NOT_EXECUTION_AUTHORITY","NOT_BIND_AUTHORIZATION","NOT_BIND_RECEIPT","NOT_EXTERNAL_EFFECT",
   "NOT_ADAPTER_INVOCATION","NOT_OPERATION_COMMIT","NOT_TRUSTLOG_WRITE"]

def readinessSeal : Seal where
  domain := "veritas.execution-intent-formation-readiness.packet/v1"
  idField := "readiness_id"
  hashField := "readiness_hash"
  head := "eifr:v1:sha256:"
  hashMismatch := "EIFR_PACKET_HASH_MISMATCH"
  idMismatch := "EIFR_PACKET_ID_MISMATCH"

-- CanonicalExecutionIntentFormationReadinessPacket
def readinessSchema : Schema :=
  [("format_version",.literal (.str formatVersion)),("readiness_id",.hashed "eifr:v1:sha256:"),("readiness_hash",.hashed ""),
   ("verification_mechanism",.literal (.str verificationMechanism)),("checked_at",.text),("source_eligibility",.mapping),
   ("source_eligibility_hash",.hashed ""),("source_eligibility_packet",.mapping),("source_handoff_hash",.hashed ""),
   ("trusted_validation_context_hash",.hashed ""),("validation_result_hash",.hashed ""),
   ("formation_status",.literal (.str "READY_FOR_EXECUTION_INTENT_FORMATION")),
   ("ready_for_execution_intent_formation",.literal (.bool true)),("fail_closed",.literal (.bool false)),
   ("execution_intent_contract_version",.literal (.str executionIntentContractVersion)),("execution_intent_required_fields",.texts),
   ("source_to_execution_intent_mapping",.mapping),("mapping_value_digest",.hashed ""),("required_field_presence",.textMapping),
   ("source_decision_identity",.mapping),("candidate_identity",.mapping),("evidence_lineage",.mapping),("replay_summary",.mapping),
   ("scope_limitations",.texts)]

def sourceFields : List (String × List String) :=
  [("source_decision_identity",["request_id","canonical_decision_id","canonical_decision_hash","canonical_decision_ts"]),
   ("candidate_identity",["actor_identity","target_system","target_resource","action_contract_id","action_contract_version"]),
   ("evidence_lineage",["trustlog_artifact_ref","trustlog_chain_hash","replay_artifact_ref","replay_artifact_hash",
     "authority_evidence_ref","authority_evidence_hash","human_approval_receipt_ref","human_approval_receipt_hash","policy_snapshot_id",
     "policy_version","policy_semantic_digest","expected_state_fingerprint","expected_state_source_ref"])]

def filled : Value → Bool
  | .str s => Text.strip s != ""
  | _ => false

def requireSourceFields (eligibility : Dict) : Packet Unit := do
  refuseWhen (sourceFields.any fun entry => entry.2.any fun field => !filled ((sectionOf eligibility entry.1).get field))
    "EIFR_SOURCE_FIELD_MISSING"
  refuseWhen (awareMoment ((sectionOf eligibility "source_decision_identity").get "canonical_decision_ts")).isNone "EIFR_SOURCE_FIELD_MISSING"
  refuseWhen (identityCollapsed (sectionOf eligibility "replay_summary")) "EIFR_REPLAY_IDENTITY_COLLAPSED"

def mapping (source candidate evidence : Dict) : Dict :=
  [(.str "decision_id",source.get "canonical_decision_id"),(.str "request_id",source.get "request_id"),
   (.str "policy_snapshot_id",evidence.get "policy_snapshot_id"),(.str "actor_identity",candidate.get "actor_identity"),
   (.str "target_system",candidate.get "target_system"),(.str "target_resource",candidate.get "target_resource"),
   (.str "intended_action",candidate.get "action_contract_id"),
   (.str "evidence_refs",.list [evidence.get "trustlog_artifact_ref",evidence.get "replay_artifact_ref",evidence.get "authority_evidence_ref",
     evidence.get "human_approval_receipt_ref",evidence.get "expected_state_source_ref"]),
   (.str "decision_hash",source.get "canonical_decision_hash"),(.str "decision_ts",source.get "canonical_decision_ts"),
   (.str "ttl_seconds",.none),(.str "expected_state_fingerprint",evidence.get "expected_state_fingerprint"),
   (.str "approval_context",.dict [(.str "human_approval_receipt_ref",evidence.get "human_approval_receipt_ref"),
     (.str "human_approval_receipt_hash",evidence.get "human_approval_receipt_hash")]),
   (.str "policy_lineage",.dict [(.str "policy_snapshot_id",evidence.get "policy_snapshot_id"),
     (.str "policy_version",evidence.get "policy_version"),(.str "policy_semantic_digest",evidence.get "policy_semantic_digest")])]

def mappingOf (eligibility : Dict) : Dict :=
  mapping (sectionOf eligibility "source_decision_identity") (sectionOf eligibility "candidate_identity")
    (sectionOf eligibility "evidence_lineage")

def chosen (packet : Dict) (names : List String) : Dict := names.map fun name => (.str name,packet.get name)

def summaryKeys : List String :=
  ["eligibility_id","eligibility_hash","format_version","validation_mechanism","handoff_validator_version","issued_at","evaluated_at"]

def summaryIdentities : List String := ["source_decision_identity","candidate_identity","evidence_lineage","replay_summary"]

-- Each field of the packet equals the field of its source.
def agrees (packet source : Dict) (pairs : List (String × String)) : Bool :=
  pairs.all fun pair => pyEq (packet.get pair.1) (source.get pair.2)

def same (names : List String) : List (String × String) := names.map fun name => (name,name)

section Packets
variable (sha256 : String → String)

-- _verify_eligibility(value); the model's literals already say READY.
def verifiedEligibility (value : Value) : Packet Dict := do
  let eligibility ← refusing [.typeError,.valueError] "EIFR_ELIGIBILITY_INVALID" (verifyGuardedPromotionEligibilityPacket sha256 value)
  requireSourceFields eligibility
  .ok eligibility

def invalid : String := "EIFR_PACKET_INVALID"

def checkReadiness (candidate : Dict) : Packet Unit := do
  let eligibility ← verifiedEligibility sha256 (candidate.get "source_eligibility_packet")
  let checked ← orRefuse "EIFR_CHECKED_AT_INVALID" (awareMoment (candidate.get "checked_at"))
  let issued ← orRefuse "EIFR_ELIGIBILITY_INVALID" (awareMoment (eligibility.get "issued_at"))
  refuseWhen (decide (instant checked < instant issued)) "EIFR_CHECKED_BEFORE_ELIGIBILITY_ISSUED"
  let own := sectionOf candidate "source_eligibility"
  let summary := own.filterMap fun member => (lookup member.1 eligibility).map fun value => (member.1,value)
  refuseWhen (!keysAre summaryKeys own || !pyEq (.dict own) (.dict summary)) "EIFR_ELIGIBILITY_INVALID"
  refuseWhen (!agrees candidate eligibility [("source_eligibility_hash","eligibility_hash"),("source_handoff_hash","source_handoff_hash"),
    ("trusted_validation_context_hash","trusted_validation_context_hash"),("validation_result_hash","validation_result_hash")])
    "EIFR_ELIGIBILITY_INVALID"
  let expected := mappingOf eligibility
  refuseWhen (!pyEq (candidate.get "source_to_execution_intent_mapping") (.dict expected)) "EIFR_MAPPING_MISMATCH"
  let mappingDigest ← orRefuse invalid (domainDigest sha256 mappingDomain (.dict expected))
  refuseWhen (candidate.get "mapping_value_digest" != .str mappingDigest) "EIFR_MAPPING_DIGEST_MISMATCH"
  let ownPresence ← orRefuse invalid (domainDigest sha256 requiredFieldsDomain (candidate.get "required_field_presence"))
  let presence ← orRefuse invalid (domainDigest sha256 requiredFieldsDomain (.dict requiredFieldPresence))
  refuseWhen (candidate.get "execution_intent_required_fields" != texts executionIntentRequiredFields ||
    !pyEq (candidate.get "required_field_presence") (.dict requiredFieldPresence) || ownPresence != presence) "EIFR_REQUIRED_FIELD_MISMATCH"
  refuseWhen (!agrees candidate eligibility (same summaryIdentities)) "EIFR_MAPPING_MISMATCH"
  refuseWhen (candidate.get "scope_limitations" != texts scopeLimitations) "EIFR_SCOPE_LIMITATIONS_MISSING"
  readinessSeal.check sha256 invalid candidate

def verifyExecutionIntentFormationReadinessPacket (packet : Value) : Packet Dict := do
  let candidate ← readPacket invalid readinessSchema packet
  checkReadiness sha256 candidate
  .ok candidate

def readinessFields (checkedAt : Moment) (eligibility : Dict) (mappingDigest : String) : Dict :=
  [(.str "format_version",.str formatVersion),(.str "verification_mechanism",.str verificationMechanism),
   (.str "checked_at",.str (isoformat checkedAt)),(.str "source_eligibility",.dict (chosen eligibility summaryKeys)),
   (.str "source_eligibility_hash",eligibility.get "eligibility_hash"),(.str "source_eligibility_packet",.dict eligibility),
   (.str "source_handoff_hash",eligibility.get "source_handoff_hash"),
   (.str "trusted_validation_context_hash",eligibility.get "trusted_validation_context_hash"),
   (.str "validation_result_hash",eligibility.get "validation_result_hash"),
   (.str "formation_status",.str "READY_FOR_EXECUTION_INTENT_FORMATION"),(.str "ready_for_execution_intent_formation",.bool true),
   (.str "fail_closed",.bool false),(.str "execution_intent_contract_version",.str executionIntentContractVersion),
   (.str "execution_intent_required_fields",.tuple (executionIntentRequiredFields.map .str)),
   (.str "source_to_execution_intent_mapping",.dict (mappingOf eligibility)),(.str "mapping_value_digest",.str mappingDigest),
   (.str "required_field_presence",.dict requiredFieldPresence),
   (.str "source_decision_identity",eligibility.get "source_decision_identity"),
   (.str "candidate_identity",eligibility.get "candidate_identity"),(.str "evidence_lineage",eligibility.get "evidence_lineage"),
   (.str "replay_summary",eligibility.get "replay_summary"),(.str "scope_limitations",.tuple (scopeLimitations.map .str))]

def buildExecutionIntentFormationReadinessPacket (eligibilityPacket : Value) (checkedAt : Moment) : Packet Dict := do
  refuseWhen (!aware checkedAt) "EIFR_CHECKED_AT_INVALID"
  let copied ← orRefuse invalid (jsonValue eligibilityPacket)
  let eligibility ← verifiedEligibility sha256 copied
  let issued ← orRefuse "EIFR_ELIGIBILITY_INVALID" (awareMoment (eligibility.get "issued_at"))
  refuseWhen (decide (instant checkedAt < instant issued)) "EIFR_CHECKED_BEFORE_ELIGIBILITY_ISSUED"
  let mappingDigest ← orRefuse invalid (domainDigest sha256 mappingDomain (.dict (mappingOf eligibility)))
  let fields := readinessFields checkedAt eligibility mappingDigest
  let digest ← orRefuse invalid (readinessSeal.packetHash sha256 fields)
  verifyExecutionIntentFormationReadinessPacket sha256 (.dict (readinessSeal.sealed fields digest))

end Packets

theorem readinessSchema_distinct : (readinessSchema.map Prod.fst).Nodup := by decide
theorem readinessSchema_plain : ∀ field ∈ readinessSchema, field.2 ≠ .flags := by decide

structure SourceFilled (eligibility : Dict) : Prop where
  texts : ∀ entry ∈ sourceFields, ∀ field ∈ entry.2, filled ((sectionOf eligibility entry.1).get field) = true
  dated : (awareMoment ((sectionOf eligibility "source_decision_identity").get "canonical_decision_ts")).isSome = true
  replayed : identityCollapsed (sectionOf eligibility "replay_summary") = false

theorem requireSourceFields_ok : requireSourceFields eligibility = .ok () ↔ SourceFilled eligibility := by
  simp only [requireSourceFields,except_then_ok,refuseWhen_ok,List.any_eq_false,Bool.not_eq_true',Bool.not_eq_false,Bool.not_eq_true,
    Option.isNone_eq_false_iff]
  constructor
  · rintro ⟨texts,dated,replayed⟩
    exact ⟨texts,dated,replayed⟩
  · rintro ⟨texts,dated,replayed⟩
    exact ⟨texts,dated,replayed⟩

theorem sourceFilled_of (sections : ∀ name ∈ summaryIdentities, sectionOf a name = sectionOf b name) (full : SourceFilled a) :
    SourceFilled b := by
  have named : ∀ entry ∈ sourceFields, entry.1 ∈ summaryIdentities := by decide
  constructor
  · intro entry listed
    rw [← sections entry.1 (named entry listed)]
    exact full.texts entry listed
  · rw [← sections "source_decision_identity" (by decide)]
    exact full.dated
  · rw [← sections "replay_summary" (by decide)]
    exact full.replayed

def ownSummary (candidate eligibility : Dict) : Dict :=
  (sectionOf candidate "source_eligibility").filterMap fun member => (lookup member.1 eligibility).map fun value => (member.1,value)

structure Readied (sha256 : String → String) (candidate eligibility : Dict) : Prop where
  source : verifyGuardedPromotionEligibilityPacket sha256 (candidate.get "source_eligibility_packet") = .ok eligibility
  filled : SourceFilled eligibility
  order : ∃ checked issued, awareMoment (candidate.get "checked_at") = some checked ∧ awareMoment (eligibility.get "issued_at") = some issued ∧
    instant issued ≤ instant checked
  summary : keysAre summaryKeys (sectionOf candidate "source_eligibility") = true ∧
    pyEq (.dict (sectionOf candidate "source_eligibility")) (.dict (ownSummary candidate eligibility)) = true
  bindings : agrees candidate eligibility [("source_eligibility_hash","eligibility_hash"),("source_handoff_hash","source_handoff_hash"),
    ("trusted_validation_context_hash","trusted_validation_context_hash"),("validation_result_hash","validation_result_hash")] = true
  mapping : pyEq (candidate.get "source_to_execution_intent_mapping") (.dict (mappingOf eligibility)) = true
  digest : ∃ digest, domainDigest sha256 mappingDomain (.dict (mappingOf eligibility)) = some digest ∧
    candidate.get "mapping_value_digest" = .str digest
  presence : ∃ digest, domainDigest sha256 requiredFieldsDomain (candidate.get "required_field_presence") = some digest ∧
    domainDigest sha256 requiredFieldsDomain (.dict requiredFieldPresence) = some digest ∧
    candidate.get "execution_intent_required_fields" = texts executionIntentRequiredFields ∧
    pyEq (candidate.get "required_field_presence") (.dict requiredFieldPresence) = true
  identities : agrees candidate eligibility (same summaryIdentities) = true
  scope : candidate.get "scope_limitations" = texts scopeLimitations
  closed : readinessSeal.check sha256 invalid candidate = .ok ()

section Facts
variable {sha256 : String → String}

variable {eligibility candidate packet : Dict} {names : List String}

theorem verifiedEligibility_ok : verifiedEligibility sha256 value = .ok eligibility ↔
      verifyGuardedPromotionEligibilityPacket sha256 value = .ok eligibility ∧ SourceFilled eligibility := by
  unfold verifiedEligibility
  simp only [bind_ok,exists_unit,refusing_ok,requireSourceFields_ok,Except.ok.injEq]
  constructor
  · rintro ⟨_,verified,filled,rfl⟩
    exact ⟨verified,filled⟩
  · rintro ⟨verified,filled⟩
    exact ⟨_,verified,filled,rfl⟩

theorem checkReadiness_ok : checkReadiness sha256 candidate = .ok () ↔ ∃ eligibility, Readied sha256 candidate eligibility := by
  unfold checkReadiness
  simp only [bind_ok,exists_unit,orRefuse_ok,refuseWhen_ok,verifiedEligibility_ok,decide_eq_false_iff_not,Int.not_lt,
    Bool.or_eq_false_iff,Bool.not_eq_false',bne_eq_false_iff_eq]
  constructor
  · rintro ⟨eligibility,⟨source,filled⟩,checked,read,issued,known,order,summary,bindings,mapping,digest,made,named,own,owned,presence,stated,
      ⟨⟨fields,present⟩,rfl⟩,identities,scope,closed⟩
    exact ⟨eligibility,source,filled,⟨checked,issued,read,known,order⟩,summary,bindings,mapping,⟨digest,made,named⟩,
      ⟨own,owned,stated,fields,present⟩,identities,scope,closed⟩
  · rintro ⟨eligibility,source,filled,⟨checked,issued,read,known,order⟩,summary,bindings,mapping,⟨digest,made,named⟩,
      ⟨own,owned,stated,fields,present⟩,identities,scope,closed⟩
    exact ⟨eligibility,⟨source,filled⟩,checked,read,issued,known,order,summary,bindings,mapping,digest,made,named,own,owned,own,stated,
      ⟨⟨fields,present⟩,rfl⟩,identities,scope,closed⟩

theorem readiness_verified {packet : Value} (verified : verifyExecutionIntentFormationReadinessPacket sha256 packet = .ok candidate) :
    readPacket invalid readinessSchema packet = .ok candidate ∧ isJson (.dict candidate) = true ∧ Shows readinessSchema candidate ∧
      ∃ eligibility, Readied sha256 candidate eligibility := by
  obtain ⟨shown,read,checked⟩ := bind_ok.mp verified
  obtain ⟨passed,same⟩ := except_then_ok.mp checked
  obtain rfl := Except.ok.inj same
  exact ⟨read,(readPacket_ok readinessSchema_distinct read).1,(readPacket_ok readinessSchema_distinct read).2,checkReadiness_ok.mp passed⟩

theorem filled_text (full : filled value = true) : ∃ s, value = .str s := by
  cases value with
  | str s => exact ⟨s,rfl⟩
  | _ => cases full

theorem summary_text {a b : Dict} {name : String} (same : pyEq (.dict a) (.dict b) = true) (held : (lookup (.str name) a).isSome = true)
    (full : filled (b.get name) = true) : a.get name = b.get name := by
  have equal := pyEq_get same held
  obtain ⟨s,text⟩ := filled_text full
  rw [text] at equal ⊢
  exact (pyEq_str _ _).mp equal

theorem mapping_congr
    (sources : ∀ name ∈ ["request_id","canonical_decision_id","canonical_decision_hash","canonical_decision_ts"], source.get name = source'.get name)
    (candidates : ∀ name ∈ ["actor_identity","target_system","target_resource","action_contract_id"], candidate.get name = candidate'.get name)
    (evidences : ∀ name ∈ ["trustlog_artifact_ref","replay_artifact_ref","authority_evidence_ref","human_approval_receipt_ref", "human_approval_receipt_hash","policy_snapshot_id","policy_version","policy_semantic_digest","expected_state_fingerprint", "expected_state_source_ref"], evidence.get name = evidence'.get name) :
    mapping source candidate evidence = mapping source' candidate' evidence' := by
  simp only [List.forall_mem_cons,List.not_mem_nil,IsEmpty.forall_iff,implies_true,and_true] at sources candidates evidences
  simp only [mapping,sources,candidates,evidences]

theorem mapping_identified {handoff : Value} {found : Identities} (full : SourceFilled eligibility)
    (identified : identities handoff = .ok found)
    (summaries : pyEqItems found.values [eligibility.get "source_decision_identity",eligibility.get "candidate_identity", eligibility.get "evidence_lineage",eligibility.get "replay_summary"] = true) :
    mappingOf eligibility = mapping found.source found.candidate found.evidence := by
  obtain ⟨members,_,rfl,_⟩ := identities_ok identified
  simp only [Identities.values,pyEqItems,Bool.and_eq_true] at summaries
  obtain ⟨source,candidate,evidence,_⟩ := summaries
  have section_ {own : Dict} {name : String} (same : pyEq (.dict own) (eligibility.get name) = true) :
      pyEq (.dict own) (.dict (sectionOf eligibility name)) = true := by
    obtain ⟨others,held,_⟩ := (pyEq_dict _ _).mp same
    have inner : sectionOf eligibility name = others := by simp [sectionOf,held,Value.asDict?]
    rw [inner,← held]
    exact same
  have texts := full.texts
  simp only [sourceFields,List.forall_mem_cons,List.not_mem_nil,IsEmpty.forall_iff,implies_true,and_true] at texts
  refine (mapping_congr ?_ ?_ ?_).symm
  · exact fun name listed => summary_text (section_ source) (by revert name; simp [identitiesOf,fieldsOf,sourceKeys,lookup])
      (by revert name; simp [texts])
  · exact fun name listed => summary_text (section_ candidate) (by revert name; simp [identitiesOf,fieldsOf,lookup]) (by revert name; simp [texts])
  · exact fun name listed => summary_text (section_ evidence) (by revert name; simp [identitiesOf,fieldsOf,lookup]) (by revert name; simp [texts])

def fieldNames : List String :=
  ["format_version","verification_mechanism","checked_at","source_eligibility","source_eligibility_hash","source_eligibility_packet",
   "source_handoff_hash","trusted_validation_context_hash","validation_result_hash","formation_status","ready_for_execution_intent_formation",
   "fail_closed","execution_intent_contract_version","execution_intent_required_fields","source_to_execution_intent_mapping",
   "mapping_value_digest","required_field_presence","source_decision_identity","candidate_identity","evidence_lineage","replay_summary",
   "scope_limitations"]

theorem names_distinct : (readinessSeal.idField :: readinessSeal.hashField :: fieldNames).Nodup := by decide

theorem presence_json : isJson (.dict requiredFieldPresence) = true := by decide +kernel

theorem mapping_json (json : isJson (.dict eligibility) = true) : isJson (.dict (mappingOf eligibility)) = true := by
  have source := isJson_get (sectionOf_json json "source_decision_identity")
  have candidate := isJson_get (sectionOf_json json "candidate_identity")
  have evidence := isJson_get (sectionOf_json json "evidence_lineage")
  simp [mappingOf,mapping,isJson,isJsonMembers,isJsonItems,Key.isStr,source,candidate,evidence]

theorem chosen_json (json : isJson (.dict packet) = true) (distinct : names.Nodup) : isJson (.dict (chosen packet names)) = true := by
  have keys : (chosen packet names).map Prod.fst = names.map Key.str := by simp [chosen]
  refine (isJson_dict _).mpr ⟨record_names keys distinct,fun member listed => ?_⟩
  obtain ⟨name,_,rfl⟩ := List.mem_map.mp listed
  exact isJson_get json name

theorem lookup_chosen (listed : name ∈ names) : lookup (.str name) (chosen packet names) = some (packet.get name) := by
  induction names with
  | nil => cases listed
  | cons head rest ih =>
    by_cases same : head = name
    · subst same
      simp [chosen,lookup]
    · have later := ih ((List.mem_cons.mp listed).resolve_left fun equal => same equal.symm)
      simpa [chosen,lookup,same] using later

theorem keysAre_chosen (packet : Dict) (names : List String) : keysAre names (chosen packet names) = true := by
  simp only [keysAre,Bool.and_eq_true,List.all_eq_true,List.any_eq_true]
  constructor
  · intro member listed
    obtain ⟨name,there,rfl⟩ := List.mem_map.mp listed
    exact ⟨name,there,by simp⟩
  · intro name listed
    rw [lookup_chosen listed]
    rfl

theorem known_chosen (held : ∀ name ∈ names, lookup (.str name) packet = some (packet.get name)) :
    ((chosen packet names).filterMap fun member => (lookup member.1 packet).map fun value => (member.1,value)) = chosen packet names := by
  induction names with
  | nil => rfl
  | cons head rest ih =>
    rw [List.forall_mem_cons] at held
    have later := ih held.2
    simp only [chosen,List.map_cons] at later ⊢
    rw [List.filterMap_cons_some (by rw [held.1,Option.map_some]),later]

theorem readiness_shows (shows_ : Shows eligibilitySchema eligibility) (checkedAt : Moment)
    (mapped : hexDigest mappingDigest.toList = true) (hexed : hexDigest digest.toList = true) :
    Shows readinessSchema (readinessSeal.placed (untupledFields (readinessFields checkedAt eligibility mappingDigest)) digest) := by
  have whole {text : String} (digits : hexDigest text.toList = true) : hashed "" text = true := by simpa [hashed] using digits
  have headed : hashed "eifr:v1:sha256:" ("eifr:v1:sha256:" ++ digest) = true := hashed_digest hexed
  have hashes := shows_hashes schema_distinct shows_
    (show ∀ name ∈ ["eligibility_hash","source_handoff_hash","trusted_validation_context_hash","validation_result_hash"],
      (name,FieldType.hashed "") ∈ eligibilitySchema by decide)
  have sections := shows_mappings schema_distinct shows_ (show ∀ name ∈ summaryIdentities, (name,FieldType.mapping) ∈ eligibilitySchema by decide)
  simp only [summaryIdentities,List.forall_mem_cons,List.not_mem_nil,IsEmpty.forall_iff,implies_true,and_true] at hashes sections
  obtain ⟨⟨_,own,ownHashed⟩,⟨_,handoff,handoffHashed⟩,⟨_,context,contextHashed⟩,⟨_,result,resultHashed⟩⟩ := hashes
  obtain ⟨⟨_,source⟩,⟨_,candidate⟩,⟨_,evidence⟩,⟨_,replay⟩⟩ := sections
  simp [Shows,readinessSchema,readinessSeal,Seal.placed,untupledFields,readinessFields,FieldType.read,FieldType.accepts,
    requiredFieldPresence,own,ownHashed,handoff,handoffHashed,context,contextHashed,result,resultHashed,source,candidate,evidence,replay,
    whole mapped,whole hexed,headed]

theorem readied_made (verified : verifyGuardedPromotionEligibilityPacket sha256 (.dict eligibility) = .ok eligibility)
    (full : SourceFilled eligibility) (zoned : aware checkedAt = true) (range : Representable checkedAt)
    (late : awareMoment (eligibility.get "issued_at") = some issued) (order : instant issued ≤ instant checkedAt)
    (digested : domainDigest sha256 mappingDomain (.dict (mappingOf eligibility)) = some mappingDigest)
    (closed : readinessSeal.check sha256 invalid packet = .ok ())
    (get : ∀ name, name ≠ "readiness_id" → name ≠ "readiness_hash" → packet.get name = untupled ((readinessFields checkedAt eligibility mappingDigest).get name)) :
    Readied sha256 packet eligibility := by
  obtain ⟨_,json,shows_,_⟩ := eligibility_verified verified
  have plain (name : String) : untupled (eligibility.get name) = eligibility.get name := untupled_json_self (isJson_get json name)
  have same (name : String) : pyEq (eligibility.get name) (eligibility.get name) = true := pyEq_refl _ (isJson_get json name)
  have summary : sectionOf packet "source_eligibility" = chosen eligibility summaryKeys := by
    simp [sectionOf,get,readinessFields,get_cons,Value.asDict?]
  obtain ⟨presence,_,present⟩ := domainDigest_json sha256 requiredFieldsDomain presence_json
  constructor
  · simpa [get,readinessFields,get_cons] using verified
  · exact full
  · exact ⟨checkedAt,issued,by simp [get,readinessFields,get_cons,awareMoment_isoformat zoned range],late,order⟩
  · have known : ownSummary packet eligibility = chosen eligibility summaryKeys := by
      rw [ownSummary,summary]
      refine known_chosen fun name listed => ?_
      have typed : ∃ kind, (name,kind) ∈ eligibilitySchema := by
        revert name
        simp [summaryKeys,eligibilitySchema]
      exact shows_held schema_distinct shows_ typed.choose_spec
    rw [known,summary]
    exact ⟨keysAre_chosen _ _,pyEq_refl _ (chosen_json json (by decide))⟩
  · simp [agrees,get,readinessFields,get_cons,plain,same]
  · simpa [get,readinessFields,get_cons] using pyEq_refl _ (mapping_json json)
  · exact ⟨mappingDigest,digested,by simp [get,readinessFields,get_cons]⟩
  · have own : packet.get "required_field_presence" = .dict requiredFieldPresence := by simp [get,readinessFields,get_cons]
    refine ⟨_,own ▸ present,present,by simp [get,readinessFields,get_cons,texts],?_⟩
    rw [own]
    exact pyEq_refl _ presence_json
  · simp [agrees,IntentReadiness.same,summaryIdentities,get,readinessFields,get_cons,plain,same]
  · simp [get,readinessFields,get_cons,texts]
  · exact closed

theorem readiness_built (hex : ∀ text, hexDigest (sha256 text).toList = true)
    (verified : verifyGuardedPromotionEligibilityPacket sha256 (.dict eligibility) = .ok eligibility) (full : SourceFilled eligibility)
    (zoned : aware checkedAt = true) (range : Representable checkedAt)
    (late : awareMoment (eligibility.get "issued_at") = some issued) (order : instant issued ≤ instant checkedAt) :
    ∃ packet, buildExecutionIntentFormationReadinessPacket sha256 (.dict eligibility) checkedAt = .ok packet ∧
      verifyExecutionIntentFormationReadinessPacket sha256 (.dict packet) = .ok packet ∧
      awareMoment (packet.get "checked_at") = some checkedAt ∧ packet.get "source_eligibility_packet" = .dict eligibility ∧
      packet.get "source_to_execution_intent_mapping" = .dict (mappingOf eligibility) := by
  obtain ⟨_,json,shows_,_⟩ := eligibility_verified verified
  obtain ⟨text,_,digested⟩ := domainDigest_json sha256 mappingDomain (mapping_json json)
  have sealable : readinessSeal.Sealable (readinessFields checkedAt eligibility (sha256 text)) := by
    refine sealable_names (show (readinessFields checkedAt eligibility (sha256 text)).map Prod.fst = fieldNames.map Key.str from rfl) names_distinct ?_
    have plain (name : String) : isJson (untupled (eligibility.get name)) = true := by
      rw [untupled_json_self (isJson_get json name)]
      exact isJson_get json name
    simp [readinessFields,plain,json,chosen_json json (show summaryKeys.Nodup by decide),mapping_json json,presence_json]
  obtain ⟨digest,packet,hashed,read,closed,get⟩ := sealed_made sha256 invalid hex readinessSchema_distinct sealable (.refl _)
    fun digest hexed => readiness_shows shows_ checkedAt (hex text) hexed
  have get : ∀ name, name ≠ "readiness_id" → name ≠ "readiness_hash" →
      packet.get name = untupled ((readinessFields checkedAt eligibility (sha256 text)).get name) := get
  have readied := readied_made verified full zoned range late order digested closed get
  have passed : checkReadiness sha256 packet = .ok () := checkReadiness_ok.mpr ⟨_,readied⟩
  refine ⟨packet,?_,bind_ok.mpr ⟨_,readPacket_self readinessSchema_distinct read,except_then_ok.mpr ⟨passed,rfl⟩⟩,
    by simp [get,readinessFields,get_cons,awareMoment_isoformat zoned range],by simp [get,readinessFields,get_cons],
    by simp [get,readinessFields,get_cons]⟩
  unfold buildExecutionIntentFormationReadinessPacket
  simp only [bind_ok,exists_unit,orRefuse_ok,refuseWhen_ok,verifiedEligibility_ok,decide_eq_false_iff_not,Int.not_lt,Bool.not_eq_false']
  refine ⟨zoned,_,jsonValue_self _ json,_,⟨verified,full⟩,_,late,order,_,digested,_,hashed,?_⟩
  exact bind_ok.mpr ⟨_,read,except_then_ok.mpr ⟨passed,rfl⟩⟩

end Facts

end VeritasOs.IntentReadiness
