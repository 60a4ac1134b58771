import VeritasOs.PreBindValidation

namespace VeritasOs.BindAdjudication
open JsonText DateTime PacketModel CanonicalHandoff GuardedPromotion IntentReadiness IntentFormation PreBindValidation

def formatVersion : String := "canonical-bind-preflight-adjudication/v1"
def adjudicationMechanism : String := "adjudicate_bind_preflight_locally/v1"
def localChecksDomain : String := "veritas.bind-preflight-adjudication.local-checks/v1"
def entryRequirementsDomain : String := "veritas.bind-preflight-adjudication.entry-requirements/v1"

def sourcePreBindValidationSummaryKeys : List String :=
  ["pre_bind_validation_id","pre_bind_validation_hash","format_version","validation_mechanism","checked_at","execution_intent_id",
   "execution_intent_hash","pre_bind_status","ready_for_bind_preflight"]

def localAdjudicationChecks : Dict :=
  allTrue ["pre_bind_validation_verified","execution_intent_hash_verified","execution_intent_id_verified","source_formation_verified",
    "field_mapping_verified","required_field_presence_verified","evidence_refs_non_empty","decision_timestamp_timezone_aware",
    "adjudicated_after_pre_bind_validation","ttl_locally_well_formed","no_bind_invocation","no_adapter_invocation",
    "no_bind_receipt_created","no_trustlog_write","no_live_state_check","no_runtime_risk_check"]

def bindEntryRequirements : Dict :=
  allTrue ["adapter_required","adapter_snapshot_required","adapter_authority_revalidation_required",
    "adapter_constraint_validation_required","runtime_risk_assessment_required","commit_boundary_evaluation_required",
    "postcondition_verification_required","rollback_or_revert_path_required","bind_receipt_required","trustlog_policy_required"]

def scopeLimitations : List String :=
  ["NOT_EXECUTION_AUTHORITY","NOT_BIND_AUTHORIZATION","NOT_BIND_RECEIPT","NOT_BIND_INVOCATION","NOT_ADAPTER_INVOCATION",
   "NOT_EXTERNAL_EFFECT","NOT_OPERATION_COMMIT","NOT_TRUSTLOG_WRITE","NOT_LIVE_STATE_CHECK","NOT_RUNTIME_RISK_ACCEPTANCE",
   "NOT_AUTHORITY_REVALIDATION","NOT_CONSTRAINT_REVALIDATION","NOT_POSTCONDITION_VERIFICATION","NOT_ROLLBACK_PROOF",
   "NOT_AUTHORITY_EVIDENCE","NOT_HUMAN_APPROVAL"]

def adjudicationSeal : Seal where
  domain := "veritas.bind-preflight-adjudication.packet/v1"
  idField := "bind_preflight_adjudication_id"
  hashField := "bind_preflight_adjudication_hash"
  head := "bpa:v1:sha256:"
  hashMismatch := "BPA_PACKET_HASH_MISMATCH"
  idMismatch := "BPA_PACKET_ID_MISMATCH"

-- CanonicalBindPreflightAdjudicationPacket
def adjudicationSchema : Schema :=
  [("format_version",.literal (.str formatVersion)),("bind_preflight_adjudication_id",.hashed "bpa:v1:sha256:"),
   ("bind_preflight_adjudication_hash",.hashed ""),("adjudication_mechanism",.literal (.str adjudicationMechanism)),
   ("adjudicated_at",.text),("source_pre_bind_validation",.mapping),("source_pre_bind_validation_hash",.hashed ""),
   ("source_pre_bind_validation_packet",.mapping),("source_formation_hash",.hashed ""),("source_readiness_hash",.hashed ""),
   ("source_eligibility_hash",.hashed ""),("source_handoff_hash",.hashed ""),("trusted_validation_context_hash",.hashed ""),
   ("validation_result_hash",.hashed ""),("mapping_value_digest",.hashed ""),("execution_intent_contract_version",.text),
   ("execution_intent",.mapping),("execution_intent_id",.hashed "ei:v1:sha256:"),("execution_intent_hash",.hashed ""),
   ("bind_preflight_status",.literal (.str "READY_FOR_BIND_ADJUDICATION")),("ready_for_bind_adjudication",.literal (.bool true)),
   ("fail_closed",.literal (.bool false)),("local_adjudication_checks",.flags),("bind_entry_requirements",.flags),
   ("source_to_execution_intent_mapping",.mapping),("field_mapping_proof",.mapping),("required_field_presence",.textMapping),
   ("source_decision_identity",.mapping),("candidate_identity",.mapping),("evidence_lineage",.mapping),("replay_summary",.mapping),
   ("scope_limitations",.texts)]

def copied : List String :=
  ["source_formation_hash","source_readiness_hash","source_eligibility_hash","source_handoff_hash","trusted_validation_context_hash",
   "validation_result_hash","mapping_value_digest","execution_intent_contract_version","execution_intent","execution_intent_id",
   "execution_intent_hash","source_to_execution_intent_mapping","field_mapping_proof","required_field_presence",
   "source_decision_identity","candidate_identity","evidence_lineage","replay_summary"]

def adjudicatedIntent (raw : Dict) : Packet Dict := do
  refuseWhen (!keysAre intentNames raw) "BPA_EXECUTION_INTENT_FIELD_MISMATCH"
  refuseWhen (!refsFilled (raw.get "evidence_refs")) "BPA_EVIDENCE_REFS_INVALID"
  let _ ← orRefuse "BPA_DECISION_TS_INVALID" (awareMoment (raw.get "decision_ts"))
  refuseWhen (!ttlFine (raw.get "ttl_seconds")) "BPA_TTL_INVALID"
  sameShape raw "BPA_EXECUTION_INTENT_FIELD_MISMATCH"

section Packets
variable (sha256 : String → String)

def verifiedPreBind (value : Value) : Packet Dict :=
  refusing [.typeError,.valueError] "BPA_PRE_BIND_VALIDATION_INVALID" (verifyExecutionIntentPreBindValidationPacket sha256 value)

def invalid : String := "BPA_PACKET_INVALID"

def checkAdjudication (candidate : Dict) : Packet Unit := do
  let source ← verifiedPreBind sha256 (candidate.get "source_pre_bind_validation_packet")
  refuseWhen (!keysAre sourcePreBindValidationSummaryKeys (sectionOf candidate "source_pre_bind_validation")) "BPA_PRE_BIND_VALIDATION_INVALID"
  refuseWhen (!pyEq (candidate.get "source_pre_bind_validation") (.dict (chosen source sourcePreBindValidationSummaryKeys)))
    "BPA_PRE_BIND_VALIDATION_INVALID"
  let adjudicated ← orRefuse "BPA_ADJUDICATED_AT_INVALID" (awareMoment (candidate.get "adjudicated_at"))
  let checked ← orRefuse "BPA_PRE_BIND_VALIDATION_INVALID" (awareMoment (source.get "checked_at"))
  refuseWhen (decide (instant adjudicated < instant checked)) "BPA_ADJUDICATED_BEFORE_PRE_BIND_CHECKED"
  refuseWhen (!agrees candidate source (("source_pre_bind_validation_hash","pre_bind_validation_hash") :: same copied)) "BPA_MAPPING_MISMATCH"
  let intent ← adjudicatedIntent (sectionOf candidate "execution_intent")
  let mapping := chosen (sectionOf candidate "execution_intent") executionIntentFields
  refuseWhen (!pyEq (candidate.get "execution_intent_id") (intent.get "execution_intent_id")) "BPA_EXECUTION_INTENT_ID_MISMATCH"
  let digest ← escaping (hashExecutionIntent sha256 intent)
  refuseWhen (candidate.get "execution_intent_hash" != .str digest) "BPA_EXECUTION_INTENT_HASH_MISMATCH"
  refuseWhen (!pyEq (candidate.get "source_to_execution_intent_mapping") (.dict mapping)) "BPA_MAPPING_MISMATCH"
  refuseWhen (!pyEq (candidate.get "field_mapping_proof") (.dict mapping)) "BPA_FIELD_MAPPING_PROOF_MISMATCH"
  refuseWhen (!pyEq (candidate.get "local_adjudication_checks") (.dict localAdjudicationChecks)) "BPA_LOCAL_CHECKS_MISMATCH"
  refuseWhen (!pyEq (candidate.get "bind_entry_requirements") (.dict bindEntryRequirements)) "BPA_ENTRY_REQUIREMENTS_MISMATCH"
  let _ ← orRefuse invalid (domainDigest sha256 localChecksDomain (candidate.get "local_adjudication_checks"))
  let _ ← orRefuse invalid (domainDigest sha256 entryRequirementsDomain (candidate.get "bind_entry_requirements"))
  refuseWhen (candidate.get "scope_limitations" != texts scopeLimitations) "BPA_SCOPE_LIMITATIONS_MISSING"
  adjudicationSeal.check sha256 invalid candidate

def verifyCanonicalBindPreflightAdjudicationPacket (packet : Value) : Packet Dict := do
  let candidate ← readPacket invalid adjudicationSchema packet
  checkAdjudication sha256 candidate
  .ok candidate

def sourceFields (adjudicatedAt : Moment) (source : Dict) : Dict :=
  [(.str "format_version",.str formatVersion),(.str "adjudication_mechanism",.str adjudicationMechanism),
   (.str "adjudicated_at",.str (isoformat adjudicatedAt)),
   (.str "source_pre_bind_validation",.dict (chosen source sourcePreBindValidationSummaryKeys)),
   (.str "source_pre_bind_validation_hash",source.get "pre_bind_validation_hash"),(.str "source_pre_bind_validation_packet",.dict source)]

def statusFields : Dict :=
  [(.str "bind_preflight_status",.str "READY_FOR_BIND_ADJUDICATION"),(.str "ready_for_bind_adjudication",.bool true),
   (.str "fail_closed",.bool false),(.str "local_adjudication_checks",.dict localAdjudicationChecks),
   (.str "bind_entry_requirements",.dict bindEntryRequirements)]

def adjudicationFields (adjudicatedAt : Moment) (source : Dict) : Dict :=
  sourceFields adjudicatedAt source ++ chosen source copied ++ statusFields ++
    [(.str "scope_limitations",.tuple (scopeLimitations.map .str))]

def buildCanonicalBindPreflightAdjudicationPacket (preBindValidationPacket : Value) (adjudicatedAt : Moment) : Packet Dict := do
  refuseWhen (!aware adjudicatedAt) "BPA_ADJUDICATED_AT_INVALID"
  let copied ← orRefuse invalid (jsonValue preBindValidationPacket)
  let source ← verifiedPreBind sha256 copied
  let checked ← orRefuse "BPA_PRE_BIND_VALIDATION_INVALID" (awareMoment (source.get "checked_at"))
  refuseWhen (decide (instant adjudicatedAt < instant checked)) "BPA_ADJUDICATED_BEFORE_PRE_BIND_CHECKED"
  let fields := adjudicationFields adjudicatedAt source
  let digest ← orRefuse invalid (adjudicationSeal.packetHash sha256 fields)
  verifyCanonicalBindPreflightAdjudicationPacket sha256 (.dict (adjudicationSeal.sealed fields digest))

end Packets

theorem adjudicationSchema_distinct : (adjudicationSchema.map Prod.fst).Nodup := by decide

structure Adjudicable (raw intent : Dict) : Prop where
  keys : keysAre intentNames raw = true
  refs : refsFilled (raw.get "evidence_refs") = true
  dated : (awareMoment (raw.get "decision_ts")).isSome = true
  ttl : ttlFine (raw.get "ttl_seconds") = true
  shaped : Shaped raw intent

structure Adjudicated (sha256 : String → String) (candidate source intent : Dict) : Prop where
  source_ : verifyExecutionIntentPreBindValidationPacket sha256 (candidate.get "source_pre_bind_validation_packet") = .ok source
  summary : keysAre sourcePreBindValidationSummaryKeys (sectionOf candidate "source_pre_bind_validation") = true ∧
    pyEq (candidate.get "source_pre_bind_validation") (.dict (chosen source sourcePreBindValidationSummaryKeys)) = true
  order : ∃ adjudicated checked, awareMoment (candidate.get "adjudicated_at") = some adjudicated ∧
    awareMoment (source.get "checked_at") = some checked ∧ instant checked ≤ instant adjudicated
  kept : agrees candidate source (("source_pre_bind_validation_hash","pre_bind_validation_hash") :: same copied) = true
  intent_ : Adjudicable (sectionOf candidate "execution_intent") intent
  named : pyEq (candidate.get "execution_intent_id") (intent.get "execution_intent_id") = true
  hashed : ∃ digest, hashExecutionIntent sha256 intent = .ok digest ∧ candidate.get "execution_intent_hash" = .str digest
  mapping : pyEq (candidate.get "source_to_execution_intent_mapping")
    (.dict (chosen (sectionOf candidate "execution_intent") executionIntentFields)) = true
  proof : pyEq (candidate.get "field_mapping_proof") (.dict (chosen (sectionOf candidate "execution_intent") executionIntentFields)) = true
  checks : pyEq (candidate.get "local_adjudication_checks") (.dict localAdjudicationChecks) = true
  requirements : pyEq (candidate.get "bind_entry_requirements") (.dict bindEntryRequirements) = true
  digested : ∃ own entry, domainDigest sha256 localChecksDomain (candidate.get "local_adjudication_checks") = some own ∧
    domainDigest sha256 entryRequirementsDomain (candidate.get "bind_entry_requirements") = some entry
  scope : candidate.get "scope_limitations" = texts scopeLimitations
  closed : adjudicationSeal.check sha256 invalid candidate = .ok ()

section Facts
variable {sha256 : String → String}

theorem adjudicatedIntent_ok : adjudicatedIntent raw = .ok intent ↔ Adjudicable raw intent := by
  unfold adjudicatedIntent
  simp only [bind_ok,exists_unit,refuseWhen_ok,orRefuse_ok,sameShape_ok,Bool.not_eq_false']
  constructor
  · rintro ⟨keys,refs,moment,dated,ttl,shaped⟩
    exact ⟨keys,refs,by rw [dated]; rfl,ttl,shaped⟩
  · rintro ⟨keys,refs,dated,ttl,shaped⟩
    obtain ⟨moment,known⟩ := Option.isSome_iff_exists.mp dated
    exact ⟨keys,refs,moment,known,ttl,shaped⟩

theorem checkAdjudication_ok :
    checkAdjudication sha256 candidate = .ok () ↔ ∃ source intent, Adjudicated sha256 candidate source intent := by
  unfold checkAdjudication verifiedPreBind
  simp only [bind_ok,exists_unit,orRefuse_ok,refuseWhen_ok,refusing_ok,escaping_ok,adjudicatedIntent_ok,decide_eq_false_iff_not,
    Int.not_lt,Bool.not_eq_false',bne_eq_false_iff_eq]
  constructor
  · rintro ⟨source,verified,keys,summary,adjudicated,read,checked,known,order,kept,intent,made,named,digest,hashed,stated,mapping,proof,checks,
      requirements,own,local_,entry,required,scope,closed⟩
    exact ⟨source,intent,verified,⟨keys,summary⟩,⟨adjudicated,checked,read,known,order⟩,kept,made,named,⟨digest,hashed,stated⟩,mapping,proof,
      checks,requirements,⟨own,entry,local_,required⟩,scope,closed⟩
  · rintro ⟨source,intent,verified,⟨keys,summary⟩,⟨adjudicated,checked,read,known,order⟩,kept,made,named,⟨digest,hashed,stated⟩,mapping,proof,
      checks,requirements,⟨own,entry,local_,required⟩,scope,closed⟩
    exact ⟨source,verified,keys,summary,adjudicated,read,checked,known,order,kept,intent,made,named,digest,hashed,stated,mapping,proof,checks,
      requirements,own,local_,entry,required,scope,closed⟩

theorem adjudication_verified (verified : verifyCanonicalBindPreflightAdjudicationPacket sha256 packet = .ok candidate) :
    readPacket invalid adjudicationSchema packet = .ok candidate ∧ isJson (.dict candidate) = true ∧ Shows adjudicationSchema candidate ∧
      ∃ source intent, Adjudicated sha256 candidate source intent := by
  obtain ⟨shown,read,checked⟩ := bind_ok.mp verified
  obtain ⟨passed,same⟩ := except_then_ok.mp checked
  obtain rfl := Except.ok.inj same
  exact ⟨read,(readPacket_ok adjudicationSchema_distinct read).1,(readPacket_ok adjudicationSchema_distinct read).2,checkAdjudication_ok.mp passed⟩

def fieldNames : List String :=
  ["format_version","adjudication_mechanism","adjudicated_at","source_pre_bind_validation","source_pre_bind_validation_hash",
   "source_pre_bind_validation_packet"] ++ copied ++
  ["bind_preflight_status","ready_for_bind_adjudication","fail_closed","local_adjudication_checks","bind_entry_requirements",
   "scope_limitations"]

theorem names_distinct : (adjudicationSeal.idField :: adjudicationSeal.hashField :: fieldNames).Nodup := by decide

theorem checks_json : isJson (.dict localAdjudicationChecks) = true ∧ isJson (.dict bindEntryRequirements) = true := by decide +kernel

theorem checks_read : readFlags localAdjudicationChecks = some localAdjudicationChecks ∧
    readFlags bindEntryRequirements = some bindEntryRequirements := ⟨rfl,rfl⟩

def arrangedFields (adjudicatedAt : Moment) (source : Dict) : Dict :=
  sourceFields adjudicatedAt source ++ chosen source (copied.take 11) ++ statusFields ++ chosen source (copied.drop 11) ++
    [(.str "scope_limitations",.list (scopeLimitations.map .str))]

theorem chosen_append (source : Dict) (first second : List String) : chosen source (first ++ second) = chosen source first ++ chosen source second := by
  simp [chosen]

variable {source mapping : Dict}

theorem untupled_chosen (json : isJson (.dict source) = true) (names : List String) :
    untupledFields (chosen source names) = chosen source names := by
  rw [untupledFields,chosen,List.map_map]
  refine List.map_congr_left fun name _ => ?_
  rw [Function.comp_apply,untupled_json_self (isJson_get json name)]

theorem fields_arranged (json : isJson (.dict source) = true) (adjudicatedAt : Moment) :
    (arrangedFields adjudicatedAt source).Perm (untupledFields (adjudicationFields adjudicatedAt source)) := by
  have head : untupledFields (sourceFields adjudicatedAt source) = sourceFields adjudicatedAt source := by
    simp [untupledFields,sourceFields,untupled_json_self (isJson_get json "pre_bind_validation_hash")]
  have flat : untupledFields (adjudicationFields adjudicatedAt source) = sourceFields adjudicatedAt source ++ chosen source copied ++ statusFields ++
      [(.str "scope_limitations",.list (scopeLimitations.map .str))] := by
    have split (a b : Dict) : untupledFields (a ++ b) = untupledFields a ++ untupledFields b := by simp [untupledFields]
    rw [adjudicationFields,split,split,split,head,untupled_chosen json]
    rfl
  have halves : chosen source copied = chosen source (copied.take 11) ++ chosen source (copied.drop 11) := by
    rw [← chosen_append,List.take_append_drop]
  rw [flat,halves,arrangedFields]
  refine List.Perm.append_right _ ?_
  simp only [List.append_assoc]
  refine List.Perm.append_left _ (List.Perm.append_left _ ?_)
  exact List.perm_append_comm

theorem adjudication_shows (shows_ : Shows preBindSchema source) (adjudicatedAt : Moment) (hexed : hexDigest digest.toList = true) :
    Shows adjudicationSchema (adjudicationSeal.placed (arrangedFields adjudicatedAt source) digest) := by
  have whole : hashed "" digest = true := by simpa [hashed] using hexed
  have headed : hashed "bpa:v1:sha256:" ("bpa:v1:sha256:" ++ digest) = true := hashed_digest hexed
  have hashes := shows_hashes preBindSchema_distinct shows_ (show ∀ name ∈ ["pre_bind_validation_hash","source_formation_hash",
    "source_readiness_hash","source_eligibility_hash","source_handoff_hash","trusted_validation_context_hash","validation_result_hash",
    "mapping_value_digest","execution_intent_hash"], (name,FieldType.hashed "") ∈ preBindSchema by decide)
  have sections := shows_mappings preBindSchema_distinct shows_ (show ∀ name ∈ ["execution_intent","source_to_execution_intent_mapping",
    "field_mapping_proof","source_decision_identity","candidate_identity","evidence_lineage","replay_summary"],
    (name,FieldType.mapping) ∈ preBindSchema by decide)
  obtain ⟨_,version⟩ := accepts_text (shows_get preBindSchema_distinct shows_
    (show ("execution_intent_contract_version",FieldType.text) ∈ preBindSchema by decide))
  obtain ⟨_,identity,identified⟩ := accepts_hashed (shows_get preBindSchema_distinct shows_
    (show ("execution_intent_id",FieldType.hashed "ei:v1:sha256:") ∈ preBindSchema by decide))
  obtain ⟨_,presence,present⟩ := accepts_textMapping (shows_get preBindSchema_distinct shows_
    (show ("required_field_presence",FieldType.textMapping) ∈ preBindSchema by decide))
  simp only [List.forall_mem_cons,List.not_mem_nil,IsEmpty.forall_iff,implies_true,and_true] at hashes sections
  obtain ⟨⟨_,own,ownHashed⟩,⟨_,formation,formationHashed⟩,⟨_,readiness,readinessHashed⟩,⟨_,eligibility,eligibilityHashed⟩,
    ⟨_,handoff,handoffHashed⟩,⟨_,context,contextHashed⟩,⟨_,result,resultHashed⟩,⟨_,mapped,mappedHashed⟩,⟨_,intentHash,intentHashed⟩⟩ := hashes
  obtain ⟨⟨_,intent⟩,⟨_,mapping⟩,⟨_,proof⟩,⟨_,source_⟩,⟨_,candidate⟩,⟨_,evidence⟩,⟨_,replay⟩⟩ := sections
  simp [Shows,adjudicationSchema,adjudicationSeal,Seal.placed,arrangedFields,sourceFields,statusFields,copied,chosen,FieldType.read,
    FieldType.accepts,own,ownHashed,formation,formationHashed,readiness,readinessHashed,eligibility,eligibilityHashed,handoff,handoffHashed,
    context,contextHashed,result,resultHashed,mapped,mappedHashed,intentHash,intentHashed,intent,mapping,proof,source_,candidate,evidence,
    replay,version,identity,identified,presence,present,whole,headed,Value.asDict?,checks_read]

theorem adjudicable_made (intentId : String) (formable : Formable mapping) :
    Adjudicable (executionIntent (.str intentId) mapping) (executionIntent (.str intentId) mapping) := by
  obtain ⟨keys,_,refs,dated,ttl,shaped⟩ := reconstructed_made intentId formable
  exact ⟨keys,refs,dated,ttl,shaped⟩

theorem adjudicated_made (verified : verifyExecutionIntentPreBindValidationPacket sha256 (.dict source) = .ok source)
    (carries : CarriesIntent sha256 source mapping intentId) (formable : Formable mapping)
    (zoned : aware adjudicatedAt = true) (range : Representable adjudicatedAt)
    (early : awareMoment (source.get "checked_at") = some checked) (order : instant checked ≤ instant adjudicatedAt)
    (closed : adjudicationSeal.check sha256 invalid packet = .ok ())
    (get : ∀ name, name ≠ "bind_preflight_adjudication_id" → name ≠ "bind_preflight_adjudication_hash" → packet.get name = untupled ((adjudicationFields adjudicatedAt source).get name)) :
    Adjudicated sha256 packet source (executionIntent (.str intentId) mapping) := by
  obtain ⟨_,json,_⟩ := preBind_verified verified
  have plain (name : String) : untupled (source.get name) = source.get name := untupled_json_self (isJson_get json name)
  have same (name : String) : pyEq (source.get name) (source.get name) = true := pyEq_refl _ (isJson_get json name)
  have fields : adjudicationFields adjudicatedAt source = sourceFields adjudicatedAt source ++ chosen source copied ++ statusFields ++
    [(.str "scope_limitations",.tuple (scopeLimitations.map .str))] := rfl
  simp only [fields,sourceFields,statusFields,copied,chosen,List.map_cons,List.map_nil,List.cons_append,List.nil_append] at get
  have raw : sectionOf packet "execution_intent" = executionIntent (.str intentId) mapping := by
    simp [sectionOf,get,get_cons,carries.intent,Value.asDict?]
  have own : (executionIntent (.str intentId) mapping).get "execution_intent_id" = .str intentId := by rw [executionIntent,get_cons,if_pos rfl]
  have summary : packet.get "source_pre_bind_validation" = .dict (chosen source sourcePreBindValidationSummaryKeys) := by
    simp [get,get_cons,chosen]
  obtain ⟨digest,hashed_,stated⟩ := carries.hashed
  have proof := pyEq_refl _ formable.json
  obtain ⟨_,_,local_⟩ := domainDigest_json sha256 localChecksDomain checks_json.1
  obtain ⟨_,_,entry⟩ := domainDigest_json sha256 entryRequirementsDomain checks_json.2
  constructor
  · simpa [get,get_cons] using verified
  · rw [sectionOf,summary]
    exact ⟨keysAre_chosen _ _,pyEq_refl _ (chosen_json json (by decide))⟩
  · exact ⟨adjudicatedAt,checked,by simp [get,get_cons,awareMoment_isoformat zoned range],early,order⟩
  · simp [agrees,IntentReadiness.same,copied,get,get_cons,plain,same]
  · rw [raw]
    exact adjudicable_made intentId formable
  · rw [own]
    simpa [get,get_cons,carries.named] using pyEq_refl (.str intentId) rfl
  · exact ⟨digest,hashed_,by simp [get,get_cons,stated]⟩
  · rw [raw,chosen_intent _ formable]
    simpa [get,get_cons,carries.mapped] using proof
  · rw [raw,chosen_intent _ formable]
    simpa [get,get_cons,carries.proof] using proof
  · simpa [get,get_cons] using pyEq_refl _ checks_json.1
  · simpa [get,get_cons] using pyEq_refl _ checks_json.2
  · exact ⟨_,_,by simpa [get,get_cons] using local_,by simpa [get,get_cons] using entry⟩
  · simp [get,get_cons,texts]
  · exact closed

theorem adjudication_built (hex : ∀ text, hexDigest (sha256 text).toList = true)
    (verified : verifyExecutionIntentPreBindValidationPacket sha256 (.dict source) = .ok source)
    (carries : CarriesIntent sha256 source mapping intentId) (formable : Formable mapping)
    (zoned : aware adjudicatedAt = true) (range : Representable adjudicatedAt)
    (early : awareMoment (source.get "checked_at") = some checked) (order : instant checked ≤ instant adjudicatedAt) :
    ∃ packet, buildCanonicalBindPreflightAdjudicationPacket sha256 (.dict source) adjudicatedAt = .ok packet ∧
      verifyCanonicalBindPreflightAdjudicationPacket sha256 (.dict packet) = .ok packet ∧
      awareMoment (packet.get "adjudicated_at") = some adjudicatedAt ∧ packet.get "source_pre_bind_validation_packet" = .dict source ∧
      packet.get "execution_intent_id" = source.get "execution_intent_id" := by
  obtain ⟨_,json,shows_,_⟩ := preBind_verified verified
  have sealable : adjudicationSeal.Sealable (adjudicationFields adjudicatedAt source) := by
    have keys : (adjudicationFields adjudicatedAt source).map Prod.fst = fieldNames.map Key.str := by
      simp [adjudicationFields,sourceFields,statusFields,chosen,fieldNames]
    refine sealable_names keys names_distinct ?_
    have plain (name : String) : isJson (untupled (source.get name)) = true := by
      rw [untupled_json_self (isJson_get json name)]
      exact isJson_get json name
    have summary : isJson (.dict (chosen source sourcePreBindValidationSummaryKeys)) = true := chosen_json json (by decide)
    have each : ∀ member ∈ chosen source copied, isJson (untupled member.2) = true := by
      intro member listed
      obtain ⟨name,_,rfl⟩ := List.mem_map.mp listed
      exact plain name
    simp only [adjudicationFields,List.forall_mem_append]
    exact ⟨⟨⟨by simp [sourceFields,plain,json,summary],each⟩,by simp [statusFields,checks_json]⟩,by simp⟩
  obtain ⟨digest,packet,sealed_,read,closed,get⟩ := sealed_made sha256 invalid hex adjudicationSchema_distinct sealable
    (fields_arranged json adjudicatedAt) fun digest hexed => adjudication_shows shows_ adjudicatedAt hexed
  have get : ∀ name, name ≠ "bind_preflight_adjudication_id" → name ≠ "bind_preflight_adjudication_hash" →
      packet.get name = untupled ((adjudicationFields adjudicatedAt source).get name) := get
  have adjudicated := adjudicated_made verified carries formable zoned range early order closed get
  have passed : checkAdjudication sha256 packet = .ok () := checkAdjudication_ok.mpr ⟨_,_,adjudicated⟩
  refine ⟨packet,?_,bind_ok.mpr ⟨_,readPacket_self adjudicationSchema_distinct read,except_then_ok.mpr ⟨passed,rfl⟩⟩,
    by simp [get,adjudicationFields,sourceFields,get_cons,awareMoment_isoformat zoned range],
    by simp [get,adjudicationFields,sourceFields,get_cons],
    by simp [get,adjudicationFields,sourceFields,copied,chosen,get_cons,carries.named]⟩
  unfold buildCanonicalBindPreflightAdjudicationPacket verifiedPreBind
  simp only [bind_ok,exists_unit,orRefuse_ok,refuseWhen_ok,refusing_ok,decide_eq_false_iff_not,Int.not_lt,Bool.not_eq_false']
  refine ⟨zoned,_,jsonValue_self _ json,_,verified,_,early,order,_,sealed_,?_⟩
  exact bind_ok.mpr ⟨_,read,except_then_ok.mpr ⟨passed,rfl⟩⟩

end Facts

def preBindPacket (packet : Dict) : Dict := sectionOf packet "source_pre_bind_validation_packet"
def formationPacket (packet : Dict) : Dict := sectionOf (preBindPacket packet) "source_formation_packet"
def readinessPacket (packet : Dict) : Dict := sectionOf (formationPacket packet) "source_readiness_packet"
def eligibilityPacket (packet : Dict) : Dict := sectionOf (readinessPacket packet) "source_eligibility_packet"
def handoffOf (packet : Dict) : Dict := sectionOf (eligibilityPacket packet) "source_handoff"
def actionParameters (packet : Dict) : Value := (actionSection (handoffOf packet)).get "parameters"

def Accepted (verify : Value → Packet Dict) (packet : Dict) : Prop := ∃ shown, verify (.dict packet) = .ok shown

structure Timeline (packet : Dict) (evaluated issued checked formed validated adjudicated : Moment) : Prop where
  evaluatedAt : awareMoment ((eligibilityPacket packet).get "evaluated_at") = some evaluated
  issuedAt : awareMoment ((eligibilityPacket packet).get "issued_at") = some issued
  checkedAt : awareMoment ((readinessPacket packet).get "checked_at") = some checked
  formedAt : awareMoment ((formationPacket packet).get "formed_at") = some formed
  validatedAt : awareMoment ((preBindPacket packet).get "checked_at") = some validated
  adjudicatedAt : awareMoment (packet.get "adjudicated_at") = some adjudicated
  order : instant evaluated ≤ instant issued ∧ instant issued ≤ instant checked ∧ instant checked ≤ instant formed ∧
    instant formed ≤ instant validated ∧ instant validated ≤ instant adjudicated

structure IntentMapped (packet : Dict) (found : Identities) : Prop where
  identified : identities (.dict (handoffOf packet)) = .ok found
  keys : keysAre intentNames (sectionOf packet "execution_intent") = true
  fields : ∀ name ∈ executionIntentFields, pyEq ((sectionOf packet "execution_intent").get name)
    ((mapping found.source found.candidate found.evidence).get name) = true

structure Closed (sha256 : String → String) (packet : Dict) : Prop where
  preBind : Accepted (verifyExecutionIntentPreBindValidationPacket sha256) (preBindPacket packet)
  formation : Accepted (verifyCanonicalExecutionIntentFormationPacket sha256) (formationPacket packet)
  readiness : Accepted (verifyExecutionIntentFormationReadinessPacket sha256) (readinessPacket packet)
  eligibility : Accepted (verifyGuardedPromotionEligibilityPacket sha256) (eligibilityPacket packet)
  timed : ∃ context evaluated issued checked formed validated adjudicated,
    Timeline packet evaluated issued checked formed validated adjudicated ∧
      contextFromJson ((eligibilityPacket packet).get "trusted_validation_context") = some context ∧
      IsReady sha256 (.dict (handoffOf packet)) context evaluated
  mapped : ∃ found, IntentMapped packet found
  hashed : ∃ digest, hashExecutionIntent sha256 (executionIntent ((sectionOf packet "execution_intent").get "execution_intent_id")
      (sectionOf packet "execution_intent")) = .ok digest ∧ packet.get "execution_intent_hash" = .str digest

section Chain
variable {sha256 : String → String}

variable {name : String} {packet preBind formation readiness eligibility : Dict}

theorem section_embedded (distinct : (schema.map Prod.fst).Nodup)
    (json : isJson (.dict raw) = true) (read : readPacket code schema (.dict raw) = .ok shown)
    (listed : (name,FieldType.mapping) ∈ schema) : shown.get name = .dict (sectionOf raw name) := by
  obtain ⟨members,held⟩ := accepts_mapping (shows_get distinct (readPacket_ok distinct read).2 listed)
  rw [held,sectionOf,← readPacket_get distinct json read listed (by simp),held]
  rfl

theorem section_shown (distinct : (schema.map Prod.fst).Nodup) (shows_ : Shows schema shown)
    (listed : (name,FieldType.mapping) ∈ schema) : shown.get name = .dict (sectionOf shown name) := by
  obtain ⟨members,held⟩ := accepts_mapping (shows_get distinct shows_ listed)
  rw [sectionOf,held]
  rfl

structure Chain (sha256 : String → String) (packet preBind formation readiness eligibility : Dict) : Prop where
  json : isJson (.dict packet) = true
  shown : Shows adjudicationSchema packet
  preBound : verifyExecutionIntentPreBindValidationPacket sha256 (.dict (preBindPacket packet)) = .ok preBind
  formed : verifyCanonicalExecutionIntentFormationPacket sha256 (.dict (formationPacket packet)) = .ok formation
  readied : verifyExecutionIntentFormationReadinessPacket sha256 (.dict (readinessPacket packet)) = .ok readiness
  eligible : verifyGuardedPromotionEligibilityPacket sha256 (.dict (eligibilityPacket packet)) = .ok eligibility
  preBindJson : isJson (.dict (preBindPacket packet)) = true
  formationJson : isJson (.dict (formationPacket packet)) = true
  readinessJson : isJson (.dict (readinessPacket packet)) = true
  eligibilityJson : isJson (.dict (eligibilityPacket packet)) = true
  handoff : eligibility.get "source_handoff" = .dict (handoffOf packet)
  adjudicated : ∃ intent, Adjudicated sha256 packet preBind intent
  validated : ∃ intent, PreBound sha256 preBind formation intent
  formedBy : ∃ intentId expected reconstructed, Formed sha256 formation readiness intentId expected reconstructed
  readiedBy : Readied sha256 readiness eligibility
  eligibleBy : ∃ context evaluated issued found, Eligible sha256 eligibility context evaluated issued found

theorem chain_embedded (verified : verifyCanonicalBindPreflightAdjudicationPacket sha256 input = .ok packet) :
    ∃ preBind formation readiness eligibility, Chain sha256 packet preBind formation readiness eligibility := by
  obtain ⟨_,json,shows_,preBind,intent,adjudicated⟩ := adjudication_verified verified
  have first := section_shown adjudicationSchema_distinct shows_
    (show ("source_pre_bind_validation_packet",FieldType.mapping) ∈ adjudicationSchema by decide)
  have preBound := adjudicated.source_
  rw [first] at preBound
  have preBindJson := sectionOf_json json "source_pre_bind_validation_packet"
  obtain ⟨read,_,_,formation,again,validated⟩ := preBind_verified preBound
  have formed := validated.source
  rw [section_embedded preBindSchema_distinct preBindJson read (by decide)] at formed
  have formationJson := sectionOf_json preBindJson "source_formation_packet"
  obtain ⟨formationRead,_,_,readiness,intentId,expected,reconstructed,formedBy⟩ := formation_verified formed
  have readied := formedBy.source
  rw [section_embedded formationSchema_distinct formationJson formationRead (by decide)] at readied
  have readinessJson := sectionOf_json formationJson "source_readiness_packet"
  obtain ⟨readinessRead,_,_,eligibility,readiedBy⟩ := readiness_verified readied
  have eligible := readiedBy.source
  rw [section_embedded readinessSchema_distinct readinessJson readinessRead (by decide)] at eligible
  have eligibilityJson := sectionOf_json readinessJson "source_eligibility_packet"
  obtain ⟨eligibilityRead,_,_,context,evaluated,issued,found,eligibleBy⟩ := eligibility_verified eligible
  have handoff := section_embedded schema_distinct eligibilityJson eligibilityRead
    (show ("source_handoff",FieldType.mapping) ∈ eligibilitySchema by decide)
  exact ⟨preBind,formation,readiness,eligibility,json,shows_,preBound,formed,readied,eligible,preBindJson,formationJson,readinessJson,eligibilityJson,
    handoff,⟨intent,adjudicated⟩,⟨again,validated⟩,⟨intentId,expected,reconstructed,formedBy⟩,readiedBy,⟨context,evaluated,issued,found,eligibleBy⟩⟩

theorem chain_timed (chain : Chain sha256 packet preBind formation readiness eligibility) :
    ∃ context evaluated issued checked formed validated adjudicated,Timeline packet evaluated issued checked formed validated adjudicated ∧
        contextFromJson ((eligibilityPacket packet).get "trusted_validation_context") = some context ∧
        IsReady sha256 (.dict (handoffOf packet)) context evaluated := by
  obtain ⟨intent,adjudicatedBy⟩ := chain.adjudicated
  obtain ⟨again,validatedBy⟩ := chain.validated
  obtain ⟨intentId,expected,reconstructed,formedBy⟩ := chain.formedBy
  obtain ⟨context,evaluated,issued,found,eligibleBy⟩ := chain.eligibleBy
  obtain ⟨adjudicated,validated,adjudicatedAt,validatedAt,last⟩ := adjudicatedBy.order
  obtain ⟨validated',formed,validatedAt',formedAt,fourth⟩ := validatedBy.order
  obtain rfl := Option.some.inj (validatedAt.symm.trans validatedAt')
  obtain ⟨formed',checked,formedAt',checkedAt,third⟩ := formedBy.order
  obtain rfl := Option.some.inj (formedAt.symm.trans formedAt')
  obtain ⟨checked',issued',checkedAt',issuedAt,second⟩ := chain.readiedBy.order
  obtain rfl := Option.some.inj (checkedAt.symm.trans checkedAt')
  obtain rfl := Option.some.inj (issuedAt.symm.trans eligibleBy.late)
  have evaluatedAt := eligibleBy.early
  have contextual := eligibleBy.contextual
  have ready := eligibleBy.ready
  have eligibilityGet {name : String} {kind : FieldType} (listed : (name,kind) ∈ eligibilitySchema) (plain : kind ≠ .flags) :=
    readPacket_get schema_distinct chain.eligibilityJson (eligibility_verified chain.eligible).1 listed plain
  rw [eligibilityGet (show ("evaluated_at",FieldType.text) ∈ eligibilitySchema by decide) (by simp)] at evaluatedAt
  rw [eligibilityGet (show ("issued_at",FieldType.text) ∈ eligibilitySchema by decide) (by simp)] at issuedAt
  rw [eligibilityGet (show ("trusted_validation_context",FieldType.mapping) ∈ eligibilitySchema by decide) (by simp)] at contextual
  rw [chain.handoff] at ready
  rw [readPacket_get readinessSchema_distinct chain.readinessJson (readiness_verified chain.readied).1
    (show ("checked_at",FieldType.text) ∈ readinessSchema by decide) (by simp)] at checkedAt
  rw [readPacket_get formationSchema_distinct chain.formationJson (formation_verified chain.formed).1
    (show ("formed_at",FieldType.text) ∈ formationSchema by decide) (by simp)] at formedAt
  rw [readPacket_get preBindSchema_distinct chain.preBindJson (preBind_verified chain.preBound).1
    (show ("checked_at",FieldType.text) ∈ preBindSchema by decide) (by simp)] at validatedAt
  exact ⟨context,evaluated,_,_,_,_,adjudicated,
    ⟨evaluatedAt,issuedAt,checkedAt,formedAt,validatedAt,adjudicatedAt,eligibleBy.order,second,third,fourth,last⟩,contextual,ready⟩

theorem agrees_field (agree : agrees a b pairs = true)
    (listed : pair ∈ pairs) : pyEq (a.get pair.1) (b.get pair.2) = true := List.all_eq_true.mp agree pair listed

theorem keysAre_held (keys : keysAre names members = true) : ∀ name ∈ names, (lookup (.str name) members).isSome = true := by
  simp only [keysAre,Bool.and_eq_true,List.all_eq_true] at keys
  exact keys.2

theorem expected_get
    (made : intentToDict (executionIntent (.str intentId) own) = .ok expected) (refs : own.get "evidence_refs" = .list items)
    (listed : name ∈ executionIntentFields) : expected.get name = own.get name := by
  have held : lookup (.str "evidence_refs") (executionIntent (.str intentId) own) = some (.list items) := by
    have field : "evidence_refs" ∈ executionIntentFields := by decide
    rw [executionIntent,lookup,if_neg (by decide),lookup_chosen field,refs]
  obtain rfl := Except.ok.inj (made.symm.trans (intentToDict_self held))
  exact executionIntent_get _ _ listed

theorem chain_mapped (chain : Chain sha256 packet preBind formation readiness eligibility) : ∃ found, IntentMapped packet found := by
  obtain ⟨intent,adjudicatedBy⟩ := chain.adjudicated
  obtain ⟨again,validatedBy⟩ := chain.validated
  obtain ⟨intentId,expected,reconstructed,formedBy⟩ := chain.formedBy
  obtain ⟨context,evaluated,issued,found,eligibleBy⟩ := chain.eligibleBy
  have identified := eligibleBy.identified
  have own := mapping_identified chain.readiedBy.filled identified eligibleBy.summaries
  have formable := mapping_formable (eligibility_verified chain.eligible).2.1 chain.readiedBy.filled
  rw [own] at formable
  have mapped := chain.readiedBy.mapping
  rw [own,section_shown readinessSchema_distinct (readiness_verified chain.readied).2.2.1
    (show ("source_to_execution_intent_mapping",FieldType.mapping) ∈ readinessSchema by decide)] at mapped
  have keys := keysAre_held formedBy.mapped
  -- The references of the readiness packet's mapping are a list, as the handoff's are.
  obtain ⟨items,refs,_⟩ := formable.refs
  have listed := pyEq_get mapped (keys "evidence_refs" (by decide))
  rw [refs] at listed
  obtain ⟨others,own_⟩ := pyEq_listed listed
  have carried := pyEq_trans _ (agrees_field adjudicatedBy.kept (show ("execution_intent","execution_intent") ∈ _ by decide)) validatedBy.intent_
  have whole := pyEq_trans _ carried formedBy.intent
  rw [section_shown adjudicationSchema_distinct chain.shown (show ("execution_intent",FieldType.mapping) ∈ adjudicationSchema by decide)] at whole
  have named := keysAre_held adjudicatedBy.intent_.keys
  rw [chain.handoff] at identified
  refine ⟨found,identified,adjudicatedBy.intent_.keys,fun name field => ?_⟩
  have held := pyEq_get whole (named name (List.mem_cons_of_mem _ field))
  rw [expected_get formedBy.expected_ own_ field] at held
  exact pyEq_trans _ held (pyEq_get mapped (keys name field))

theorem chain_hashed (chain : Chain sha256 packet preBind formation readiness eligibility) :
    ∃ digest, hashExecutionIntent sha256 (executionIntent ((sectionOf packet "execution_intent").get "execution_intent_id")
        (sectionOf packet "execution_intent")) = .ok digest ∧ packet.get "execution_intent_hash" = .str digest := by
  obtain ⟨intent,adjudicatedBy⟩ := chain.adjudicated
  have hashed_ := adjudicatedBy.hashed
  rwa [adjudicatedBy.intent_.shaped.made] at hashed_

-- What the identifier of the intent is a digest of, and what the hash of its readiness packet is.
def intentIdPreimage (packet : Dict) : Value := domainDocument executionIntentIdDomain (.dict (intentIdDocument (readinessPacket packet)))
def readinessPreimage (packet : Dict) : Value := domainDocument readinessSeal.domain (.dict (readinessSeal.unsealed (readinessPacket packet)))

structure SameSource (packet other : Dict) : Prop where
  readiness : SameJson (.dict (readinessPacket packet)) (.dict (readinessPacket other))
  handoff : SameJson (.dict (handoffOf packet)) (.dict (handoffOf other))
  parameters : SameJson (actionParameters packet) (actionParameters other)

structure Identified (sha256 : String → String) (packet readiness : Dict) (digest sealed_ : String) : Prop where
  named : packet.get "execution_intent_id" = .str ("ei:v1:sha256:" ++ digest)
  digested : domainDigest sha256 executionIntentIdDomain (.dict (intentIdDocument readiness)) = some digest
  hashed : readinessSeal.packetHash sha256 readiness = some sealed_
  hashField : readiness.get "readiness_hash" = .str sealed_
  idField : readiness.get "readiness_id" = .str ("eifr:v1:sha256:" ++ sealed_)

theorem chain_identified (chain : Chain sha256 packet preBind formation readiness eligibility) :
    ∃ digest sealed_, Identified sha256 packet readiness digest sealed_ := by
  obtain ⟨intent,adjudicatedBy⟩ := chain.adjudicated
  obtain ⟨again,validatedBy⟩ := chain.validated
  obtain ⟨intentId,expected,reconstructed,formedBy⟩ := chain.formedBy
  obtain ⟨made,named⟩ := formedBy.named
  obtain ⟨digest,digested,rfl⟩ := Option.map_eq_some_iff.mp made
  obtain ⟨sealed_,hashed_,hashField,idField⟩ := (Seal.check_ok sha256).mp chain.readiedBy.closed
  have carried := pyEq_trans _ (agrees_field adjudicatedBy.kept (show ("execution_intent_id","execution_intent_id") ∈ _ by decide)) validatedBy.named.2
  rw [named] at carried
  exact ⟨digest,sealed_,(pyEq_str _ _).mp carried,digested,hashed_,hashField,idField⟩

theorem intentIdDocument_raw (chain : Chain sha256 packet preBind formation readiness eligibility) :
    intentIdDocument readiness = intentIdDocument (readinessPacket packet) := by
  have read := (readiness_verified chain.readied).1
  have get {name : String} (listed : ∃ field ∈ readinessSchema, field.1 = name) : readiness.get name = (readinessPacket packet).get name := by
    obtain ⟨field,there,rfl⟩ := listed
    exact readPacket_get readinessSchema_distinct chain.readinessJson read (show (field.1,field.2) ∈ readinessSchema from there)
      (readinessSchema_plain field there)
  unfold intentIdDocument
  rw [get (by decide),get (by decide),get (by decide),get (by decide),get (by decide)]

theorem readiness_raw (chain : Chain sha256 packet preBind formation readiness eligibility) : (readinessPacket packet).Perm readiness :=
  readPacket_perm readinessSchema_distinct readinessSchema_plain chain.readinessJson (readiness_verified chain.readied).1

theorem intentIdDocument_json (json : isJson (.dict readiness) = true) : isJson (.dict (intentIdDocument readiness)) = true := by
  have plain := isJson_get json
  simp [intentIdDocument,isJson,isJsonMembers,Key.isStr,plain]

theorem readiness_same (chain : Chain sha256 packet preBind formation readiness eligibility)
    (chain' : Chain sha256 other preBind' formation' readiness' eligibility')
    (named : Distinguishes sha256 (intentIdPreimage packet) (intentIdPreimage other))
    (sealed_ : Distinguishes sha256 (readinessPreimage packet) (readinessPreimage other))
    (same : packet.get "execution_intent_id" = other.get "execution_intent_id") : SameJson (.dict readiness) (.dict readiness') := by
  obtain ⟨_,json,shows_,_⟩ := readiness_verified chain.readied
  obtain ⟨_,json',shows',_⟩ := readiness_verified chain'.readied
  obtain ⟨digest,hash,own⟩ := chain_identified chain
  obtain ⟨digest',hash',own'⟩ := chain_identified chain'
  have ids : digest = digest' := by
    have equal := Value.str.inj (own.named.symm.trans (same.trans own'.named))
    exact (String.append_right_inj _).mp equal
  subst ids
  rw [intentIdPreimage,intentIdPreimage,← intentIdDocument_raw chain,← intentIdDocument_raw chain'] at named
  have documents := domainDigest_same sha256 (intentIdDocument_json json) (intentIdDocument_json json') own.digested own'.digested named
  have hashes := sameJson_get (intentIdDocument_json json) (intentIdDocument_json json') documents "source_readiness_hash"
  have hashes : SameJson (.str hash) (.str hash') := by
    have first : (intentIdDocument readiness).get "source_readiness_hash" = .str hash := by simp [intentIdDocument,get_cons,own.hashField]
    have second : (intentIdDocument readiness').get "source_readiness_hash" = .str hash' := by simp [intentIdDocument,get_cons,own'.hashField]
    rwa [first,second] at hashes
  obtain rfl := Value.str.inj (sameJson_text hashes)
  have unsealed_ {raw shown : Dict} (json : isJson (.dict raw) = true) (perm : raw.Perm shown) :
      SameJson (domainDocument readinessSeal.domain (.dict (readinessSeal.unsealed raw)))
        (domainDocument readinessSeal.domain (.dict (readinessSeal.unsealed shown))) :=
    document_perm readinessSeal.domain ((isJson_dict _).mp (unsealed_json json)).1 (perm.filter _)
  have apart := distinguishes_same sha256 (unsealed_ chain.readinessJson (readiness_raw chain)) (unsealed_ chain'.readinessJson (readiness_raw chain'))
    sealed_
  have fields := sealed_same sha256 json json' own.hashed own'.hashed apart
  refine shows_same readinessSchema_distinct shows_ shows' fun field listed => ?_
  by_cases id_ : field.1 = "readiness_id"
  · rw [id_,own.idField,own'.idField]
    rfl
  · by_cases hash_ : field.1 = "readiness_hash"
    · rw [hash_,own.hashField,own'.hashField]
      rfl
    · exact fields field.1 id_ hash_

theorem sameJson_section {a b : Dict} (left : isJson (.dict a) = true) (right : isJson (.dict b) = true) (same : SameJson (.dict a) (.dict b))
    (name : String) : SameJson (.dict (sectionOf a name)) (.dict (sectionOf b name)) := by
  have inner := sameJson_get left right same name
  unfold sectionOf
  cases held : a.get name with
  | dict members =>
    rw [held] at inner
    obtain ⟨others,found⟩ := sameJson_dict inner (isJson_recordable _ (held ▸ isJson_get left name))
    rw [found] at inner ⊢
    exact inner
  | _ =>
    cases found : b.get name with
    | dict others =>
      rw [held,found] at inner
      obtain ⟨members,equal⟩ := sameJson_dict inner.symm (isJson_recordable _ (found ▸ isJson_get right name))
      cases equal
    | _ => rfl

theorem chain_same (chain : Chain sha256 packet preBind formation readiness eligibility)
    (chain' : Chain sha256 other preBind' formation' readiness' eligibility')
    (named : Distinguishes sha256 (intentIdPreimage packet) (intentIdPreimage other))
    (sealed_ : Distinguishes sha256 (readinessPreimage packet) (readinessPreimage other))
    (same : packet.get "execution_intent_id" = other.get "execution_intent_id") : SameSource packet other := by
  have shown := readiness_same chain chain' named sealed_ same
  have raw := sameJson_perm ((isJson_dict _).mp chain.readinessJson).1 (readiness_raw chain)
  have raw' := sameJson_perm ((isJson_dict _).mp chain'.readinessJson).1 (readiness_raw chain')
  have packets : SameJson (.dict (readinessPacket packet)) (.dict (readinessPacket other)) := raw.trans (shown.trans raw'.symm)
  have eligibilities := sameJson_section chain.readinessJson chain'.readinessJson packets "source_eligibility_packet"
  have handoffs : SameJson (.dict (handoffOf packet)) (.dict (handoffOf other)) :=
    sameJson_section chain.eligibilityJson chain'.eligibilityJson eligibilities "source_handoff"
  have left := sectionOf_json chain.eligibilityJson "source_handoff"
  have right := sectionOf_json chain'.eligibilityJson "source_handoff"
  have candidates := sameJson_section left right handoffs "candidate"
  have actions := sameJson_section (sectionOf_json left "candidate") (sectionOf_json right "candidate") candidates "canonical_action"
  exact ⟨packets,handoffs,sameJson_get (sectionOf_json (sectionOf_json left "candidate") "canonical_action")
    (sectionOf_json (sectionOf_json right "candidate") "canonical_action") actions "parameters"⟩

-- A packet that the four builders make of an eligibility packet.
structure BuiltFrom (sha256 : String → String) (eligibility : Dict) (checked formed validated adjudicated : Moment)
    (readiness formation preBind packet : Dict) : Prop where
  readied : buildExecutionIntentFormationReadinessPacket sha256 (.dict eligibility) checked = .ok readiness
  formed_ : buildCanonicalExecutionIntentFormationPacket sha256 (.dict readiness) formed = .ok formation
  preBound : buildExecutionIntentPreBindValidationPacket sha256 (.dict formation) validated = .ok preBind
  adjudicated_ : buildCanonicalBindPreflightAdjudicationPacket sha256 (.dict preBind) adjudicated = .ok packet
  verified : verifyCanonicalBindPreflightAdjudicationPacket sha256 (.dict packet) = .ok packet
  adjudicatedAt : awareMoment (packet.get "adjudicated_at") = some adjudicated
  named : packet.get "execution_intent_id" = preBind.get "execution_intent_id"
  preBind_ : preBindPacket packet = preBind
  eligibility_ : eligibilityPacket packet = eligibility

theorem adjudicated_whenever (hex : ∀ text, hexDigest (sha256 text).toList = true)
    (verified : verifyGuardedPromotionEligibilityPacket sha256 (.dict eligibility) = .ok eligibility) (full : SourceFilled eligibility)
    (late : awareMoment (eligibility.get "issued_at") = some issued)
    (zoned : ∀ moment ∈ [checked,formed,validated,adjudicated], aware moment = true ∧ Representable moment)
    (order : instant issued ≤ instant checked ∧ instant checked ≤ instant formed ∧ instant formed ≤ instant validated ∧ instant validated ≤ instant adjudicated) :
    ∃ readiness formation preBind packet, BuiltFrom sha256 eligibility checked formed validated adjudicated readiness formation preBind packet := by
  simp only [List.forall_mem_cons,List.not_mem_nil,IsEmpty.forall_iff,implies_true,and_true] at zoned
  obtain ⟨first,second,third,fourth⟩ := zoned
  have formable := mapping_formable (eligibility_verified verified).2.1 full
  obtain ⟨readiness,readied,readinessVerified,checkedAt,source,mapped⟩ := readiness_built hex verified full first.1 first.2 late order.1
  obtain ⟨formation,intentId,formed_,formationVerified,formedAt,fromReadiness,carries⟩ :=
    formation_built hex readinessVerified mapped formable second.1 second.2 checkedAt order.2.1
  obtain ⟨preBind,preBound,preBindVerified,validatedAt,fromFormation,carriedOn⟩ :=
    preBind_built hex formationVerified carries formable third.1 third.2 formedAt order.2.2.1
  obtain ⟨packet,adjudicated_,packetVerified,adjudicatedAt,fromPreBind,named⟩ :=
    adjudication_built hex preBindVerified carriedOn formable fourth.1 fourth.2 validatedAt order.2.2.2
  have section_ {own inner : Dict} {name : String} (held : own.get name = .dict inner) : sectionOf own name = inner := by
    rw [sectionOf,held]
    rfl
  have preBind_ : preBindPacket packet = preBind := section_ fromPreBind
  refine ⟨readiness,formation,preBind,packet,readied,formed_,preBound,adjudicated_,packetVerified,adjudicatedAt,named,preBind_,?_⟩
  rw [eligibilityPacket,readinessPacket,formationPacket,preBind_,section_ fromFormation,section_ fromReadiness,section_ source]

-- The chain is closed, and packets of one intent have one source.
theorem chain_closed (sha256 : String → String) :
    (∀ input packet, verifyCanonicalBindPreflightAdjudicationPacket sha256 input = .ok packet → Closed sha256 packet) ∧
    ∀ input packet input' other, verifyCanonicalBindPreflightAdjudicationPacket sha256 input = .ok packet →
      verifyCanonicalBindPreflightAdjudicationPacket sha256 input' = .ok other →
      Distinguishes sha256 (intentIdPreimage packet) (intentIdPreimage other) →
      Distinguishes sha256 (readinessPreimage packet) (readinessPreimage other) →
      packet.get "execution_intent_id" = other.get "execution_intent_id" → SameSource packet other := by
  constructor
  · intro input packet verified
    obtain ⟨preBind,formation,readiness,eligibility,chain⟩ := chain_embedded verified
    exact ⟨⟨_,chain.preBound⟩,⟨_,chain.formed⟩,⟨_,chain.readied⟩,⟨_,chain.eligible⟩,chain_timed chain,chain_mapped chain,chain_hashed chain⟩
  · intro input packet input' other verified verified' named sealed_ same
    obtain ⟨preBind,formation,readiness,eligibility,chain⟩ := chain_embedded verified
    obtain ⟨preBind',formation',readiness',eligibility',chain'⟩ := chain_embedded verified'
    exact chain_same chain chain' named sealed_ same

end Chain

def unexpired (evidence : Dict) (now : Int) : Prop := ∀ expires, timestamp (evidence.get "expires_at") = some expires → now ≤ expires

def expiringEvidence : List String := ["policy_lineage","authority_evidence","human_approval_evidence"]

structure Unexpired (handoff : Dict) (now : Int) : Prop where
  handoff_ : unexpired handoff now
  evidence : ∀ name ∈ expiringEvidence, ∀ members, optionalSection handoff name = some members → unexpired members now

theorem inForce_unexpired (inForce : InForce evidence start now) : unexpired evidence now := by
  intro expires known
  obtain ⟨last,stated,open_⟩ := inForce.open_
  obtain rfl := Option.some.inj (stated.symm.trans known)
  exact open_

theorem timestamp_truthy (known : timestamp value = some time) : value.truthy = true := by
  cases value with
  | str s =>
    by_cases empty : s = ""
    · subst empty
      cases known
    · simpa [Value.truthy] using empty
  | _ => cases known

theorem ready_unexpired (ready : ReadyHandoff sha256 context evaluatedAt handoff members) : Unexpired members (instant evaluatedAt) := by
  constructor
  · intro expires known
    exact ready.complete.unexpired (timestamp_truthy known) expires known
  · intro name listed evidence given
    simp only [expiringEvidence,List.mem_cons,List.not_mem_nil,or_false] at listed
    rcases listed with rfl | rfl | rfl
    · obtain ⟨policy,present,holds⟩ := ready.policy
      obtain rfl := Option.some.inj (present.symm.trans given)
      exact inForce_unexpired holds.period
    · obtain ⟨authority,_,present,_,_,_,_,_,_,period,_⟩ := (ready.authority (.inr (by rw [given]; rfl))).evidence
      obtain rfl := Option.some.inj (present.symm.trans given)
      exact inForce_unexpired period
    · obtain ⟨approval,_,present,_,_,_,_,_,period,_⟩ := (ready.approval (.inr (by rw [given]; rfl))).evidence
      obtain rfl := Option.some.inj (present.symm.trans given)
      exact inForce_unexpired period

-- At the time of evaluation, which is no later than that of adjudication, nothing has expired.
def EvaluatedInForce (packet : Dict) : Prop :=
  ∃ evaluated adjudicated, awareMoment ((eligibilityPacket packet).get "evaluated_at") = some evaluated ∧
    awareMoment (packet.get "adjudicated_at") = some adjudicated ∧ instant evaluated ≤ instant adjudicated ∧
    Unexpired (handoffOf packet) (instant evaluated)

theorem verified_inForce
    (verified : verifyCanonicalBindPreflightAdjudicationPacket sha256 input = .ok packet) : EvaluatedInForce packet := by
  obtain ⟨preBind,formation,readiness,eligibility,chain⟩ := chain_embedded verified
  obtain ⟨context,evaluated,issued,checked,formed,validated,adjudicated,timeline,_,ready⟩ := chain_timed chain
  obtain ⟨done,ran⟩ := isReady_ran.mp ready
  obtain ⟨members,found⟩ := runChecks_ok sha256 ran
  have same := found.structured.mapping
  obtain rfl := Value.dict.inj same
  obtain ⟨first,second,third,fourth,last⟩ := timeline.order
  exact ⟨evaluated,adjudicated,timeline.evaluatedAt,timeline.adjudicatedAt,by omega,ready_unexpired found⟩

theorem evaluated_inForce (sha256 : String → String) :
    (∀ input packet, verifyCanonicalBindPreflightAdjudicationPacket sha256 input = .ok packet → EvaluatedInForce packet) ∧
    ∀ source adjudicatedAt packet, buildCanonicalBindPreflightAdjudicationPacket sha256 source adjudicatedAt = .ok packet →
      EvaluatedInForce packet := by
  constructor
  · intro input packet verified
    exact verified_inForce verified
  · intro source adjudicatedAt packet built
    obtain ⟨_,_,built⟩ := bind_ok.mp built
    obtain ⟨_,_,built⟩ := bind_ok.mp built
    obtain ⟨_,_,built⟩ := bind_ok.mp built
    obtain ⟨_,_,built⟩ := bind_ok.mp built
    obtain ⟨_,_,built⟩ := bind_ok.mp built
    obtain ⟨_,_,built⟩ := bind_ok.mp built
    exact verified_inForce built

def sampleSummaries : Dict :=
  [(.str "source_decision_identity",.dict (identitiesOf (sampleHandoff "handoff" true)).source),
   (.str "candidate_identity",.dict (identitiesOf (sampleHandoff "handoff" true)).candidate),
   (.str "evidence_lineage",.dict (identitiesOf (sampleHandoff "handoff" true)).evidence),
   (.str "replay_summary",.dict (identitiesOf (sampleHandoff "handoff" true)).replay)]

theorem sample_required : (requireSourceFields sampleSummaries).toOption = some () := by decide +kernel

theorem sample_identified (sha256 : String → String) :
    identities (.dict (sampleHandoff "handoff" true)) = .ok (identitiesOf (sampleHandoff "handoff" true)) := by
  obtain ⟨members,ready⟩ := runChecks_ok sha256 (sample_ran sha256 true (show "handoff" ∈ ["handoff","resubmitted"] by simp))
  have same := ready.structured.mapping
  obtain rfl := Value.dict.inj same
  exact identities_given ready approved_given.1

theorem sample_eligible : ∃ eligibility : Dict, verifyGuardedPromotionEligibilityPacket zeroHash (.dict eligibility) = .ok eligibility ∧
    SourceFilled eligibility ∧ awareMoment (eligibility.get "issued_at") = some sampleAt ∧
    eligibility.get "source_handoff" = .dict (sampleHandoff "handoff" true) := by
  have zoned : ∀ moment ∈ contextMoments (sampleContext zeroHash true), aware moment = true := by
    intro moment listed
    rw [contextOf_moments _ _ _ moment listed]
    rfl
  have copied := jsonValue_self _ (sample_alone true "handoff" (by simp)).2.1
  obtain ⟨packet,packed,answer⟩ := build_identified zeroHash_hex copied (sample_typed zeroHash true) zoned ⟨rfl,sampleAt_representable⟩
    ⟨rfl,sampleAt_representable⟩ (Int.le_refl _) (sample_ran zeroHash true (by simp)) (sample_identified zeroHash)
  rw [collapsed_summary,approved_given.2] at answer
  simp only [Bool.false_eq_true,if_false] at answer
  obtain ⟨_,input,verified⟩ := build_verified answer
  obtain ⟨source,candidate,evidence,replay⟩ := packed.identities
  refine ⟨packet,(verified_self verified).1,sourceFilled_of ?_ (requireSourceFields_ok.mp (toOption_some sample_required)),packed.issued,packed.handoff⟩
  simp only [summaryIdentities,List.forall_mem_cons,List.not_mem_nil,IsEmpty.forall_iff,implies_true,and_true]
  unfold sectionOf
  rw [source,candidate,evidence,replay]
  simp [sampleSummaries,get_cons]

def sampleLater : Moment := (64092124800000000,some 0)

theorem sampleLater_representable : Representable sampleLater :=
  ⟨by decide,fun offset known => by obtain rfl := Option.some.inj known; decide⟩

theorem sample_built {eligibility : Dict} (verified : verifyGuardedPromotionEligibilityPacket zeroHash (.dict eligibility) = .ok eligibility)
    (full : SourceFilled eligibility) (late : awareMoment (eligibility.get "issued_at") = some sampleAt) {adjudicated : Moment}
    (zoned : aware adjudicated = true) (range : Representable adjudicated) (order : instant sampleAt ≤ instant adjudicated) :
    ∃ readiness formation preBind packet,
      BuiltFrom zeroHash eligibility sampleAt sampleAt sampleAt adjudicated readiness formation preBind packet := by
  have early : aware sampleAt = true ∧ Representable sampleAt := ⟨rfl,sampleAt_representable⟩
  refine adjudicated_whenever zeroHash_hex verified full late ?_ ⟨Int.le_refl _,Int.le_refl _,Int.le_refl _,order⟩
  simp only [List.forall_mem_cons,List.not_mem_nil,IsEmpty.forall_iff,implies_true,and_true]
  exact ⟨early,early,early,zoned,range⟩

theorem chain_closed_sample : ∃ packet other : Dict, verifyCanonicalBindPreflightAdjudicationPacket zeroHash (.dict packet) = .ok packet ∧
    verifyCanonicalBindPreflightAdjudicationPacket zeroHash (.dict other) = .ok other ∧
    packet.get "adjudicated_at" ≠ other.get "adjudicated_at" ∧ Closed zeroHash packet ∧ SameSource packet other := by
  obtain ⟨eligibility,verified,full,late,_⟩ := sample_eligible
  obtain ⟨readiness,formation,preBind,packet,built⟩ := sample_built verified full late rfl sampleAt_representable (Int.le_refl _)
  obtain ⟨readiness',formation',preBind',other,built'⟩ := sample_built verified full late rfl sampleLater_representable (by decide)
  obtain rfl := Except.ok.inj (built.readied.symm.trans built'.readied)
  obtain rfl := Except.ok.inj (built.formed_.symm.trans built'.formed_)
  obtain rfl := Except.ok.inj (built.preBound.symm.trans built'.preBound)
  have readinesses : readinessPacket packet = readinessPacket other := by
    rw [readinessPacket,readinessPacket,formationPacket,formationPacket,built.preBind_,built'.preBind_]
  have ids : intentIdPreimage packet = intentIdPreimage other := by rw [intentIdPreimage,intentIdPreimage,readinesses]
  have seals : readinessPreimage packet = readinessPreimage other := by rw [readinessPreimage,readinessPreimage,readinesses]
  have apart (value : Value) : Distinguishes zeroHash value value := fun _ _ first second _ => Option.some.inj (first.symm.trans second)
  refine ⟨packet,other,built.verified,built'.verified,?_,(chain_closed zeroHash).1 _ _ built.verified,
    (chain_closed zeroHash).2 _ _ _ _ built.verified built'.verified (ids ▸ apart _) (seals ▸ apart _) (built.named.trans built'.named.symm)⟩
  intro same
  have times := built.adjudicatedAt.symm.trans ((congrArg awareMoment same).trans built'.adjudicatedAt)
  exact absurd (Option.some.inj times) (by decide)

theorem sample_expiry : ∃ members, optionalSection (sampleHandoff "handoff" true) "authority_evidence" = some members ∧
    timestamp (members.get "expires_at") = some 64060588800000000 := ⟨sampleAuthority,by decide +kernel⟩

-- Adjudicated in 2032, on evidence that expired in 2031.
theorem adjudicated_after_expiry : ¬∀ (sha256 : String → String) (input : Value) (packet : Dict) (adjudicated : Moment),
    verifyCanonicalBindPreflightAdjudicationPacket sha256 input = .ok packet →
      awareMoment (packet.get "adjudicated_at") = some adjudicated → Unexpired (handoffOf packet) (instant adjudicated) := by
  intro claimed
  obtain ⟨eligibility,verified,full,late,handoff⟩ := sample_eligible
  obtain ⟨readiness,formation,preBind,packet,built⟩ := sample_built verified full late rfl sampleLater_representable (by decide)
  have held : handoffOf packet = sampleHandoff "handoff" true := by
    rw [handoffOf,built.eligibility_,sectionOf,handoff]
    rfl
  obtain ⟨members,given,expires⟩ := sample_expiry
  have open_ := (claimed zeroHash _ packet sampleLater built.verified built.adjudicatedAt).evidence "authority_evidence" (by decide) members (held ▸ given)
  exact absurd (open_ _ expires) (by decide)

theorem evaluated_inForce_sample : ∃ packet : Dict, verifyCanonicalBindPreflightAdjudicationPacket zeroHash (.dict packet) = .ok packet ∧
    awareMoment (packet.get "adjudicated_at") = some sampleLater ∧ EvaluatedInForce packet := by
  obtain ⟨eligibility,verified,full,late,_⟩ := sample_eligible
  obtain ⟨readiness,formation,preBind,packet,built⟩ := sample_built verified full late rfl sampleLater_representable (by decide)
  exact ⟨packet,built.verified,built.adjudicatedAt,(evaluated_inForce zeroHash).1 _ _ built.verified⟩

end VeritasOs.BindAdjudication
