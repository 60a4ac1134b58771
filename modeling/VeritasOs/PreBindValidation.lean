import VeritasOs.IntentFormation

namespace VeritasOs.PreBindValidation
open JsonText DateTime PacketModel CanonicalHandoff GuardedPromotion IntentReadiness IntentFormation

def formatVersion : String := "canonical-execution-intent-pre-bind-validation/v1"
def validationMechanism : String := "validate_execution_intent_before_bind/v1"
def localChecksDomain : String := "veritas.execution-intent-pre-bind-validation.local-checks/v1"
def preBindStatus : String := "READY_FOR_BIND_PREFLIGHT"

def allTrue (names : List String) : Dict := names.map fun name => (.str name,.bool true)

def localValidationChecks : Dict :=
  allTrue ["formation_verified","execution_intent_hash_verified","execution_intent_id_verified","field_mapping_verified",
    "required_field_presence_verified","evidence_refs_non_empty","decision_timestamp_timezone_aware","checked_after_formation",
    "no_bind_invocation","no_trustlog_write"]

def scopeLimitations : List String :=
  ["NOT_EXECUTION_AUTHORITY","NOT_BIND_AUTHORIZATION","NOT_BIND_RECEIPT","NOT_BIND_INVOCATION","NOT_ADAPTER_INVOCATION",
   "NOT_EXTERNAL_EFFECT","NOT_OPERATION_COMMIT","NOT_TRUSTLOG_WRITE","NOT_LIVE_STATE_CHECK","NOT_RUNTIME_RISK_ACCEPTANCE",
   "NOT_AUTHORITY_EVIDENCE","NOT_HUMAN_APPROVAL"]

def preBindSeal : Seal where
  domain := "veritas.execution-intent-pre-bind-validation.packet/v1"
  idField := "pre_bind_validation_id"
  hashField := "pre_bind_validation_hash"
  head := "eipbv:v1:sha256:"
  hashMismatch := "EIPBV_PACKET_HASH_MISMATCH"
  idMismatch := "EIPBV_PACKET_ID_MISMATCH"

-- CanonicalExecutionIntentPreBindValidationPacket
def preBindSchema : Schema :=
  [("format_version",.literal (.str formatVersion)),("pre_bind_validation_id",.hashed "eipbv:v1:sha256:"),
   ("pre_bind_validation_hash",.hashed ""),("validation_mechanism",.literal (.str validationMechanism)),("checked_at",.text),
   ("source_formation",.mapping),("source_formation_hash",.hashed ""),("source_formation_packet",.mapping),
   ("source_readiness_hash",.hashed ""),("source_eligibility_hash",.hashed ""),("source_handoff_hash",.hashed ""),
   ("trusted_validation_context_hash",.hashed ""),("validation_result_hash",.hashed ""),("mapping_value_digest",.hashed ""),
   ("execution_intent_contract_version",.text),("execution_intent",.mapping),("execution_intent_id",.hashed "ei:v1:sha256:"),
   ("execution_intent_hash",.hashed ""),("pre_bind_status",.literal (.str preBindStatus)),
   ("ready_for_bind_preflight",.literal (.bool true)),("fail_closed",.literal (.bool false)),("local_validation_checks",.flags),
   ("source_to_execution_intent_mapping",.mapping),("field_mapping_proof",.mapping),("required_field_presence",.textMapping),
   ("source_decision_identity",.mapping),("candidate_identity",.mapping),("evidence_lineage",.mapping),("replay_summary",.mapping),
   ("scope_limitations",.texts)]

def intentNames : List String := "execution_intent_id" :: executionIntentFields

def refsFilled : Value → Bool
  | .list refs => !refs.isEmpty && refs.all filled
  | _ => false

def ttlFine : Value → Bool
  | .none => true
  | .int n => decide (0 ≤ n)
  | _ => false

-- ExecutionIntent(**raw), and its shape compared with what it was made of.
def sameShape (raw : Dict) (code : String) : Packet Dict := do
  let intent := executionIntent (raw.get "execution_intent_id") raw
  let shown ← escaping (intentToDict intent)
  refuseWhen (!pyEq (.dict shown) (.dict raw)) code
  let _ ← escaping (canonicalExecutionIntentJson intent)
  .ok intent

-- _reconstruct_intent(raw)
def reconstructIntent (raw : Dict) : Packet Dict := do
  refuseWhen (!keysAre intentNames raw) "EIPBV_EXECUTION_INTENT_FIELD_MISMATCH"
  refuseWhen (intentTexts.any fun name => !filled (raw.get name)) "EIPBV_EXECUTION_INTENT_FIELD_MISMATCH"
  refuseWhen (!refsFilled (raw.get "evidence_refs")) "EIPBV_EVIDENCE_REFS_INVALID"
  let _ ← orRefuse "EIPBV_DECISION_TS_INVALID" (awareMoment (raw.get "decision_ts"))
  refuseWhen (!ttlFine (raw.get "ttl_seconds")) "EIPBV_TTL_INVALID"
  sameShape raw "EIPBV_EXECUTION_INTENT_FIELD_MISMATCH"

def summaryKeys : List String :=
  ["formation_id","formation_hash","format_version","formation_mechanism","formed_at","execution_intent_id","execution_intent_hash"]

def formationBindings : List (String × String) :=
  ("source_formation_hash","formation_hash") :: same ["source_readiness_hash","source_eligibility_hash","source_handoff_hash",
    "trusted_validation_context_hash","validation_result_hash","mapping_value_digest","execution_intent_contract_version"]

section Packets
variable (sha256 : String → String)

-- _verified_formation(value); the model's literal already says its format version.
def verifiedFormation (value : Value) : Packet Dict :=
  refusing [.typeError,.valueError] "EIPBV_FORMATION_INVALID" (verifyCanonicalExecutionIntentFormationPacket sha256 value)

def invalid : String := "EIPBV_PACKET_INVALID"

def checkPreBind (candidate : Dict) : Packet Unit := do
  let formation ← verifiedFormation sha256 (candidate.get "source_formation_packet")
  let checked ← orRefuse "EIPBV_CHECKED_AT_INVALID" (awareMoment (candidate.get "checked_at"))
  let formed ← orRefuse "EIPBV_FORMATION_INVALID" (awareMoment (formation.get "formed_at"))
  refuseWhen (decide (instant checked < instant formed)) "EIPBV_CHECKED_BEFORE_FORMED"
  refuseWhen (!pyEq (candidate.get "source_formation") (.dict (chosen formation summaryKeys))) "EIPBV_FORMATION_INVALID"
  refuseWhen (!agrees candidate formation formationBindings) "EIPBV_MAPPING_MISMATCH"
  let intent ← reconstructIntent (sectionOf candidate "execution_intent")
  refuseWhen (!pyEq (candidate.get "execution_intent") (formation.get "execution_intent")) "EIPBV_EXECUTION_INTENT_FIELD_MISMATCH"
  refuseWhen (!pyEq (candidate.get "execution_intent_id") (intent.get "execution_intent_id") ||
    !pyEq (candidate.get "execution_intent_id") (formation.get "execution_intent_id")) "EIPBV_EXECUTION_INTENT_ID_MISMATCH"
  let digest ← escaping (hashExecutionIntent sha256 intent)
  refuseWhen (candidate.get "execution_intent_hash" != .str digest ||
    !pyEq (candidate.get "execution_intent_hash") (formation.get "execution_intent_hash")) "EIPBV_EXECUTION_INTENT_HASH_MISMATCH"
  let mapping := chosen (sectionOf candidate "execution_intent") executionIntentFields
  refuseWhen (!pyEq (candidate.get "source_to_execution_intent_mapping") (.dict mapping) ||
    !pyEq (candidate.get "source_to_execution_intent_mapping") (formation.get "source_to_execution_intent_mapping")) "EIPBV_MAPPING_MISMATCH"
  refuseWhen (!pyEq (candidate.get "field_mapping_proof") (.dict mapping) ||
    !pyEq (candidate.get "field_mapping_proof") (formation.get "field_mapping_proof")) "EIPBV_FIELD_MAPPING_PROOF_MISMATCH"
  refuseWhen (!agrees candidate formation (same preserved)) "EIPBV_MAPPING_MISMATCH"
  refuseWhen (!pyEq (candidate.get "local_validation_checks") (.dict localValidationChecks)) "EIPBV_LOCAL_CHECKS_MISMATCH"
  let _ ← orRefuse invalid (domainDigest sha256 localChecksDomain (candidate.get "local_validation_checks"))
  refuseWhen (candidate.get "scope_limitations" != texts scopeLimitations) "EIPBV_SCOPE_LIMITATIONS_MISSING"
  preBindSeal.check sha256 invalid candidate

def verifyExecutionIntentPreBindValidationPacket (packet : Value) : Packet Dict := do
  let candidate ← readPacket invalid preBindSchema packet
  checkPreBind sha256 candidate
  .ok candidate

def preBindFields (checkedAt : Moment) (formation : Dict) : Dict :=
  [(.str "format_version",.str formatVersion),(.str "validation_mechanism",.str validationMechanism),
   (.str "checked_at",.str (isoformat checkedAt)),(.str "source_formation",.dict (chosen formation summaryKeys)),
   (.str "source_formation_hash",formation.get "formation_hash"),(.str "source_formation_packet",.dict formation),
   (.str "source_readiness_hash",formation.get "source_readiness_hash"),
   (.str "source_eligibility_hash",formation.get "source_eligibility_hash"),
   (.str "source_handoff_hash",formation.get "source_handoff_hash"),
   (.str "trusted_validation_context_hash",formation.get "trusted_validation_context_hash"),
   (.str "validation_result_hash",formation.get "validation_result_hash"),(.str "mapping_value_digest",formation.get "mapping_value_digest"),
   (.str "execution_intent_contract_version",formation.get "execution_intent_contract_version"),
   (.str "execution_intent",formation.get "execution_intent"),(.str "execution_intent_id",formation.get "execution_intent_id"),
   (.str "execution_intent_hash",formation.get "execution_intent_hash"),(.str "pre_bind_status",.str preBindStatus),
   (.str "ready_for_bind_preflight",.bool true),(.str "fail_closed",.bool false),
   (.str "local_validation_checks",.dict localValidationChecks),
   (.str "source_to_execution_intent_mapping",formation.get "source_to_execution_intent_mapping"),
   (.str "field_mapping_proof",formation.get "field_mapping_proof"),
   (.str "required_field_presence",formation.get "required_field_presence"),
   (.str "source_decision_identity",formation.get "source_decision_identity"),
   (.str "candidate_identity",formation.get "candidate_identity"),(.str "evidence_lineage",formation.get "evidence_lineage"),
   (.str "replay_summary",formation.get "replay_summary"),(.str "scope_limitations",.tuple (scopeLimitations.map .str))]

def buildExecutionIntentPreBindValidationPacket (formationPacket : Value) (checkedAt : Moment) : Packet Dict := do
  refuseWhen (!aware checkedAt) "EIPBV_CHECKED_AT_INVALID"
  let copied ← orRefuse invalid (jsonValue formationPacket)
  let formation ← verifiedFormation sha256 copied
  let formed ← orRefuse "EIPBV_FORMATION_INVALID" (awareMoment (formation.get "formed_at"))
  refuseWhen (decide (instant checkedAt < instant formed)) "EIPBV_CHECKED_BEFORE_FORMED"
  let fields := preBindFields checkedAt formation
  let digest ← orRefuse invalid (preBindSeal.packetHash sha256 fields)
  verifyExecutionIntentPreBindValidationPacket sha256 (.dict (preBindSeal.sealed fields digest))

end Packets

theorem preBindSchema_distinct : (preBindSchema.map Prod.fst).Nodup := by decide

-- The checks of an intent that both later packets make.
structure Shaped (raw intent : Dict) : Prop where
  made : intent = executionIntent (raw.get "execution_intent_id") raw
  shape : ∃ shown, intentToDict intent = .ok shown ∧ pyEq (.dict shown) (.dict raw) = true
  written : ∃ text, canonicalExecutionIntentJson intent = .ok text

structure Reconstructed (raw intent : Dict) : Prop where
  keys : keysAre intentNames raw = true
  texts : ∀ name ∈ intentTexts, filled (raw.get name) = true
  refs : refsFilled (raw.get "evidence_refs") = true
  dated : (awareMoment (raw.get "decision_ts")).isSome = true
  ttl : ttlFine (raw.get "ttl_seconds") = true
  shaped : Shaped raw intent

structure PreBound (sha256 : String → String) (candidate formation intent : Dict) : Prop where
  source : verifyCanonicalExecutionIntentFormationPacket sha256 (candidate.get "source_formation_packet") = .ok formation
  order : ∃ checked formed, awareMoment (candidate.get "checked_at") = some checked ∧ awareMoment (formation.get "formed_at") = some formed ∧
    instant formed ≤ instant checked
  summary : pyEq (candidate.get "source_formation") (.dict (chosen formation summaryKeys)) = true
  bindings : agrees candidate formation formationBindings = true
  reconstructed : Reconstructed (sectionOf candidate "execution_intent") intent
  intent_ : pyEq (candidate.get "execution_intent") (formation.get "execution_intent") = true
  named : pyEq (candidate.get "execution_intent_id") (intent.get "execution_intent_id") = true ∧
    pyEq (candidate.get "execution_intent_id") (formation.get "execution_intent_id") = true
  hashed : ∃ digest, hashExecutionIntent sha256 intent = .ok digest ∧ candidate.get "execution_intent_hash" = .str digest ∧
    pyEq (candidate.get "execution_intent_hash") (formation.get "execution_intent_hash") = true
  mapping : pyEq (candidate.get "source_to_execution_intent_mapping")
      (.dict (chosen (sectionOf candidate "execution_intent") executionIntentFields)) = true ∧
    pyEq (candidate.get "source_to_execution_intent_mapping") (formation.get "source_to_execution_intent_mapping") = true
  proof : pyEq (candidate.get "field_mapping_proof") (.dict (chosen (sectionOf candidate "execution_intent") executionIntentFields)) = true ∧
    pyEq (candidate.get "field_mapping_proof") (formation.get "field_mapping_proof") = true
  kept : agrees candidate formation (same preserved) = true
  checks : pyEq (candidate.get "local_validation_checks") (.dict localValidationChecks) = true
  digested : ∃ digest, domainDigest sha256 localChecksDomain (candidate.get "local_validation_checks") = some digest
  scope : candidate.get "scope_limitations" = texts scopeLimitations
  closed : preBindSeal.check sha256 invalid candidate = .ok ()

section Facts
variable {sha256 : String → String}

theorem sameShape_ok : sameShape raw code = .ok intent ↔ Shaped raw intent := by
  unfold sameShape
  simp only [bind_ok,exists_unit,refuseWhen_ok,escaping_ok,Bool.not_eq_false',Except.ok.injEq]
  constructor
  · rintro ⟨shown,made,equal,text,written,rfl⟩
    exact ⟨rfl,⟨shown,made,equal⟩,⟨text,written⟩⟩
  · rintro ⟨rfl,⟨shown,made,equal⟩,⟨text,written⟩⟩
    exact ⟨shown,made,equal,text,written,rfl⟩

theorem reconstructIntent_ok : reconstructIntent raw = .ok intent ↔ Reconstructed raw intent := by
  unfold reconstructIntent
  simp only [bind_ok,exists_unit,refuseWhen_ok,orRefuse_ok,sameShape_ok,Bool.not_eq_false',List.any_eq_false,Bool.not_eq_true',
    Bool.not_eq_false]
  constructor
  · rintro ⟨keys,texts,refs,moment,dated,ttl,shaped⟩
    exact ⟨keys,texts,refs,by rw [dated]; rfl,ttl,shaped⟩
  · rintro ⟨keys,texts,refs,dated,ttl,shaped⟩
    obtain ⟨moment,known⟩ := Option.isSome_iff_exists.mp dated
    exact ⟨keys,texts,refs,moment,known,ttl,shaped⟩

theorem checkPreBind_ok : checkPreBind sha256 candidate = .ok () ↔ ∃ formation intent, PreBound sha256 candidate formation intent := by
  unfold checkPreBind verifiedFormation
  simp only [bind_ok,exists_unit,orRefuse_ok,refuseWhen_ok,refusing_ok,escaping_ok,reconstructIntent_ok,decide_eq_false_iff_not,Int.not_lt,
    Bool.or_eq_false_iff,Bool.not_eq_false',bne_eq_false_iff_eq]
  constructor
  · rintro ⟨formation,source,checked,read,formed,known,order,summary,bindings,intent,reconstructed,equal,named,digest,hashed,⟨stated,carried⟩,
      mapping,proof,kept,checks,local_,digested,scope,closed⟩
    exact ⟨formation,intent,source,⟨checked,formed,read,known,order⟩,summary,bindings,reconstructed,equal,named,⟨digest,hashed,stated,carried⟩,
      mapping,proof,kept,checks,⟨local_,digested⟩,scope,closed⟩
  · rintro ⟨formation,intent,source,⟨checked,formed,read,known,order⟩,summary,bindings,reconstructed,equal,named,⟨digest,hashed,stated,carried⟩,
      mapping,proof,kept,checks,⟨local_,digested⟩,scope,closed⟩
    exact ⟨formation,source,checked,read,formed,known,order,summary,bindings,intent,reconstructed,equal,named,digest,hashed,⟨stated,carried⟩,
      mapping,proof,kept,checks,local_,digested,scope,closed⟩

theorem preBind_verified (verified : verifyExecutionIntentPreBindValidationPacket sha256 packet = .ok candidate) :
    readPacket invalid preBindSchema packet = .ok candidate ∧ isJson (.dict candidate) = true ∧ Shows preBindSchema candidate ∧
      ∃ formation intent, PreBound sha256 candidate formation intent := by
  obtain ⟨shown,read,checked⟩ := bind_ok.mp verified
  obtain ⟨passed,same⟩ := except_then_ok.mp checked
  obtain rfl := Except.ok.inj same
  exact ⟨read,(readPacket_ok preBindSchema_distinct read).1,(readPacket_ok preBindSchema_distinct read).2,checkPreBind_ok.mp passed⟩

variable {mapping formation : Dict}

theorem executionIntent_again (intentId : String) (formable : Formable mapping) :
    executionIntent (.str intentId) (executionIntent (.str intentId) mapping) = executionIntent (.str intentId) mapping := by
  rw [executionIntent,chosen_intent _ formable,executionIntent,formable.ordered]

theorem names_intent (intentId : String) (formable : Formable mapping) :
    keysAre intentNames (executionIntent (.str intentId) mapping) = true := by
  have whole : chosen (executionIntent (.str intentId) mapping) intentNames = executionIntent (.str intentId) mapping := by
    rw [intentNames,chosen,List.map_cons]
    change (_ :: chosen _ executionIntentFields) = _
    rw [chosen_intent _ formable,executionIntent,get_cons,if_pos rfl,formable.ordered]
  rw [← whole]
  exact keysAre_chosen _ _

theorem shaped_made (intentId : String) (formable : Formable mapping) :
    Shaped (executionIntent (.str intentId) mapping) (executionIntent (.str intentId) mapping) := by
  obtain ⟨text,written,_⟩ := @intent_hashed (fun text => text) intentId _ formable
  refine ⟨?_,⟨_,shown_formable _ formable,pyEq_refl _ (intent_json intentId formable)⟩,⟨text,written⟩⟩
  have own : (executionIntent (.str intentId) mapping).get "execution_intent_id" = .str intentId := by rw [executionIntent,get_cons,if_pos rfl]
  rw [own,executionIntent_again intentId formable]

theorem reconstructed_made (intentId : String) (formable : Formable mapping) :
    Reconstructed (executionIntent (.str intentId) mapping) (executionIntent (.str intentId) mapping) := by
  have get {name : String} (listed : name ∈ executionIntentFields) := executionIntent_get (.str intentId) mapping listed
  obtain ⟨items,held,some_,each⟩ := formable.refs
  refine ⟨names_intent intentId formable,?_,?_,?_,?_,shaped_made intentId formable⟩
  · intro name listed
    have field : name ∈ executionIntentFields := by
      revert name
      decide
    rw [get field]
    exact formable.texts name listed
  · rw [get (by decide),held]
    simp [refsFilled,some_,List.all_eq_true.mpr each]
  · rw [get (by decide)]
    exact formable.dated
  · rw [get (by decide),formable.ttl]
    rfl

def fieldNames : List String :=
  ["format_version","validation_mechanism","checked_at","source_formation","source_formation_hash","source_formation_packet",
   "source_readiness_hash","source_eligibility_hash","source_handoff_hash","trusted_validation_context_hash","validation_result_hash",
   "mapping_value_digest","execution_intent_contract_version","execution_intent","execution_intent_id","execution_intent_hash",
   "pre_bind_status","ready_for_bind_preflight","fail_closed","local_validation_checks","source_to_execution_intent_mapping",
   "field_mapping_proof","required_field_presence","source_decision_identity","candidate_identity","evidence_lineage","replay_summary",
   "scope_limitations"]

theorem names_distinct : (preBindSeal.idField :: preBindSeal.hashField :: fieldNames).Nodup := by decide

theorem checks_json : isJson (.dict localValidationChecks) = true := by decide +kernel

theorem checks_read : readFlags localValidationChecks = some localValidationChecks := by rfl

theorem preBind_shows (shows_ : Shows formationSchema formation) (checkedAt : Moment) (hexed : hexDigest digest.toList = true) :
    Shows preBindSchema (preBindSeal.placed (untupledFields (preBindFields checkedAt formation)) digest) := by
  have whole : hashed "" digest = true := by simpa [hashed] using hexed
  have headed : hashed "eipbv:v1:sha256:" ("eipbv:v1:sha256:" ++ digest) = true := hashed_digest hexed
  have hashes := shows_hashes formationSchema_distinct shows_ (show ∀ name ∈ ["formation_hash","source_readiness_hash","source_eligibility_hash",
    "source_handoff_hash","trusted_validation_context_hash","validation_result_hash","mapping_value_digest","execution_intent_hash"],
    (name,FieldType.hashed "") ∈ formationSchema by decide)
  have sections := shows_mappings formationSchema_distinct shows_ (show ∀ name ∈ ["execution_intent","source_to_execution_intent_mapping",
    "field_mapping_proof","source_decision_identity","candidate_identity","evidence_lineage","replay_summary"],
    (name,FieldType.mapping) ∈ formationSchema by decide)
  obtain ⟨_,version⟩ := accepts_text (shows_get formationSchema_distinct shows_
    (show ("execution_intent_contract_version",FieldType.text) ∈ formationSchema by decide))
  obtain ⟨_,identity,identified⟩ := accepts_hashed (shows_get formationSchema_distinct shows_
    (show ("execution_intent_id",FieldType.hashed "ei:v1:sha256:") ∈ formationSchema by decide))
  obtain ⟨_,presence,present⟩ := accepts_textMapping (shows_get formationSchema_distinct shows_
    (show ("required_field_presence",FieldType.textMapping) ∈ formationSchema by decide))
  simp only [List.forall_mem_cons,List.not_mem_nil,IsEmpty.forall_iff,implies_true,and_true] at hashes sections
  obtain ⟨⟨_,own,ownHashed⟩,⟨_,readiness,readinessHashed⟩,⟨_,eligibility,eligibilityHashed⟩,⟨_,handoff,handoffHashed⟩,
    ⟨_,context,contextHashed⟩,⟨_,result,resultHashed⟩,⟨_,mapped,mappedHashed⟩,⟨_,intentHash,intentHashed⟩⟩ := hashes
  obtain ⟨⟨_,intent⟩,⟨_,mapping⟩,⟨_,proof⟩,⟨_,source⟩,⟨_,candidate⟩,⟨_,evidence⟩,⟨_,replay⟩⟩ := sections
  simp [Shows,preBindSchema,preBindSeal,Seal.placed,untupledFields,preBindFields,FieldType.read,FieldType.accepts,own,ownHashed,readiness,
    readinessHashed,eligibility,eligibilityHashed,handoff,handoffHashed,context,contextHashed,result,resultHashed,mapped,mappedHashed,
    intentHash,intentHashed,intent,mapping,proof,source,candidate,evidence,replay,version,identity,identified,presence,present,whole,headed,
    Value.asDict?,checks_read]

theorem preBound_made (verified : verifyCanonicalExecutionIntentFormationPacket sha256 (.dict formation) = .ok formation)
    (carries : CarriesIntent sha256 formation mapping intentId) (formable : Formable mapping)
    (zoned : aware checkedAt = true) (range : Representable checkedAt) (early : awareMoment (formation.get "formed_at") = some formed)
    (order : instant formed ≤ instant checkedAt) (closed : preBindSeal.check sha256 invalid packet = .ok ())
    (get : ∀ name, name ≠ "pre_bind_validation_id" → name ≠ "pre_bind_validation_hash" → packet.get name = untupled ((preBindFields checkedAt formation).get name)) :
    PreBound sha256 packet formation (executionIntent (.str intentId) mapping) := by
  obtain ⟨_,json,_⟩ := formation_verified verified
  have plain (name : String) : untupled (formation.get name) = formation.get name := untupled_json_self (isJson_get json name)
  have same (name : String) : pyEq (formation.get name) (formation.get name) = true := pyEq_refl _ (isJson_get json name)
  have raw : sectionOf packet "execution_intent" = executionIntent (.str intentId) mapping := by
    simp [sectionOf,get,preBindFields,get_cons,carries.intent,Value.asDict?]
  have own : (executionIntent (.str intentId) mapping).get "execution_intent_id" = .str intentId := by rw [executionIntent,get_cons,if_pos rfl]
  obtain ⟨digest,hashed_,stated⟩ := carries.hashed
  have proof := pyEq_refl _ formable.json
  obtain ⟨_,_,digested⟩ := domainDigest_json sha256 localChecksDomain checks_json
  constructor
  · simpa [get,preBindFields,get_cons] using verified
  · exact ⟨checkedAt,formed,by simp [get,preBindFields,get_cons,awareMoment_isoformat zoned range],early,order⟩
  · simpa [get,preBindFields,get_cons] using pyEq_refl _ (chosen_json json (show summaryKeys.Nodup by decide))
  · simp [agrees,formationBindings,IntentReadiness.same,get,preBindFields,get_cons,plain,same]
  · rw [raw]
    exact reconstructed_made intentId formable
  · simpa [get,preBindFields,get_cons,plain] using same "execution_intent"
  · rw [own]
    constructor
    · simpa [get,preBindFields,get_cons,plain,carries.named] using pyEq_refl (.str intentId) rfl
    · simpa [get,preBindFields,get_cons,plain] using same "execution_intent_id"
  · exact ⟨digest,hashed_,by simp [get,preBindFields,get_cons,stated],by simpa [get,preBindFields,get_cons,plain] using same "execution_intent_hash"⟩
  · rw [raw,chosen_intent _ formable]
    constructor
    · simpa [get,preBindFields,get_cons,plain,carries.mapped] using proof
    · simpa [get,preBindFields,get_cons,plain] using same "source_to_execution_intent_mapping"
  · rw [raw,chosen_intent _ formable]
    constructor
    · simpa [get,preBindFields,get_cons,plain,carries.proof] using proof
    · simpa [get,preBindFields,get_cons,plain] using same "field_mapping_proof"
  · simp [agrees,IntentReadiness.same,preserved,get,preBindFields,get_cons,plain,same]
  · simpa [get,preBindFields,get_cons] using pyEq_refl _ checks_json
  · exact ⟨_,by simpa [get,preBindFields,get_cons] using digested⟩
  · simp [get,preBindFields,get_cons,texts]
  · exact closed

theorem preBind_built (hex : ∀ text, hexDigest (sha256 text).toList = true)
    (verified : verifyCanonicalExecutionIntentFormationPacket sha256 (.dict formation) = .ok formation)
    (carries : CarriesIntent sha256 formation mapping intentId) (formable : Formable mapping)
    (zoned : aware checkedAt = true) (range : Representable checkedAt) (early : awareMoment (formation.get "formed_at") = some formed)
    (order : instant formed ≤ instant checkedAt) :
    ∃ packet, buildExecutionIntentPreBindValidationPacket sha256 (.dict formation) checkedAt = .ok packet ∧
      verifyExecutionIntentPreBindValidationPacket sha256 (.dict packet) = .ok packet ∧
      awareMoment (packet.get "checked_at") = some checkedAt ∧ packet.get "source_formation_packet" = .dict formation ∧
      CarriesIntent sha256 packet mapping intentId := by
  obtain ⟨_,json,shows_,_⟩ := formation_verified verified
  have sealable : preBindSeal.Sealable (preBindFields checkedAt formation) := by
    refine sealable_names (show (preBindFields checkedAt formation).map Prod.fst = fieldNames.map Key.str from rfl) names_distinct ?_
    have plain (name : String) : isJson (untupled (formation.get name)) = true := by
      rw [untupled_json_self (isJson_get json name)]
      exact isJson_get json name
    simp [preBindFields,plain,json,chosen_json json (show summaryKeys.Nodup by decide),checks_json]
  obtain ⟨digest,packet,sealed_,read,closed,get⟩ := sealed_made sha256 invalid hex preBindSchema_distinct sealable (.refl _)
    fun digest hexed => preBind_shows shows_ checkedAt hexed
  have get : ∀ name, name ≠ "pre_bind_validation_id" → name ≠ "pre_bind_validation_hash" →
      packet.get name = untupled ((preBindFields checkedAt formation).get name) := get
  have bound := preBound_made verified carries formable zoned range early order closed get
  have passed : checkPreBind sha256 packet = .ok () := checkPreBind_ok.mpr ⟨_,_,bound⟩
  obtain ⟨intentHash,hashed_,stated⟩ := carries.hashed
  refine ⟨packet,?_,bind_ok.mpr ⟨_,readPacket_self preBindSchema_distinct read,except_then_ok.mpr ⟨passed,rfl⟩⟩,
    by simp [get,preBindFields,get_cons,awareMoment_isoformat zoned range],by simp [get,preBindFields,get_cons],
    ⟨by simp [get,preBindFields,get_cons,carries.intent],by simp [get,preBindFields,get_cons,carries.named],
      ⟨_,hashed_,by simp [get,preBindFields,get_cons,stated]⟩,by simp [get,preBindFields,get_cons,carries.mapped],
      by simp [get,preBindFields,get_cons,carries.proof]⟩⟩
  unfold buildExecutionIntentPreBindValidationPacket verifiedFormation
  simp only [bind_ok,exists_unit,orRefuse_ok,refuseWhen_ok,refusing_ok,decide_eq_false_iff_not,Int.not_lt,Bool.not_eq_false']
  refine ⟨zoned,_,jsonValue_self _ json,_,verified,_,early,order,_,sealed_,?_⟩
  exact bind_ok.mpr ⟨_,read,except_then_ok.mpr ⟨passed,rfl⟩⟩

end Facts

end VeritasOs.PreBindValidation
