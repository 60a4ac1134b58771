import VeritasOs.IntentReadiness

namespace VeritasOs.IntentFormation
open JsonText DateTime PacketModel CanonicalHandoff GuardedPromotion IntentReadiness

def formatVersion : String := "canonical-execution-intent-formation/v1"
def formationMechanism : String := "build_execution_intent_from_readiness/v1"
def executionIntentIdDomain : String := "veritas.execution-intent-formation.execution-intent-id/v1"

def executionIntentFields : List String :=
  ["decision_id","request_id","policy_snapshot_id","actor_identity","target_system","target_resource","intended_action","evidence_refs",
   "decision_hash","decision_ts","ttl_seconds","expected_state_fingerprint","approval_context","policy_lineage"]

def scopeLimitations : List String :=
  ["NOT_EXECUTION_AUTHORITY","NOT_BIND_AUTHORIZATION","NOT_BIND_RECEIPT","NOT_BIND_INVOCATION","NOT_EXTERNAL_EFFECT",
   "NOT_ADAPTER_INVOCATION","NOT_OPERATION_COMMIT","NOT_TRUSTLOG_WRITE","NOT_AUTHORITY_EVIDENCE","NOT_HUMAN_APPROVAL"]

def formationSeal : Seal where
  domain := "veritas.execution-intent-formation.packet/v1"
  idField := "formation_id"
  hashField := "formation_hash"
  head := "eif:v1:sha256:"
  hashMismatch := "EIF_FORMATION_HASH_MISMATCH"
  idMismatch := "EIF_FORMATION_ID_MISMATCH"

-- CanonicalExecutionIntentFormationPacket
def formationSchema : Schema :=
  [("format_version",.literal (.str formatVersion)),("formation_id",.hashed "eif:v1:sha256:"),("formation_hash",.hashed ""),
   ("formation_mechanism",.literal (.str formationMechanism)),("formed_at",.text),("source_readiness",.mapping),
   ("source_readiness_hash",.hashed ""),("source_readiness_packet",.mapping),("source_eligibility_hash",.hashed ""),
   ("source_handoff_hash",.hashed ""),("trusted_validation_context_hash",.hashed ""),("validation_result_hash",.hashed ""),
   ("mapping_value_digest",.hashed ""),("execution_intent_contract_version",.text),("execution_intent",.mapping),
   ("execution_intent_id",.hashed "ei:v1:sha256:"),("execution_intent_hash",.hashed ""),("source_to_execution_intent_mapping",.mapping),
   ("field_mapping_proof",.mapping),("required_field_presence",.textMapping),("source_decision_identity",.mapping),
   ("candidate_identity",.mapping),("evidence_lineage",.mapping),("replay_summary",.mapping),("scope_limitations",.texts)]

-- ExecutionIntent(execution_intent_id=.., **mapping), field by field: the class converts none of them.
def executionIntent (intentId : Value) (mapping : Dict) : Dict := (.str "execution_intent_id",intentId) :: chosen mapping executionIntentFields

def intentToDict (intent : Dict) : Except Exc Dict := do
  let refs ← PolicyBundle.listFrom (intent.get "evidence_refs")
  .ok (intent.set "evidence_refs" (.list refs))

def canonicalExecutionIntentJson (intent : Dict) : Except Exc String := do
  let shown ← intentToDict intent
  match canonicalJsonDumps (.dict shown) with
  | some text => .ok text
  | none => .error (BindArtifacts.typeError "Object is not JSON serializable")

def intentOf (intentId : String) (mapping : Dict) : Packet Dict := do
  refuseWhen (!keysAre executionIntentFields mapping) "EIF_MAPPING_MISMATCH"
  .ok (executionIntent (.str intentId) mapping)

-- What the intent's identifier is made of.
def intentIdDocument (readiness : Dict) : Dict :=
  [(.str "source_readiness_id",readiness.get "readiness_id"),(.str "source_readiness_hash",readiness.get "readiness_hash"),
   (.str "mapping_value_digest",readiness.get "mapping_value_digest"),
   (.str "source_to_execution_intent_mapping",readiness.get "source_to_execution_intent_mapping"),
   (.str "execution_intent_contract_version",readiness.get "execution_intent_contract_version")]

def summaryKeys : List String :=
  ["readiness_id","readiness_hash","format_version","checked_at","formation_status","ready_for_execution_intent_formation"]

def readinessBindings : List (String × String) :=
  [("source_readiness_hash","readiness_hash"),("source_eligibility_hash","source_eligibility_hash"),
   ("source_handoff_hash","source_handoff_hash"),("trusted_validation_context_hash","trusted_validation_context_hash"),
   ("validation_result_hash","validation_result_hash"),("mapping_value_digest","mapping_value_digest"),
   ("execution_intent_contract_version","execution_intent_contract_version")]

def preserved : List String := ["required_field_presence","source_decision_identity","candidate_identity","evidence_lineage","replay_summary"]

section Packets
variable (sha256 : String → String)

def hashExecutionIntent (intent : Dict) : Except Exc String := do
  let shown ← intentToDict intent
  BindArtifacts.sha256OfCanonicalJson sha256 (.dict shown)

def executionIntentId (readiness : Dict) : Option String :=
  (domainDigest sha256 executionIntentIdDomain (.dict (intentIdDocument readiness))).map fun digest => "ei:v1:sha256:" ++ digest

-- _verified_readiness(value); the model's literals already say READY.
def verifiedReadiness (value : Value) : Packet Dict :=
  refusing [.typeError,.valueError] "EIF_READINESS_INVALID" (verifyExecutionIntentFormationReadinessPacket sha256 value)

def invalid : String := "EIF_PACKET_INVALID"

def checkFormation (candidate : Dict) : Packet Unit := do
  let readiness ← verifiedReadiness sha256 (candidate.get "source_readiness_packet")
  let formed ← orRefuse "EIF_FORMED_AT_INVALID" (awareMoment (candidate.get "formed_at"))
  let checked ← orRefuse "EIF_FORMED_AT_INVALID" (awareMoment (readiness.get "checked_at"))
  refuseWhen (decide (instant formed < instant checked)) "EIF_FORMED_BEFORE_READINESS_CHECKED"
  refuseWhen (!pyEq (candidate.get "source_readiness") (.dict (chosen readiness summaryKeys))) "EIF_READINESS_INVALID"
  refuseWhen (!agrees candidate readiness readinessBindings) "EIF_MAPPING_MISMATCH"
  let mapping := sectionOf readiness "source_to_execution_intent_mapping"
  refuseWhen (!pyEq (candidate.get "source_to_execution_intent_mapping") (.dict mapping)) "EIF_MAPPING_MISMATCH"
  let intentId ← orRefuse invalid (executionIntentId sha256 readiness)
  refuseWhen (candidate.get "execution_intent_id" != .str intentId) "EIF_EXECUTION_INTENT_ID_MISMATCH"
  let expectedIntent ← intentOf intentId mapping
  let expected ← escaping (intentToDict expectedIntent)
  refuseWhen (!pyEq (candidate.get "execution_intent") (.dict expected)) "EIF_EXECUTION_INTENT_FIELD_MISMATCH"
  let reconstructed ← intentOf intentId (chosen (sectionOf candidate "execution_intent") executionIntentFields)
  let shown ← escaping (intentToDict reconstructed)
  refuseWhen (!pyEq (.dict shown) (candidate.get "execution_intent")) "EIF_EXECUTION_INTENT_FIELD_MISMATCH"
  let digest ← escaping (hashExecutionIntent sha256 reconstructed)
  refuseWhen (candidate.get "execution_intent_hash" != .str digest) "EIF_EXECUTION_INTENT_HASH_MISMATCH"
  let _ ← escaping (canonicalExecutionIntentJson reconstructed)
  refuseWhen (!pyEq (candidate.get "field_mapping_proof") (.dict (chosen expected executionIntentFields))) "EIF_FIELD_MAPPING_PROOF_MISMATCH"
  refuseWhen (!agrees candidate readiness (same preserved)) "EIF_MAPPING_MISMATCH"
  refuseWhen (candidate.get "scope_limitations" != texts scopeLimitations) "EIF_SCOPE_LIMITATIONS_MISSING"
  formationSeal.check sha256 invalid candidate

def verifyCanonicalExecutionIntentFormationPacket (packet : Value) : Packet Dict := do
  let candidate ← readPacket invalid formationSchema packet
  checkFormation sha256 candidate
  .ok candidate

def formationFields (formedAt : Moment) (readiness intent : Dict) (intentId intentHash : String) : Dict :=
  [(.str "format_version",.str formatVersion),(.str "formation_mechanism",.str formationMechanism),
   (.str "formed_at",.str (isoformat formedAt)),(.str "source_readiness",.dict (chosen readiness summaryKeys)),
   (.str "source_readiness_hash",readiness.get "readiness_hash"),(.str "source_readiness_packet",.dict readiness),
   (.str "source_eligibility_hash",readiness.get "source_eligibility_hash"),(.str "source_handoff_hash",readiness.get "source_handoff_hash"),
   (.str "trusted_validation_context_hash",readiness.get "trusted_validation_context_hash"),
   (.str "validation_result_hash",readiness.get "validation_result_hash"),(.str "mapping_value_digest",readiness.get "mapping_value_digest"),
   (.str "execution_intent_contract_version",readiness.get "execution_intent_contract_version"),(.str "execution_intent",.dict intent),
   (.str "execution_intent_id",.str intentId),(.str "execution_intent_hash",.str intentHash),
   (.str "source_to_execution_intent_mapping",readiness.get "source_to_execution_intent_mapping"),
   (.str "field_mapping_proof",.dict (chosen intent executionIntentFields)),
   (.str "required_field_presence",readiness.get "required_field_presence"),
   (.str "source_decision_identity",readiness.get "source_decision_identity"),
   (.str "candidate_identity",readiness.get "candidate_identity"),(.str "evidence_lineage",readiness.get "evidence_lineage"),
   (.str "replay_summary",readiness.get "replay_summary"),(.str "scope_limitations",.tuple (scopeLimitations.map .str))]

def buildCanonicalExecutionIntentFormationPacket (readinessPacket : Value) (formedAt : Moment) : Packet Dict := do
  refuseWhen (!aware formedAt) "EIF_FORMED_AT_INVALID"
  let copied ← orRefuse invalid (jsonValue readinessPacket)
  let readiness ← verifiedReadiness sha256 copied
  let checked ← orRefuse "EIF_FORMED_AT_INVALID" (awareMoment (readiness.get "checked_at"))
  refuseWhen (decide (instant formedAt < instant checked)) "EIF_FORMED_BEFORE_READINESS_CHECKED"
  let intentId ← orRefuse invalid (executionIntentId sha256 readiness)
  let intent ← intentOf intentId (sectionOf readiness "source_to_execution_intent_mapping")
  let shown ← escaping (intentToDict intent)
  let intentHash ← escaping (hashExecutionIntent sha256 intent)
  let fields := formationFields formedAt readiness shown intentId intentHash
  let digest ← orRefuse invalid (formationSeal.packetHash sha256 fields)
  verifyCanonicalExecutionIntentFormationPacket sha256 (.dict (formationSeal.sealed fields digest))

end Packets

theorem formationSchema_distinct : (formationSchema.map Prod.fst).Nodup := by decide

structure Formed (sha256 : String → String) (candidate readiness : Dict) (intentId : String) (expected reconstructed : Dict) : Prop where
  source : verifyExecutionIntentFormationReadinessPacket sha256 (candidate.get "source_readiness_packet") = .ok readiness
  order : ∃ formed checked, awareMoment (candidate.get "formed_at") = some formed ∧ awareMoment (readiness.get "checked_at") = some checked ∧
    instant checked ≤ instant formed
  summary : pyEq (candidate.get "source_readiness") (.dict (chosen readiness summaryKeys)) = true
  bindings : agrees candidate readiness readinessBindings = true
  mapping : pyEq (candidate.get "source_to_execution_intent_mapping") (.dict (sectionOf readiness "source_to_execution_intent_mapping")) = true
  named : executionIntentId sha256 readiness = some intentId ∧ candidate.get "execution_intent_id" = .str intentId
  mapped : keysAre executionIntentFields (sectionOf readiness "source_to_execution_intent_mapping") = true
  expected_ : intentToDict (executionIntent (.str intentId) (sectionOf readiness "source_to_execution_intent_mapping")) = .ok expected
  intent : pyEq (candidate.get "execution_intent") (.dict expected) = true
  reread : keysAre executionIntentFields (chosen (sectionOf candidate "execution_intent") executionIntentFields) = true
  reconstructed_ : intentToDict (executionIntent (.str intentId) (chosen (sectionOf candidate "execution_intent") executionIntentFields)) =
    .ok reconstructed
  rebuilt : pyEq (.dict reconstructed) (candidate.get "execution_intent") = true
  hashed : ∃ digest, hashExecutionIntent sha256 (executionIntent (.str intentId)
      (chosen (sectionOf candidate "execution_intent") executionIntentFields)) = .ok digest ∧
    candidate.get "execution_intent_hash" = .str digest
  written : ∃ text, canonicalExecutionIntentJson (executionIntent (.str intentId)
    (chosen (sectionOf candidate "execution_intent") executionIntentFields)) = .ok text
  proof : pyEq (candidate.get "field_mapping_proof") (.dict (chosen expected executionIntentFields)) = true
  kept : agrees candidate readiness (same preserved) = true
  scope : candidate.get "scope_limitations" = texts scopeLimitations
  closed : formationSeal.check sha256 invalid candidate = .ok ()

section Facts
variable {sha256 : String → String}

theorem intentOf_ok {intentId : String} {mapping intent : Dict} :
    intentOf intentId mapping = .ok intent ↔ keysAre executionIntentFields mapping = true ∧ executionIntent (.str intentId) mapping = intent := by
  unfold intentOf
  simp only [bind_ok,exists_unit,refuseWhen_ok,Bool.not_eq_false',Except.ok.injEq]

theorem checkFormation_ok {candidate : Dict} : checkFormation sha256 candidate = .ok () ↔
    ∃ readiness intentId expected reconstructed, Formed sha256 candidate readiness intentId expected reconstructed := by
  unfold checkFormation verifiedReadiness
  simp only [bind_ok,exists_unit,orRefuse_ok,refuseWhen_ok,refusing_ok,escaping_ok,intentOf_ok,decide_eq_false_iff_not,Int.not_lt,
    Bool.not_eq_false',bne_eq_false_iff_eq]
  constructor
  · rintro ⟨readiness,source,formed,read,checked,known,order,summary,bindings,mapping,intentId,made,named,_,⟨mapped,rfl⟩,expected,shown,intent,
      _,⟨reread,rfl⟩,reconstructed,rebuilt,equal,digest,hashed,stated,text,written,proof,kept,scope,closed⟩
    exact ⟨readiness,intentId,expected,reconstructed,source,⟨formed,checked,read,known,order⟩,summary,bindings,mapping,⟨made,named⟩,mapped,shown,
      intent,reread,rebuilt,equal,⟨digest,hashed,stated⟩,⟨text,written⟩,proof,kept,scope,closed⟩
  · rintro ⟨readiness,intentId,expected,reconstructed,source,⟨formed,checked,read,known,order⟩,summary,bindings,mapping,⟨made,named⟩,mapped,shown,
      intent,reread,rebuilt,equal,⟨digest,hashed,stated⟩,⟨text,written⟩,proof,kept,scope,closed⟩
    exact ⟨readiness,source,formed,read,checked,known,order,summary,bindings,mapping,intentId,made,named,_,⟨mapped,rfl⟩,expected,shown,intent,
      _,⟨reread,rfl⟩,reconstructed,rebuilt,equal,digest,hashed,stated,text,written,proof,kept,scope,closed⟩

theorem formation_verified (verified : verifyCanonicalExecutionIntentFormationPacket sha256 packet = .ok candidate) :
    readPacket invalid formationSchema packet = .ok candidate ∧ isJson (.dict candidate) = true ∧ Shows formationSchema candidate ∧
      ∃ readiness intentId expected reconstructed, Formed sha256 candidate readiness intentId expected reconstructed := by
  obtain ⟨shown,read,checked⟩ := bind_ok.mp verified
  obtain ⟨passed,same⟩ := except_then_ok.mp checked
  obtain rfl := Except.ok.inj same
  exact ⟨read,(readPacket_ok formationSchema_distinct read).1,(readPacket_ok formationSchema_distinct read).2,checkFormation_ok.mp passed⟩

def intentTexts : List String :=
  ["decision_id","request_id","policy_snapshot_id","actor_identity","target_system","target_resource","intended_action","decision_hash",
   "decision_ts","expected_state_fingerprint"]

-- A mapping that an intent can be made of, and checked.
structure Formable (mapping : Dict) : Prop where
  ordered : chosen mapping executionIntentFields = mapping
  json : isJson (.dict mapping) = true
  texts : ∀ name ∈ intentTexts, filled (mapping.get name) = true
  refs : ∃ items, mapping.get "evidence_refs" = .list items ∧ items ≠ [] ∧ ∀ ref ∈ items, filled ref = true
  dated : (awareMoment (mapping.get "decision_ts")).isSome = true
  ttl : mapping.get "ttl_seconds" = .none

theorem mapping_formable (json : isJson (.dict eligibility) = true) (full : SourceFilled eligibility) :
    Formable (mappingOf eligibility) := by
  have texts := full.texts
  simp only [sourceFields,List.forall_mem_cons,List.not_mem_nil,IsEmpty.forall_iff,implies_true,and_true] at texts
  refine ⟨by simp [chosen,executionIntentFields,mappingOf,mapping,get_cons],mapping_json json,?_,?_,?_,?_⟩
  · simp [intentTexts,mappingOf,mapping,get_cons,texts]
  · exact ⟨_,by simp [mappingOf,mapping,get_cons]; rfl,by simp,by simp [texts]⟩
  · simpa [mappingOf,mapping,get_cons] using full.dated
  · simp [mappingOf,mapping,get_cons]

theorem executionIntent_get (intentId : Value) (mapping : Dict) (listed : name ∈ executionIntentFields) :
    (executionIntent intentId mapping).get name = mapping.get name := by
  have other : "execution_intent_id" ≠ name := by
    rintro rfl
    revert listed
    decide
  rw [executionIntent,get_cons,if_neg other,Dict.get,lookup_chosen listed]
  rfl

theorem chosen_intent (intentId : Value) {mapping : Dict} (formable : Formable mapping) :
    chosen (executionIntent intentId mapping) executionIntentFields = mapping := by
  refine Eq.trans (List.map_congr_left fun name listed => ?_) formable.ordered
  rw [executionIntent_get intentId mapping listed]

theorem keys_formable {mapping : Dict} (formable : Formable mapping) : keysAre executionIntentFields mapping = true :=
  formable.ordered ▸ keysAre_chosen mapping executionIntentFields

theorem store_self (held : lookup key dict = some value) : store key value dict = dict := by
  induction dict with
  | nil => cases held
  | cons head rest ih =>
    obtain ⟨own,old⟩ := head
    by_cases same : own = key
    · subst same
      obtain rfl : old = value := by simpa [lookup] using held
      simp [store]
    · simp [store,same,ih (by simpa [lookup,same] using held)]

theorem intentToDict_self (refs : lookup (.str "evidence_refs") intent = some (.list items)) : intentToDict intent = .ok intent := by
  have got : intent.get "evidence_refs" = .list items := by rw [Dict.get,refs,Option.getD_some]
  rw [intentToDict,got]
  exact congrArg Except.ok (store_self refs)

theorem shown_formable (intentId : Value) {mapping : Dict} (formable : Formable mapping) :
    intentToDict (executionIntent intentId mapping) = .ok (executionIntent intentId mapping) := by
  obtain ⟨items,held,_⟩ := formable.refs
  refine @intentToDict_self _ items ?_
  have listed : "evidence_refs" ∈ executionIntentFields := by decide
  rw [executionIntent,lookup,if_neg (by decide),lookup_chosen listed,held]

theorem intent_json (intentId : String) {mapping : Dict} (formable : Formable mapping) :
    isJson (.dict (executionIntent (.str intentId) mapping)) = true := by
  have keys : (executionIntent (.str intentId) mapping).map Prod.fst = ("execution_intent_id" :: executionIntentFields).map Key.str := by
    simp [executionIntent,chosen]
  refine (isJson_dict _).mpr ⟨record_names keys (by decide),?_⟩
  rw [executionIntent,formable.ordered,List.forall_mem_cons]
  exact ⟨rfl,((isJson_dict mapping).mp formable.json).2⟩

theorem intent_hashed (intentId : String) {mapping : Dict} (formable : Formable mapping) :
    ∃ text, canonicalExecutionIntentJson (executionIntent (.str intentId) mapping) = .ok text ∧
      hashExecutionIntent sha256 (executionIntent (.str intentId) mapping) = .ok (sha256 text) := by
  obtain ⟨written,made⟩ := Option.isSome_iff_exists.mp (isJson_recordable _ (intent_json intentId formable))
  have dumped : canonicalJsonDumps (.dict (executionIntent (.str intentId) mapping)) = some (dumps compact written) := by
    simp [canonicalJsonDumps,made]
  refine ⟨dumps compact written,?_,?_⟩
  · simp only [canonicalExecutionIntentJson,shown_formable _ formable,bind,Except.bind,dumped]
  · simp only [hashExecutionIntent,shown_formable _ formable,bind,Except.bind,BindArtifacts.sha256OfCanonicalJson,dumped]

def fieldNames : List String :=
  ["format_version","formation_mechanism","formed_at","source_readiness","source_readiness_hash","source_readiness_packet",
   "source_eligibility_hash","source_handoff_hash","trusted_validation_context_hash","validation_result_hash","mapping_value_digest",
   "execution_intent_contract_version","execution_intent","execution_intent_id","execution_intent_hash",
   "source_to_execution_intent_mapping","field_mapping_proof","required_field_presence","source_decision_identity","candidate_identity",
   "evidence_lineage","replay_summary","scope_limitations"]

theorem names_distinct : (formationSeal.idField :: formationSeal.hashField :: fieldNames).Nodup := by decide

theorem formation_shows (shows_ : Shows readinessSchema readiness) (formedAt : Moment) (intent : Dict)
    (named : hexDigest intentDigest.toList = true) (hashed_ : hexDigest intentHash.toList = true) (hexed : hexDigest digest.toList = true) :
    Shows formationSchema (formationSeal.placed (untupledFields (formationFields formedAt readiness intent ("ei:v1:sha256:" ++ intentDigest)
      intentHash)) digest) := by
  have whole {text : String} (digits : hexDigest text.toList = true) : hashed "" text = true := by simpa [hashed] using digits
  have headed : hashed "eif:v1:sha256:" ("eif:v1:sha256:" ++ digest) = true := hashed_digest hexed
  have identified : hashed "ei:v1:sha256:" ("ei:v1:sha256:" ++ intentDigest) = true := hashed_digest named
  have hashes := shows_hashes readinessSchema_distinct shows_ (show ∀ name ∈ ["readiness_hash","source_eligibility_hash","source_handoff_hash",
    "trusted_validation_context_hash","validation_result_hash","mapping_value_digest"], (name,FieldType.hashed "") ∈ readinessSchema by decide)
  have sections := shows_mappings readinessSchema_distinct shows_ (show ∀ name ∈ ["source_to_execution_intent_mapping",
    "source_decision_identity","candidate_identity","evidence_lineage","replay_summary"], (name,FieldType.mapping) ∈ readinessSchema by decide)
  have version := shows_get readinessSchema_distinct shows_ (show ("execution_intent_contract_version",
    FieldType.literal (.str executionIntentContractVersion)) ∈ readinessSchema by decide)
  obtain ⟨_,presence,present⟩ := accepts_textMapping (shows_get readinessSchema_distinct shows_
    (show ("required_field_presence",FieldType.textMapping) ∈ readinessSchema by decide))
  simp only [FieldType.read,FieldType.accepts,Option.ite_none_right_eq_some,beq_iff_eq,and_true] at version
  simp only [List.forall_mem_cons,List.not_mem_nil,IsEmpty.forall_iff,implies_true,and_true] at hashes sections
  obtain ⟨⟨_,own,ownHashed⟩,⟨_,eligibility,eligibilityHashed⟩,⟨_,handoff,handoffHashed⟩,⟨_,context,contextHashed⟩,⟨_,result,resultHashed⟩,
    ⟨_,mapped,mappedHashed⟩⟩ := hashes
  obtain ⟨⟨_,mapping⟩,⟨_,source⟩,⟨_,candidate⟩,⟨_,evidence⟩,⟨_,replay⟩⟩ := sections
  simp [Shows,formationSchema,formationSeal,Seal.placed,untupledFields,formationFields,FieldType.read,FieldType.accepts,own,ownHashed,
    eligibility,eligibilityHashed,handoff,handoffHashed,context,contextHashed,result,resultHashed,mapped,mappedHashed,mapping,source,candidate,
    evidence,replay,version,presence,present,whole hashed_,whole hexed,headed,identified]

theorem formed_made {readiness packet mapping : Dict}
    (verified : verifyExecutionIntentFormationReadinessPacket sha256 (.dict readiness) = .ok readiness)
    (mapped : readiness.get "source_to_execution_intent_mapping" = .dict mapping) (formable : Formable mapping) {formedAt checked : Moment}
    (zoned : aware formedAt = true) (range : Representable formedAt) (early : awareMoment (readiness.get "checked_at") = some checked)
    (order : instant checked ≤ instant formedAt) {intentId intentHash : String} (named : executionIntentId sha256 readiness = some intentId)
    (hashed : hashExecutionIntent sha256 (executionIntent (.str intentId) mapping) = .ok intentHash)
    (closed : formationSeal.check sha256 invalid packet = .ok ())
    (get : ∀ name, name ≠ "formation_id" → name ≠ "formation_hash" →
      packet.get name = untupled ((formationFields formedAt readiness (executionIntent (.str intentId) mapping) intentId intentHash).get name)) :
    Formed sha256 packet readiness intentId (executionIntent (.str intentId) mapping) (executionIntent (.str intentId) mapping) := by
  obtain ⟨_,json,shows_,_⟩ := readiness_verified verified
  have plain (name : String) : untupled (readiness.get name) = readiness.get name := untupled_json_self (isJson_get json name)
  have same (name : String) : pyEq (readiness.get name) (readiness.get name) = true := pyEq_refl _ (isJson_get json name)
  have section_ : sectionOf readiness "source_to_execution_intent_mapping" = mapping := by simp [sectionOf,mapped,Value.asDict?]
  have intent : packet.get "execution_intent" = .dict (executionIntent (.str intentId) mapping) := by simp [get,formationFields,get_cons]
  have reread : chosen (sectionOf packet "execution_intent") executionIntentFields = mapping := by
    rw [sectionOf,intent]
    exact chosen_intent _ formable
  obtain ⟨text,written,_⟩ := @intent_hashed sha256 intentId _ formable
  have equal := pyEq_refl _ (intent_json intentId formable)
  have shown := shown_formable (.str intentId) formable
  have proof := pyEq_refl _ formable.json
  constructor
  · simpa [get,formationFields,get_cons] using verified
  · exact ⟨formedAt,checked,by simp [get,formationFields,get_cons,awareMoment_isoformat zoned range],early,order⟩
  · simpa [get,formationFields,get_cons] using pyEq_refl _ (chosen_json json (show summaryKeys.Nodup by decide))
  · simp [agrees,readinessBindings,get,formationFields,get_cons,plain,same]
  · rw [section_]
    simpa [get,formationFields,get_cons,mapped] using proof
  · exact ⟨named,by simp [get,formationFields,get_cons]⟩
  · rw [section_]
    exact keys_formable formable
  · rw [section_]
    exact shown
  · rw [intent]
    exact equal
  · rw [reread]
    exact keys_formable formable
  · rw [reread]
    exact shown
  · rw [intent]
    exact equal
  · rw [reread]
    exact ⟨_,hashed,by simp [get,formationFields,get_cons]⟩
  · rw [reread]
    exact ⟨text,written⟩
  · rw [chosen_intent _ formable]
    simpa [get,formationFields,get_cons,chosen_intent _ formable] using proof
  · simp [agrees,IntentReadiness.same,preserved,get,formationFields,get_cons,plain,same]
  · simp [get,formationFields,get_cons,texts]
  · exact closed

-- A packet that holds the intent made of a mapping, its name and its hash, and the mapping beside it.
structure CarriesIntent (sha256 : String → String) (packet mapping : Dict) (intentId : String) : Prop where
  intent : packet.get "execution_intent" = .dict (executionIntent (.str intentId) mapping)
  named : packet.get "execution_intent_id" = .str intentId
  hashed : ∃ digest, hashExecutionIntent sha256 (executionIntent (.str intentId) mapping) = .ok digest ∧
    packet.get "execution_intent_hash" = .str digest
  mapped : packet.get "source_to_execution_intent_mapping" = .dict mapping
  proof : packet.get "field_mapping_proof" = .dict mapping

theorem formation_built (hex : ∀ text, hexDigest (sha256 text).toList = true) {readiness mapping : Dict}
    (verified : verifyExecutionIntentFormationReadinessPacket sha256 (.dict readiness) = .ok readiness)
    (mapped : readiness.get "source_to_execution_intent_mapping" = .dict mapping) (formable : Formable mapping) {formedAt checked : Moment}
    (zoned : aware formedAt = true) (range : Representable formedAt) (early : awareMoment (readiness.get "checked_at") = some checked)
    (order : instant checked ≤ instant formedAt) :
    ∃ packet intentId, buildCanonicalExecutionIntentFormationPacket sha256 (.dict readiness) formedAt = .ok packet ∧
      verifyCanonicalExecutionIntentFormationPacket sha256 (.dict packet) = .ok packet ∧
      awareMoment (packet.get "formed_at") = some formedAt ∧ packet.get "source_readiness_packet" = .dict readiness ∧
      CarriesIntent sha256 packet mapping intentId := by
  obtain ⟨_,json,shows_,_⟩ := readiness_verified verified
  have document : isJson (.dict (intentIdDocument readiness)) = true := by
    have plain := isJson_get json
    simp [intentIdDocument,isJson,isJsonMembers,Key.isStr,plain]
  obtain ⟨idText,_,identified⟩ := domainDigest_json sha256 executionIntentIdDomain document
  have named : executionIntentId sha256 readiness = some ("ei:v1:sha256:" ++ sha256 idText) := by rw [executionIntentId,identified,Option.map_some]
  obtain ⟨text,written,hashed_⟩ := @intent_hashed sha256 ("ei:v1:sha256:" ++ sha256 idText) _ formable
  generalize fieldsGiven : formationFields formedAt readiness (executionIntent (.str ("ei:v1:sha256:" ++ sha256 idText)) mapping)
    ("ei:v1:sha256:" ++ sha256 idText) (sha256 text) = fields
  have sealable : formationSeal.Sealable fields := by
    refine sealable_names (show fields.map Prod.fst = fieldNames.map Key.str by rw [← fieldsGiven]; rfl) names_distinct ?_
    have plain (name : String) : isJson (untupled (readiness.get name)) = true := by
      rw [untupled_json_self (isJson_get json name)]
      exact isJson_get json name
    simp [← fieldsGiven,formationFields,plain,json,chosen_json json (show summaryKeys.Nodup by decide),intent_json _ formable,
      chosen_intent _ formable,formable.json]
  obtain ⟨digest,packet,sealed_,read,closed,get⟩ := sealed_made sha256 invalid hex formationSchema_distinct sealable (.refl _)
    fun digest hexed => fieldsGiven ▸ formation_shows shows_ formedAt _ (hex idText) (hex text) hexed
  have get : ∀ name, name ≠ "formation_id" → name ≠ "formation_hash" → packet.get name = untupled (fields.get name) := get
  subst fieldsGiven
  have formed := formed_made verified mapped formable zoned range early order named hashed_ closed get
  have passed : checkFormation sha256 packet = .ok () := checkFormation_ok.mpr ⟨_,_,_,_,formed⟩
  refine ⟨packet,"ei:v1:sha256:" ++ sha256 idText,?_,bind_ok.mpr ⟨_,readPacket_self formationSchema_distinct read,except_then_ok.mpr ⟨passed,rfl⟩⟩,
    by simp [get,formationFields,get_cons,awareMoment_isoformat zoned range],by simp [get,formationFields,get_cons],
    ⟨by simp [get,formationFields,get_cons],by simp [get,formationFields,get_cons],⟨_,hashed_,by simp [get,formationFields,get_cons]⟩,
      by simp [get,formationFields,get_cons,mapped],by simp [get,formationFields,get_cons,chosen_intent _ formable]⟩⟩
  have section_ : sectionOf readiness "source_to_execution_intent_mapping" = mapping := by simp [sectionOf,mapped,Value.asDict?]
  unfold buildCanonicalExecutionIntentFormationPacket verifiedReadiness
  simp only [bind_ok,exists_unit,orRefuse_ok,refuseWhen_ok,refusing_ok,escaping_ok,intentOf_ok,decide_eq_false_iff_not,Int.not_lt,
    Bool.not_eq_false']
  refine ⟨zoned,_,jsonValue_self _ json,_,verified,_,early,order,_,named,?_⟩
  rw [section_]
  refine ⟨_,⟨keys_formable formable,rfl⟩,_,shown_formable _ formable,_,hashed_,_,sealed_,?_⟩
  exact bind_ok.mpr ⟨_,read,except_then_ok.mpr ⟨passed,rfl⟩⟩

end Facts

end VeritasOs.IntentFormation
