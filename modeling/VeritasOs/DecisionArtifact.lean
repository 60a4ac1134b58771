import VeritasOs.ModelReader
import VeritasOs.PipelineResponse

namespace VeritasOs.DecisionArtifact
open JsonText DateTime PacketModel ModelReader
open PipelinePolicy (World uniquePreserveOrder normalizeRequiredEvidenceKeys)
open PipelineResponse (canonicalizePublicGateDecision validateGateBusinessCombination)
open BindArtifacts (valueError)

def strictCanonicalJson (value : Value) : Option String := if isJson value then canonicalJsonDumps value else none

-- A datetime is its wall-clock time and its offset from UTC, in microseconds.
inductive Timestamp where
  | moment (wall : Int) (utcoffset : Option Int)
  | text (s : String)
  | other

def Timestamp.parsed : Timestamp → Option (Int × Option Int)
  | .moment wall utcoffset => some (wall,utcoffset)
  | .text s => if s = "" then none else fromisoformat s.toList
  | .other => none

def Timestamp.instant (value : Timestamp) : Option Int :=
  match value.parsed with
  | some (wall,some offset) => some (wall - offset)
  | _ => none

section Artifacts
-- Whether strftime pads a year before 1000 depends on the platform.
variable (padsYear : Bool)

def strftime (instant : Int) : String :=
  let (year,month,day) := ord2ymd ((instant / dayMicros).toNat + 1)
  let micros := (instant % dayMicros).toNat
  padded (if padsYear then 4 else 1) year ++ "-" ++ padded 2 month ++ "-" ++ padded 2 day ++ "T" ++
    padded 2 (micros / 3600000000) ++ ":" ++ padded 2 (micros / 60000000 % 60) ++ ":" ++ padded 2 (micros / 1000000 % 60) ++
    "." ++ padded 6 (micros % 1000000) ++ "Z"

def normalizeTimestamp (value : String) : Option String :=
  match fromisoformat value.toList with
  | some (wall,some offset) => if 0 ≤ wall - offset ∧ wall - offset < maxInstant then some (strftime padsYear (wall - offset)) else none
  | _ => none

-- The conversion to UTC is outside of the builder's handlers: leaving the calendar escapes as an OverflowError.
def normalizeBuilderTimestamp (value : Timestamp) : Packet String :=
  match value.parsed with
  | none => .error (.refused "INVALID_TIMESTAMP")
  | some (_,none) => .error (.refused "NAIVE_TIMESTAMP")
  | some (wall,some offset) =>
    if 0 ≤ wall - offset ∧ wall - offset < maxInstant then .ok (strftime padsYear (wall - offset))
    else .error (.escaped ⟨.overflowError,"date value out of range"⟩)

theorem normalized_instant (one : first.instant = some instant) (other : second.instant = some instant) :
    normalizeBuilderTimestamp padsYear first = normalizeBuilderTimestamp padsYear second := by
  unfold Timestamp.instant at one other
  unfold normalizeBuilderTimestamp
  cases left : first.parsed with
  | none => simp [left] at one
  | some shown =>
    obtain ⟨wall,zone⟩ := shown
    cases right : second.parsed with
    | none => simp [right] at other
    | some seen =>
      obtain ⟨clock,place⟩ := seen
      cases zone with
      | none => simp [left] at one
      | some offset =>
        cases place with
        | none => simp [right] at other
        | some shift =>
          obtain rfl : wall - offset = instant := by simpa [left] using one
          have same : clock - shift = wall - offset := by simpa [right] using other
          simp only [same]

def canonicalTimestamp (text : String) : Bool :=
  let chars := text.toList
  let part := fun start stop => (number (slice start stop chars)).getD 100
  chars.length == 27 &&
    ((chars.zip "0000-00-00T00:00:00.000000Z".toList).all fun pair => if pair.2 == '0' then pair.1.isDigit else pair.1 == pair.2) &&
    1 ≤ part 5 7 && part 5 7 ≤ 12 && part 8 10 ≤ 31 && part 11 13 ≤ 23 && part 14 16 ≤ 59 && part 17 19 ≤ 59

def cdaFormatVersion : String := "canonical-decision-artifact/v1"
def cdaHashProfile : String := "veritas.canonical-decision/v1"
def cdaProjectionVersion : String := "canonical-decision-projection/v1"
def cdaSourceType : String := "DecideResponse"
def cdaDecisionIdPrefix : String := "cda:v1:sha256:"
def cdaChosenBindingProfile : String := "veritas.canonical-decision.chosen-value/v1"
def cdaGovernanceIdentityBindingProfile : String := "veritas.canonical-decision.governance-identity/v1"
def cdaLineagePromotabilityBindingProfile : String := "veritas.canonical-decision.lineage-promotability/v1"
def cdaTransitionRefusalBindingProfile : String := "veritas.canonical-decision.transition-refusal/v1"

def preBindActionabilityStates : List String :=
  ["reviewable_only","bind_required_before_execution","blocked","human_review_required","formation_transition_refused"]

def validateActionabilityBoundary (status requiresBind humanReviewRequired : Value) : Except Exc Unit :=
  if !preBindActionabilityStates.contains status.text then .error (valueError "actionability state is outside the pre-Bind boundary")
  else
    let expectedBind := ["reviewable_only","bind_required_before_execution","human_review_required"].contains status.text
    if requiresBind ≠ .bool expectedBind then .error (valueError "actionability status contradicts bind requirement")
    else if ["human_review_required","formation_transition_refused"].contains status.text && !humanReviewRequired.truthy then
      .error (valueError "actionability status requires human review")
    else .ok ()

-- The checks that the builder makes of the normalized source and the model of the projection repeats.
def validateSemantics (fields : Dict) : Except Exc Unit := do
  validateActionabilityBoundary (fields.get "actionability_status") (fields.get "requires_bind_before_execution") (fields.get "human_review_required")
  validateGateBusinessCombination (fields.get "gate_decision").text (fields.get "business_decision").text (fields.get "human_review_required").truthy

theorem literal_default (choice : String) (default : some (Value.str choice) = some value) :
    (Reader.literal [choice]).read value = some value := by
  obtain rfl := Option.some.inj default
  simp [Reader.literal,Reader.matching,readText]

def sourceContractFields : List Field :=
  [⟨"type",.literal [cdaSourceType],some (.str cdaSourceType),literal_default cdaSourceType⟩,
   ⟨"projection_version",.literal [cdaProjectionVersion],some (.str cdaProjectionVersion),literal_default cdaProjectionVersion⟩]

theorem sourceContract_names : (sourceContractFields.map Field.name).Nodup := by decide

def canonicalDecisionSourceContract : Model := ⟨sourceContractFields,fun _ => true,sourceContract_names⟩

def bindingFields (profile : String) : List Field := [.needed "profile" (.literal [profile]),.needed "sha256" (.matching (hashed ""))]

theorem binding_names (profile : String) : ((bindingFields profile).map Field.name).Nodup := by
  show ["profile","sha256"].Nodup
  decide

def binding (profile : String) : Model := ⟨bindingFields profile,fun _ => true,binding_names profile⟩

def canonicalDecisionChosenBinding : Model := binding cdaChosenBindingProfile
def canonicalDecisionGovernanceIdentityBinding : Model := binding cdaGovernanceIdentityBindingProfile
def canonicalDecisionLineagePromotabilityBinding : Model := binding cdaLineagePromotabilityBindingProfile
def canonicalDecisionTransitionRefusalBinding : Model := binding cdaTransitionRefusalBindingProfile

def projectionFields : List Field :=
  [.needed "formation_status" (.literal ["COMPLETE","INCOMPLETE"]),.needed "chosen_binding" (.nested canonicalDecisionChosenBinding),
   .needed "decision_status" (.literal ["allow","modify","rejected","block","abstain"]),.needed "rejection_reason" (.optional .text),
   .needed "gate_decision" (.literal ["proceed","hold","block","human_review_required"]),
   .needed "business_decision" (.literal ["APPROVE","DENY","HOLD","REVIEW_REQUIRED","POLICY_DEFINITION_REQUIRED","EVIDENCE_REQUIRED"]),
   .needed "next_action" .text,.needed "actionability_status" (.literal preBindActionabilityStates),
   .needed "requires_bind_before_execution" .flag,.needed "human_review_required" .flag,.needed "required_evidence" .texts,
   .needed "missing_evidence" .texts,.needed "satisfied_evidence" .texts,.needed "rationale" (.optional .text),
   .needed "refusal_reason" (.optional .text),.needed "actionability_block_reason" (.optional .text),
   .needed "actionability_refusal_type" (.optional .text),
   .needed "governance_identity_binding" (.optional (.nested canonicalDecisionGovernanceIdentityBinding)),
   .needed "lineage_promotability_binding" (.optional (.nested canonicalDecisionLineagePromotabilityBinding)),
   .needed "transition_refusal_binding" (.optional (.nested canonicalDecisionTransitionRefusalBinding))]

theorem projection_names : (projectionFields.map Field.name).Nodup := by decide

def canonicalDecisionProjection : Model where
  fields := projectionFields
  check := fun shown =>
    (shown.get "formation_status" == .str "COMPLETE") == (shown.get "governance_identity_binding" != .none) &&
      (validateSemantics shown).toOption.isSome
  distinct := projection_names

def artifactFields : List Field :=
  [.needed "format_version" (.literal [cdaFormatVersion]),.needed "hash_profile" (.literal [cdaHashProfile]),
   .needed "decision_id" (.matching (hashed cdaDecisionIdPrefix)),.needed "decision_hash" (.matching (hashed "")),
   .needed "decision_ts" (.matching canonicalTimestamp),.needed "request_id" (.matching (· != "")),
   .needed "source_contract" (.nested canonicalDecisionSourceContract),.needed "decision" (.nested canonicalDecisionProjection)]

theorem artifact_names : (artifactFields.map Field.name).Nodup := by decide

def artifactModel : Model where
  fields := artifactFields
  check := fun shown => normalizeTimestamp padsYear (shown.get "decision_ts").text == some (shown.get "decision_ts").text
  distinct := artifact_names

abbrev CanonicalDecisionArtifact : Type := Instance (artifactModel padsYear)

end Artifacts

def postBindSourceFields : List String :=
  ["bind_outcome","bind_failure_reason","bind_reason_code","bind_receipt_id","execution_intent_id","bound_execution_intent_id",
   "authority_check_result","constraint_check_result","drift_check_result","risk_check_result","bind_summary","bind_operator_summary",
   "bind_operator_detail"]

-- What an attribute declared as a model can hold: None, an instance of that model with its extra members, or another object.
inductive SourceModel where
  | absent
  | held (fields extras : Dict)
  | other (value : Value)

def SourceModel.dumped : SourceModel → Value
  | .absent => .none
  | .held fields extras => .dict (fields ++ extras)
  | .other value => value

def SourceModel.canonical (fieldNames : List String) : SourceModel → Bool
  | .absent => true
  | .held fields extras => (fieldNames.all fun name => isJson (fields.get name)) && isJson (.dict extras)
  | .other value => value == .none

-- The attributes of an instance; attributes that were assigned to it are not validated.
structure DecideResponse where
  attributes : Dict
  lineagePromotability : SourceModel
  transitionRefusal : SourceModel

def attributeNames : List String :=
  ["request_id","chosen","decision_status","rejection_reason","gate_decision","business_decision","next_action","actionability_status",
   "requires_bind_before_execution","human_review_required","required_evidence","missing_evidence","satisfied_evidence","rationale",
   "refusal_reason","actionability_block_reason","actionability_refusal_type","governance_identity"] ++ postBindSourceFields

-- model_dump(mode="python",include=_SOURCE_FIELDS); on JSON data the JSON mode gives the same.
def DecideResponse.modelDump (source : DecideResponse) : Dict :=
  (attributeNames.map fun name => (.str name,source.attributes.get name)) ++
    [(.str "lineage_promotability",source.lineagePromotability.dumped),(.str "transition_refusal",source.transitionRefusal.dumped)]

abbrev Read := Value → Option Value

def mapping : Read
  | .dict members => if members.all (·.1.isStr) then some (.dict members) else none
  | _ => none

def maxDescriptionLength : Nat := 20000
def maxTitleLength : Nat := 1000
def maxListItems : Nat := 100

def bounded (most : Nat) : Read := readText fun s => s.length ≤ most

def evidenceList : Read
  | .list items => if items.length ≤ maxListItems then readTexts (.list items) else none
  | _ => none

def readAll (members : Dict) : List (String × Read) → Option Dict
  | [] => some []
  | (name,read) :: rest => ((lookup (.str name) members).bind read).bind fun shown => (readAll members rest).map ((.str name,shown) :: ·)

def extensible (fields : List (String × Read)) : Read
  | .dict members =>
    (readAll members fields).map fun shown => .dict (shown ++ members.filter fun member => !(fields.map fun field => Key.str field.1).contains member.1)
  | _ => none

def lineagePromotabilityFields : List (String × Read) :=
  [("promotability_family",(Reader.literal ["lineage_promotability"]).read),("promotability_version",bounded maxTitleLength),
   ("promotability_status",(Reader.literal ["promotable","restricted","non_promotable"]).read),
   ("reason_code",readOptional (bounded maxTitleLength)),("invariant_id",bounded maxTitleLength),
   ("source_participation_state",readOptional (bounded maxTitleLength)),
   ("source_preservation_state",readOptional (bounded maxTitleLength)),("transformation_stable",Reader.flag.read),
   ("concise_rationale",readOptional (bounded maxDescriptionLength))]

def transitionRefusalFields : List (String × Read) :=
  [("transition_status",(Reader.literal ["allowed","structurally_refused"]).read),("reason_code",readOptional (bounded maxTitleLength)),
   ("invariant_id",bounded maxTitleLength),
   ("source_promotability_status",readOptional (Reader.literal ["promotable","restricted","non_promotable"]).read),
   ("execution_intent_created",Reader.flag.read),("bind_receipt_created",Reader.flag.read),
   ("concise_rationale",readOptional (bounded maxDescriptionLength))]

-- The fields of DecideResponse as they are validated again: the request id is a text and not empty by then, and the post-Bind fields are None.
def responseFields : List (String × Read) :=
  [("request_id",Reader.text.read),("chosen",mapping),
   ("decision_status",(Reader.literal ["allow","modify","rejected","block","abstain"]).read),
   ("rejection_reason",readOptional Reader.text.read),
   ("gate_decision",(Reader.literal ["proceed","hold","block","human_review_required","allow","deny","modify","rejected","abstain","unknown"]).read),
   ("business_decision",
    (Reader.literal ["APPROVE","DENY","HOLD","REVIEW_REQUIRED","POLICY_DEFINITION_REQUIRED","EVIDENCE_REQUIRED"]).read),
   ("next_action",Reader.text.read),("actionability_status",
    (Reader.literal ["reviewable_only","bind_required_before_execution","actionable_after_bind","blocked","human_review_required",
      "formation_transition_refused"]).read),("requires_bind_before_execution",Reader.flag.read),
   ("human_review_required",Reader.flag.read),("required_evidence",evidenceList),("missing_evidence",evidenceList),
   ("satisfied_evidence",evidenceList),("rationale",readOptional Reader.text.read),("refusal_reason",readOptional Reader.text.read),
   ("actionability_block_reason",readOptional Reader.text.read),("actionability_refusal_type",readOptional Reader.text.read),
   ("governance_identity",readOptional mapping)] ++ (postBindSourceFields.map fun name => (name,readOptional fun _ => none)) ++
  [("lineage_promotability",readOptional (extensible lineagePromotabilityFields)),
   ("transition_refusal",readOptional (extensible transitionRefusalFields))]

def textItems : Value → List String
  | .list items => items.map Value.text
  | _ => []

def textList (texts : List String) : Value := .list (texts.map Value.str)

section Build
variable (sha256 : String → String) (world : World) (padsYear : Bool)

def normalizedEvidence (fields : Dict) : Dict :=
  let keys := fun name => uniquePreserveOrder (normalizeRequiredEvidenceKeys world (textItems (fields.get name)))
  let required := keys "required_evidence"
  let missing := (textItems (fields.get "missing_evidence")).filter fun item =>
    ((normalizeRequiredEvidenceKeys world [item]).head?.map required.contains).getD false
  ((fields.set "required_evidence" (textList required)).set "satisfied_evidence" (textList (keys "satisfied_evidence"))).set
    "missing_evidence" (textList (uniquePreserveOrder missing))

-- What _unify_and_sanitize does to these fields.
def unifyAndSanitize (fields : Dict) : Option Dict :=
  let public_ := fields.set "gate_decision" (.str (canonicalizePublicGateDecision (fields.get "gate_decision")))
  let normalized := if textItems (public_.get "required_evidence") = [] then public_ else normalizedEvidence world public_
  ((validateGateBusinessCombination (normalized.get "gate_decision").text (normalized.get "business_decision").text
    (normalized.get "human_review_required").truthy).toOption).map fun _ => normalized

def revalidated (extracted : Dict) : Option Dict := (readAll extracted responseFields).bind (unifyAndSanitize world)

def isFilled : Value → Bool
  | .str s => s != ""
  | _ => false

def validatedSourceProjection (source : Option DecideResponse) : Packet Dict := do
  let source ← orRefuse "SOURCE_NOT_DECIDE_RESPONSE" source
  refuseWhen (!isFilled (source.attributes.get "request_id")) "SOURCE_REQUEST_ID_MISSING"
  let governance := source.attributes.get "governance_identity"
  refuseWhen (!(isJson (source.attributes.get "chosen") && (governance == .none || isJson governance) &&
    source.lineagePromotability.canonical (lineagePromotabilityFields.map Prod.fst) &&
    source.transitionRefusal.canonical (transitionRefusalFields.map Prod.fst))) "NON_CANONICAL_JSON_VALUE"
  let extracted := source.modelDump
  refuseWhen (postBindSourceFields.any fun name => extracted.get name != .none) "POST_BIND_SOURCE_REFUSED"
  refuseWhen (strictCanonicalJson (.dict extracted)).isNone "NON_CANONICAL_JSON_VALUE"
  let normalized ← orRefuse "SOURCE_NOT_NORMALIZED" (revalidated world extracted)
  refuseWhen (!pyEq (.dict extracted) (.dict normalized)) "SOURCE_NOT_NORMALIZED"
  .ok extracted

def bindingDigest (profile : String) (value : Value) : Option String :=
  (strictCanonicalJson (.dict [(.str "profile",.str profile),(.str "value",value)])).map sha256

def bound (profile : String) (value : Value) : Option Value := do
  let digest ← bindingDigest sha256 profile value
  (Reader.nested (binding profile)).read (.dict [(.str "profile",.str profile),(.str "sha256",.str digest)])

def optionalBinding (profile : String) (value : Value) : Option Value :=
  if value = .none then some .none else bound sha256 profile value

def commonFields : List String :=
  ["decision_status","rejection_reason","gate_decision","business_decision","next_action","actionability_status",
   "requires_bind_before_execution","human_review_required","required_evidence","missing_evidence","satisfied_evidence","rationale",
   "refusal_reason","actionability_block_reason","actionability_refusal_type"]

def buildProjection (source : Dict) : Option (Instance canonicalDecisionProjection) := do
  let governance := source.get "governance_identity"
  let chosen ← bound sha256 cdaChosenBindingProfile (source.get "chosen")
  let identity ← optionalBinding sha256 cdaGovernanceIdentityBindingProfile governance
  let lineage ← optionalBinding sha256 cdaLineagePromotabilityBindingProfile (source.get "lineage_promotability")
  let refusal ← optionalBinding sha256 cdaTransitionRefusalBindingProfile (source.get "transition_refusal")
  canonicalDecisionProjection.parse (.dict
    ([(.str "formation_status",.str (if governance ≠ .none then "COMPLETE" else "INCOMPLETE")),(.str "chosen_binding",chosen),
      (.str "governance_identity_binding",identity),(.str "lineage_promotability_binding",lineage),
      (.str "transition_refusal_binding",refusal)] ++ commonFields.map fun name => (.str name,source.get name)))

def canonicalDecisionPreimage (artifact : Dict) : Value :=
  .dict [(.str "profile",artifact.get "hash_profile"),(.str "format_version",artifact.get "format_version"),
    (.str "request_id",artifact.get "request_id"),(.str "decision_ts",artifact.get "decision_ts"),
    (.str "source_contract",artifact.get "source_contract"),(.str "decision",artifact.get "decision")]

def sourceContract : Value := .dict [(.str "type",.str cdaSourceType),(.str "projection_version",.str cdaProjectionVersion)]

def assembled (requestId : Value) (normalizedTs : String) (normalized : Dict) : Option (CanonicalDecisionArtifact padsYear) := do
  let decision ← buildProjection sha256 normalized
  let preimage : Value := .dict [(.str "profile",.str cdaHashProfile),(.str "format_version",.str cdaFormatVersion),
    (.str "request_id",requestId),(.str "decision_ts",.str normalizedTs),(.str "source_contract",sourceContract),(.str "decision",.dict decision.shown)]
  let decisionHash ← (strictCanonicalJson preimage).map sha256
  (artifactModel padsYear).parse (.dict
    [(.str "format_version",.str cdaFormatVersion),(.str "hash_profile",.str cdaHashProfile),(.str "decision_ts",.str normalizedTs),
     (.str "request_id",requestId),(.str "source_contract",sourceContract),(.str "decision",.dict decision.shown),
     (.str "decision_hash",.str decisionHash),(.str "decision_id",.str (cdaDecisionIdPrefix ++ decisionHash))])

def buildCanonicalDecisionArtifact (source : Option DecideResponse) (decisionTs : Timestamp) : Packet (CanonicalDecisionArtifact padsYear) := do
  let normalized ← validatedSourceProjection world source
  refuseWhen (!(["proceed","hold","block","human_review_required"].contains (normalized.get "gate_decision").text)) "UNRESOLVED_GATE_DECISION"
  refuseWhen (normalized.get "actionability_status" == .str "actionable_after_bind") "POST_BIND_ACTIONABILITY_REFUSED"
  orRefuse "ACTIONABILITY_BOUNDARY_INVALID" (validateSemantics normalized).toOption
  let normalizedTs ← normalizeBuilderTimestamp padsYear decisionTs
  orRefuse "NON_CANONICAL_JSON_VALUE" (assembled sha256 padsYear (normalized.get "request_id") normalizedTs normalized)

structure VerificationResult (Artifact : Type) where
  isValid : Bool
  reasonCodes : List String
  artifact : Option Artifact
  computedDecisionHash : Option String
  expectedDecisionId : Option String

def verificationFailure (reason : String) : VerificationResult (CanonicalDecisionArtifact padsYear) := ⟨false,[reason],none,none,none⟩

-- An instance is read from its dump, a mapping as it is.
def verifyCanonicalDecisionArtifact (artifact : Option Value) : VerificationResult (CanonicalDecisionArtifact padsYear) :=
  match artifact with
  | none => verificationFailure padsYear "ARTIFACT_MISSING"
  | some raw =>
    match (artifactModel padsYear).parse raw with
    | none => verificationFailure padsYear "ARTIFACT_SCHEMA_INVALID"
    | some parsed =>
      match (strictCanonicalJson (canonicalDecisionPreimage parsed.shown)).map sha256 with
      | none => verificationFailure padsYear "ARTIFACT_SCHEMA_INVALID"
      | some computedHash =>
        let expectedId := cdaDecisionIdPrefix ++ computedHash
        let reasons := (if parsed.shown.get "decision_hash" = .str computedHash then [] else ["ARTIFACT_HASH_MISMATCH"]) ++
          (if parsed.shown.get "decision_id" = .str expectedId then [] else ["ARTIFACT_DECISION_ID_MISMATCH"])
        ⟨reasons.isEmpty,reasons,some parsed,some computedHash,some expectedId⟩

def Accepts (presented : Option Value) (a : CanonicalDecisionArtifact padsYear) : Prop :=
  (verifyCanonicalDecisionArtifact sha256 padsYear presented).isValid = true ∧
    (verifyCanonicalDecisionArtifact sha256 padsYear presented).artifact = some a

def Addressed (a : CanonicalDecisionArtifact padsYear) : Prop :=
  ∃ text, strictCanonicalJson (canonicalDecisionPreimage a.shown) = some text ∧ a.shown.get "decision_hash" = .str (sha256 text) ∧
    a.shown.get "decision_id" = .str (cdaDecisionIdPrefix ++ sha256 text)

variable {raw : Value} {a : CanonicalDecisionArtifact padsYear}

theorem accepts_iff : Accepts sha256 padsYear (some raw) a ↔ (artifactModel padsYear).parse raw = some a ∧ Addressed sha256 padsYear a := by
  unfold Accepts verifyCanonicalDecisionArtifact
  dsimp only
  cases read : (artifactModel padsYear).parse raw with
  | none => simp [verificationFailure]
  | some parsed =>
    dsimp only
    cases made : strictCanonicalJson (canonicalDecisionPreimage parsed.shown) with
    | none =>
      simp only [verificationFailure,Option.map_none,Bool.false_eq_true,false_and,false_iff,not_and,Option.some.injEq]
      rintro rfl ⟨text,written,_⟩
      rw [made] at written
      cases written
    | some text =>
      simp only [Option.map_some,Option.some.injEq,List.isEmpty_iff,List.append_eq_nil_iff,ite_eq_left_iff,reduceCtorEq,imp_false,not_not]
      constructor
      · rintro ⟨⟨hash,id⟩,rfl⟩
        exact ⟨rfl,text,made,hash,id⟩
      · rintro ⟨rfl,written,remade,hash,id⟩
        obtain rfl := Option.some.inj (made.symm.trans remade)
        exact ⟨⟨hash,id⟩,rfl⟩

theorem strictCanonicalJson_some (made : strictCanonicalJson value = some text) :
    isJson value = true ∧ canonicalJsonDumps value = some text := by
  simpa [strictCanonicalJson] using made

theorem sourceContract_kept : (Reader.nested canonicalDecisionSourceContract).read sourceContract = some sourceContract := by decide

theorem assembled_addressed (made : assembled sha256 padsYear requestId normalizedTs normalized = some a) : Addressed sha256 padsYear a := by
  simp only [assembled,Option.bind_eq_bind,Option.bind_eq_some_iff,Option.map_eq_some_iff] at made
  obtain ⟨decision,_,decisionHash,⟨text,written,rfl⟩,read⟩ := made
  have field {name : String} {reader : Reader} (listed : Field.needed name reader ∈ artifactFields) {value : Value} :=
    @needed_get value _ _ _ read _ _ listed
  have version : a.shown.get "format_version" = .str cdaFormatVersion :=
    (matching_kept (field (show Field.needed "format_version" (.literal [cdaFormatVersion]) ∈ artifactFields by simp [artifactFields]) rfl)).1
  have profile : a.shown.get "hash_profile" = .str cdaHashProfile :=
    (matching_kept (field (show Field.needed "hash_profile" (.literal [cdaHashProfile]) ∈ artifactFields by simp [artifactFields]) rfl)).1
  have id : a.shown.get "decision_id" = .str (cdaDecisionIdPrefix ++ sha256 text) :=
    (matching_kept (field (show Field.needed "decision_id" (.matching (hashed cdaDecisionIdPrefix)) ∈ artifactFields by simp [artifactFields]) rfl)).1
  have hash : a.shown.get "decision_hash" = .str (sha256 text) :=
    (matching_kept (field (show Field.needed "decision_hash" (.matching (hashed "")) ∈ artifactFields by simp [artifactFields]) rfl)).1
  have stamp : a.shown.get "decision_ts" = .str normalizedTs :=
    (matching_kept (field (show Field.needed "decision_ts" (.matching canonicalTimestamp) ∈ artifactFields by simp [artifactFields]) rfl)).1
  have request : a.shown.get "request_id" = requestId :=
    (matching_kept (field (show Field.needed "request_id" (.matching (· != "")) ∈ artifactFields by simp [artifactFields]) rfl)).1
  have contract : a.shown.get "source_contract" = sourceContract := by
    have kept := field (show Field.needed "source_contract" (.nested canonicalDecisionSourceContract) ∈ artifactFields by simp [artifactFields]) rfl
    exact (Option.some.inj (sourceContract_kept.symm.trans kept)).symm
  have projected : a.shown.get "decision" = .dict decision.shown := by
    have kept := field (show Field.needed "decision" (.nested canonicalDecisionProjection) ∈ artifactFields by simp [artifactFields]) rfl
    exact (Option.some.inj ((nested_self decision).symm.trans kept)).symm
  refine ⟨text,?_,hash,id⟩
  rw [canonicalDecisionPreimage,version,profile,stamp,request,contract,projected]
  exact written

theorem built_addressed
    (built : buildCanonicalDecisionArtifact sha256 world padsYear source decisionTs = .ok a) : Addressed sha256 padsYear a := by
  simp only [buildCanonicalDecisionArtifact,bind_ok,exists_unit,orRefuse_ok,refuseWhen_ok] at built
  obtain ⟨normalized,_,_,_,_,normalizedTs,_,made⟩ := built
  exact assembled_addressed sha256 padsYear made

theorem built_instant (source : Option DecideResponse) (one : first.instant = some instant) (other : second.instant = some instant) :
    buildCanonicalDecisionArtifact sha256 world padsYear source first = buildCanonicalDecisionArtifact sha256 world padsYear source second := by
  unfold buildCanonicalDecisionArtifact
  rw [normalized_instant padsYear one other]

def preimageFields : List (String × String) :=
  [("profile","hash_profile"),("format_version","format_version"),("request_id","request_id"),("decision_ts","decision_ts"),
   ("source_contract","source_contract"),("decision","decision")]

theorem preimage_get (artifact members : Dict) (spelled : canonicalDecisionPreimage artifact = .dict members)
    (listed : (field,name) ∈ preimageFields) : members.get field = artifact.get name := by
  obtain rfl := Value.dict.inj spelled
  simp only [preimageFields,List.mem_cons,Prod.mk.injEq,List.not_mem_nil,or_false] at listed
  rcases listed with ⟨rfl,rfl⟩ | ⟨rfl,rfl⟩ | ⟨rfl,rfl⟩ | ⟨rfl,rfl⟩ | ⟨rfl,rfl⟩ | ⟨rfl,rfl⟩ <;> rfl

theorem addressed_same (first : Addressed sha256 padsYear a)
    (second : Addressed sha256 padsYear b) (same : a.shown.get "decision_id" = b.shown.get "decision_id")
    (apart : Distinguishes sha256 (canonicalDecisionPreimage a.shown) (canonicalDecisionPreimage b.shown)) : a = b := by
  obtain ⟨s,one,hash,id⟩ := first
  obtain ⟨t,other,rehash,reid⟩ := second
  obtain ⟨left,dumped⟩ := strictCanonicalJson_some one
  obtain ⟨right,redumped⟩ := strictCanonicalJson_some other
  have digests : sha256 s = sha256 t := by
    have equal : cdaDecisionIdPrefix ++ sha256 s = cdaDecisionIdPrefix ++ sha256 t := Value.str.inj (id.symm.trans (same.trans reid))
    exact String.append_right_inj cdaDecisionIdPrefix |>.mp equal
  have document := distinguished apart dumped redumped digests
  have part (field name : String) (listed : (field,name) ∈ preimageFields) : SameJson (a.shown.get name) (b.shown.get name) := by
    have inside := sameJson_get left right document field
    rw [preimage_get a.shown _ rfl listed,preimage_get b.shown _ rfl listed] at inside
    exact inside
  refine instance_same fun field listed => ?_
  simp only [artifactModel,artifactFields,List.mem_cons,List.not_mem_nil,or_false] at listed
  rcases listed with rfl | rfl | rfl | rfl | rfl | rfl | rfl | rfl
  · exact part "format_version" "format_version" (by decide)
  · exact part "profile" "hash_profile" (by decide)
  · show toJson true (a.shown.get "decision_id") = toJson true (b.shown.get "decision_id")
    rw [same]
  · show toJson true (a.shown.get "decision_hash") = toJson true (b.shown.get "decision_hash")
    rw [hash,rehash,digests]
  · exact part "decision_ts" "decision_ts" (by decide)
  · exact part "request_id" "request_id" (by decide)
  · exact part "source_contract" "source_contract" (by decide)
  · exact part "decision" "decision" (by decide)

theorem accepts_equal (addressed : Addressed sha256 padsYear a) (same : pyEq (.dict a.shown) raw = true) :
    Accepts sha256 padsYear (some raw) a :=
  (accepts_iff sha256 padsYear).mpr ⟨parse_equal same,addressed⟩

theorem typed_text (read : (artifactModel padsYear).parse raw = some a)
    (reread : (artifactModel padsYear).parse other = some a) (typed : (artifactModel padsYear).typed raw = true)
    (retyped : (artifactModel padsYear).typed other = true) :
    ∃ text, canonicalJsonDumps raw = some text ∧ canonicalJsonDumps other = some text := by
  obtain ⟨written,made⟩ := Option.isSome_iff_exists.mp (isJson_recordable _ (instance_json a))
  have left := typed_same typed (parse_some.mp read)
  have right := typed_same retyped (parse_some.mp reread)
  refine ⟨dumps compact written,?_,?_⟩
  · rw [canonicalJsonDumps,show toJson true raw = some written from left.symm.trans made]
    rfl
  · rw [canonicalJsonDumps,show toJson true other = some written from right.symm.trans made]
    rfl

end Build

def sampleResponse : DecideResponse where
  attributes :=
    [(.str "request_id",.str "req-1"),(.str "chosen",.dict [(.str "title",.str "wait"),(.str "score",.int 1)]),(.str "decision_status",.str "allow"),
     (.str "gate_decision",.str "hold"),(.str "business_decision",.str "HOLD"),(.str "next_action",.str "REVISE_AND_RESUBMIT"),
     (.str "actionability_status",.str "reviewable_only"),(.str "requires_bind_before_execution",.bool true),
     (.str "human_review_required",.bool false),(.str "required_evidence",.list []),(.str "missing_evidence",.list []),
     (.str "satisfied_evidence",.list [])]
  lineagePromotability := .absent
  transitionRefusal := .absent

def sampleSha256 : String → String := fun _ => String.ofList (List.replicate 64 'a')

def sampleBuilt (decisionTs : String) : Packet (CanonicalDecisionArtifact true) :=
  buildCanonicalDecisionArtifact sampleSha256 PipelineResponse.responseWorld.toWorld true (some sampleResponse) (.text decisionTs)

theorem sample_built : ((sampleBuilt "2030-01-01T09:00:00+09:00").toOption.map fun a => a.shown.get "decision_ts") =
    some (.str "2030-01-01T00:00:00.000000Z") := by
  decide +kernel

theorem sample_instants : (Timestamp.text "2030-01-01T09:00:00+09:00").instant = some 64029052800000000 ∧
    (Timestamp.text "2030-01-01T00:00:00Z").instant = some 64029052800000000 := by
  decide +kernel

end VeritasOs.DecisionArtifact
