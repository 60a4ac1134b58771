import VeritasOs.JsonData
import VeritasOs.PipelineResponse

namespace VeritasOs.CandidatePromotion
open Text JsonText BindArtifacts

def hardRequiredFields : List String := ["action_type","actor_identity","target_system","target_resource","intended_action"]

def indeterminateRiskLevels : List String := ["","unknown","indeterminate"]

def humanApprovalTrueValues : List String := ["true","yes","approved","required"]
def humanApprovalFalseValues : List String := ["false","no","not_required","none"]
def regulatedTrueValues : List String := ["true","yes","high","regulated"]
def regulatedFalseValues : List String := ["false","no","none"]

-- A candidate as normalize_decision_candidate leaves it: a string field that held null stays None.
@[ext] structure DecisionCandidate where
  candidateId : Option String
  sourceModel : Option String
  sourceTraceRef : Option String
  candidateType : Option String
  actionType : Option String
  actorIdentity : Option String
  targetSystem : Option String
  targetResource : Option String
  intendedAction : Option String
  requiredAuthority : List String
  requiredHumanApproval : Option Bool
  riskLevel : String
  regulatedOrHighImpact : Bool
  evidenceRefs : List String
  policyContextRefs : List String
  ambiguityFlags : List String
  missingRequiredFields : List String
  candidateRationaleRef : Option String
  metadata : Dict

def optBool : Option Bool → Value
  | none => .none
  | some b => .bool b

def DecisionCandidate.toDict (c : DecisionCandidate) : Dict :=
  [field "candidate_id" (optStr c.candidateId),field "source_model" (optStr c.sourceModel),field "source_trace_ref" (optStr c.sourceTraceRef),
   field "candidate_type" (optStr c.candidateType),field "action_type" (optStr c.actionType),field "actor_identity" (optStr c.actorIdentity),
   field "target_system" (optStr c.targetSystem),field "target_resource" (optStr c.targetResource),
   field "intended_action" (optStr c.intendedAction),field "required_authority" (strList c.requiredAuthority),
   field "required_human_approval" (optBool c.requiredHumanApproval),field "risk_level" (.str c.riskLevel),
   field "regulated_or_high_impact" (.bool c.regulatedOrHighImpact),field "evidence_refs" (strList c.evidenceRefs),
   field "policy_context_refs" (strList c.policyContextRefs),field "ambiguity_flags" (strList c.ambiguityFlags),
   field "missing_required_fields" (strList c.missingRequiredFields),field "candidate_rationale_ref" (optStr c.candidateRationaleRef),
   field "metadata" (.dict c.metadata)]

def stripString : Value → Option String
  | .none => none
  | value => some (strip value.text)

def stringField (raw : Dict) (name : String) (default : Option String) : Option String :=
  match lookup (.str name) raw with
  | some value => stripString value
  | none => default

def rawValues : Value → List Value
  | .none => []
  | .list items => items
  | .tuple items => items
  | value => [value]

def addItem (normalized : List String) (raw : Value) : List String :=
  if strip raw.text = "" ∨ strip raw.text ∈ normalized then normalized else normalized ++ [strip raw.text]

def normalizeStringList (value : Value) : List String := (rawValues value).foldl addItem []

def normalizeMetadata : Value → Dict
  | .none => []
  | .dict members => members
  | value => [(.str "raw",value)]

def word (value : Value) : String := lower (strip value.text)

def normalizeRequiredHumanApproval : Value → Option Bool
  | .bool b => some b
  | .none => none
  | value =>
    if humanApprovalTrueValues.contains (word value) then some true
    else if humanApprovalFalseValues.contains (word value) then some false
    else none

def normalizeRegulatedOrHighImpact : Value → Bool
  | .bool b => b
  | value =>
    if regulatedTrueValues.contains (word value) then true
    else if regulatedFalseValues.contains (word value) then false
    else false

def normalizeRiskLevel (stripped : Option String) : String :=
  let riskLevel := lower (strip (stripped.getD ""))
  if riskLevel = "" then "unknown" else riskLevel

-- The fresh identifier is uuid4().hex, the default of candidate_id.
def normalizeDecisionCandidate (fresh : String) (raw : Dict) : DecisionCandidate where
  candidateId := stringField raw "candidate_id" (some fresh)
  sourceModel := stringField raw "source_model" (some "")
  sourceTraceRef := stringField raw "source_trace_ref" none
  candidateType := stringField raw "candidate_type" (some "execution_intent_candidate")
  actionType := stringField raw "action_type" (some "")
  actorIdentity := stringField raw "actor_identity" (some "")
  targetSystem := stringField raw "target_system" (some "")
  targetResource := stringField raw "target_resource" (some "")
  intendedAction := stringField raw "intended_action" (some "")
  requiredAuthority := normalizeStringList (raw.get "required_authority")
  requiredHumanApproval := normalizeRequiredHumanApproval (raw.get "required_human_approval")
  riskLevel := normalizeRiskLevel (stringField raw "risk_level" none)
  regulatedOrHighImpact := normalizeRegulatedOrHighImpact (raw.get "regulated_or_high_impact")
  evidenceRefs := normalizeStringList (raw.get "evidence_refs")
  policyContextRefs := normalizeStringList (raw.get "policy_context_refs")
  ambiguityFlags := normalizeStringList (raw.get "ambiguity_flags")
  missingRequiredFields := normalizeStringList (raw.get "missing_required_fields")
  candidateRationaleRef := stringField raw "candidate_rationale_ref" none
  metadata := normalizeMetadata (raw.get "metadata")

inductive PromotionStatus where
  | promotable | refused | humanReviewRequired
deriving DecidableEq

structure ValidationResult where
  promotionStatus : PromotionStatus
  promotable : Bool
  requiresHumanReview : Bool
  failClosed : Bool
  reasonCodes : List String
  missingRequiredFields : List String
  ambiguityFlags : List String

def isBlank (value : Option String) : Bool := strip (value.getD "") == ""

-- getattr(candidate,field_name) of the fields in their order.
def DecisionCandidate.hardRequired (c : DecisionCandidate) : List (String × Option String) :=
  [("action_type",c.actionType),("actor_identity",c.actorIdentity),("target_system",c.targetSystem),("target_resource",c.targetResource),
   ("intended_action",c.intendedAction)]

def missingFields (c : DecisionCandidate) : List String :=
  c.hardRequired.foldl (fun missing entry => if isBlank entry.2 && !missing.contains entry.1 then missing ++ [entry.1] else missing)
    c.missingRequiredFields

def reasonWhen (found : Bool) (code : String) : List String := if found then [code] else []

-- The checks in their order; each has a code of its own, so that none is appended twice.
def reasons (c : DecisionCandidate) : List String :=
  let missing := !(missingFields c).isEmpty
  reasonWhen missing "DECISION_CANDIDATE_MISSING_REQUIRED_FIELD" ++ reasonWhen (!c.ambiguityFlags.isEmpty) "DECISION_CANDIDATE_AMBIGUOUS" ++
  reasonWhen c.requiredAuthority.isEmpty "DECISION_CANDIDATE_AUTHORITY_UNSPECIFIED" ++
  reasonWhen c.requiredHumanApproval.isNone "DECISION_CANDIDATE_HUMAN_APPROVAL_UNCLEAR" ++
  reasonWhen (c.regulatedOrHighImpact && indeterminateRiskLevels.contains (lower (strip c.riskLevel))) "DECISION_CANDIDATE_RISK_INDETERMINATE" ++
  reasonWhen ((c.candidateRationaleRef.getD "") != "" && missing) "DECISION_CANDIDATE_RATIONALE_ONLY"

def validateDecisionCandidate (fresh : String) (candidate : DecisionCandidate) : ValidationResult :=
  let c := normalizeDecisionCandidate fresh candidate.toDict
  let missing := missingFields c
  let requiresHumanReview := !c.ambiguityFlags.isEmpty || c.requiredHumanApproval.isNone ||
    (c.regulatedOrHighImpact && indeterminateRiskLevels.contains (lower (strip c.riskLevel)))
  let failClosed := !missing.isEmpty || c.requiredAuthority.isEmpty
  let promotable := (reasons c).isEmpty
  { promotionStatus := if promotable then .promotable else if requiresHumanReview && !failClosed then .humanReviewRequired else .refused
    promotable := promotable
    requiresHumanReview := requiresHumanReview
    failClosed := failClosed
    reasonCodes := if promotable then ["DECISION_CANDIDATE_PROMOTABLE"] else reasons c
    missingRequiredFields := missing
    ambiguityFlags := c.ambiguityFlags }

structure Lineage where
  decisionId : String := ""
  requestId : String := ""
  policySnapshotId : String := ""
  decisionHash : String := ""
  decisionTs : String := ""
  ttlSeconds : Option Int := none
  expectedStateFingerprint : Option String := none
  approvalContext : Option Dict := none
  policyLineage : Option Dict := none

structure PromotionResult where
  promoted : Bool
  executionIntent : Option ExecutionIntent
  validationResult : ValidationResult
  normalizedCandidate : DecisionCandidate
  refusalReasonCodes : List String
  requiresHumanReview : Bool
  failClosed : Bool

structure Fresh where
  candidateId : String
  executionIntentId : String

-- The four texts of a candidate that is promoted are not None.
def tryPromoteDecisionCandidateToExecutionIntent (fresh : Fresh) (lineage : Lineage) (raw : Dict) : PromotionResult :=
  let normalized := normalizeDecisionCandidate fresh.candidateId raw
  let validation := validateDecisionCandidate fresh.candidateId normalized
  if !validation.promotable then
    { promoted := false
      executionIntent := none
      validationResult := validation
      normalizedCandidate := normalized
      refusalReasonCodes := validation.reasonCodes
      requiresHumanReview := validation.requiresHumanReview
      failClosed := validation.failClosed }
  else
    { promoted := true
      executionIntent := some
        { executionIntentId := fresh.executionIntentId
          decisionId := lineage.decisionId
          requestId := lineage.requestId
          policySnapshotId := lineage.policySnapshotId
          actorIdentity := normalized.actorIdentity.getD ""
          targetSystem := normalized.targetSystem.getD ""
          targetResource := normalized.targetResource.getD ""
          intendedAction := normalized.intendedAction.getD ""
          evidenceRefs := normalized.evidenceRefs
          decisionHash := lineage.decisionHash
          decisionTs := lineage.decisionTs
          ttlSeconds := lineage.ttlSeconds
          expectedStateFingerprint := lineage.expectedStateFingerprint
          approvalContext := lineage.approvalContext
          policyLineage := lineage.policyLineage }
      validationResult := validation
      normalizedCandidate := normalized
      refusalReasonCodes := []
      requiresHumanReview := false
      failClosed := false }

def Normal (items : List String) : Prop := (∀ item ∈ items, strip item = item ∧ item ≠ "") ∧ items.Nodup

theorem addItem_normal (kept : List String) (raw : Value) (normal : Normal kept) : Normal (addItem kept raw) := by
  obtain ⟨clean,distinct⟩ := normal
  unfold addItem
  by_cases skipped : strip raw.text = "" ∨ strip raw.text ∈ kept
  · rw [if_pos skipped]
    exact ⟨clean,distinct⟩
  · rw [if_neg skipped]
    simp only [not_or] at skipped
    constructor
    · intro item listed
      rcases List.mem_append.mp listed with old | new
      · exact clean item old
      · obtain rfl := List.mem_singleton.mp new
        exact ⟨strip_strip _,skipped.1⟩
    · apply List.nodup_append.mpr
      refine ⟨distinct,by simp,fun item old other new => ?_⟩
      obtain rfl := List.mem_singleton.mp new
      rintro rfl
      exact skipped.2 old

theorem listed_normal (value : Value) : Normal (normalizeStringList value) := by
  unfold normalizeStringList
  have run : ∀ (raws : List Value) (kept : List String), Normal kept → Normal (raws.foldl addItem kept) := by
    intro raws
    induction raws with
    | nil => exact fun kept normal => normal
    | cons raw rest ih =>
      intro kept normal
      have first := addItem_normal kept raw normal
      rw [List.foldl_cons]
      exact @ih _ first
  have empty : Normal [] := ⟨by simp,List.nodup_nil⟩
  exact @run _ _ empty

theorem listed_empty (value : Value) : normalizeStringList value = [] ↔ ∀ raw ∈ rawValues value, strip raw.text = "" := by
  unfold normalizeStringList
  generalize rawValues value = raws
  have grown : ∀ (raws : List Value) (kept : List String), kept ≠ [] → raws.foldl addItem kept ≠ [] := by
    intro raws
    induction raws with
    | nil => exact fun kept some_ => some_
    | cons raw rest ih =>
      intro kept some_
      apply ih
      unfold addItem
      split
      · exact some_
      · simp
  induction raws with
  | nil => simp
  | cons raw rest ih =>
    by_cases blank : strip raw.text = ""
    · simp [addItem,blank,ih]
    · have whole := grown rest [strip raw.text] (by simp)
      simpa [addItem,blank] using whole

theorem listed_again (value : Value) : normalizeStringList (strList (normalizeStringList value)) = normalizeStringList value := by
  obtain ⟨clean,distinct⟩ := listed_normal value
  generalize normalizeStringList value = items at clean distinct
  unfold normalizeStringList
  have run : ∀ (items kept : List String), (∀ item ∈ items, strip item = item ∧ item ≠ "") → (kept ++ items).Nodup →
      (items.map Value.str).foldl addItem kept = kept ++ items := by
    intro items
    induction items with
    | nil => simp
    | cons head rest ih =>
      intro kept clean distinct
      rw [List.forall_mem_cons] at clean
      have fresh : head ∉ kept := fun old => (List.disjoint_of_nodup_append distinct) old List.mem_cons_self
      have step := ih (kept ++ [head]) clean.2 (by simpa using distinct)
      simpa [addItem,Value.text,clean.1.1,clean.1.2,fresh] using step
  simpa [strList,rawValues] using run items [] clean (by simpa using distinct)

theorem stripString_again (value : Value) : stripString (optStr (stripString value)) = stripString value := by
  cases value with
  | none => rfl
  | _ => simp [stripString,optStr,Value.text,strip_strip]

theorem stringField_again (raw : Dict) (name : String) {default : Option String} (stripped : stripString (optStr default) = default) :
    stripString (optStr (stringField raw name default)) = stringField raw name default := by
  unfold stringField
  cases lookup (.str name) raw with
  | none => exact stripped
  | some value => exact stripString_again value

theorem approval_again (value : Value) :
    normalizeRequiredHumanApproval (optBool (normalizeRequiredHumanApproval value)) = normalizeRequiredHumanApproval value := by
  cases normalizeRequiredHumanApproval value <;> rfl

theorem riskLevel_word (stripped : Option String) : lower (strip (normalizeRiskLevel stripped)) = normalizeRiskLevel stripped := by
  unfold normalizeRiskLevel
  dsimp only
  split
  · decide
  · rw [PipelineResponse.strip_lower,strip_strip,PipelineResponse.lower_lower]

theorem riskLevel_filled (stripped : Option String) : normalizeRiskLevel stripped ≠ "" := by
  unfold normalizeRiskLevel
  dsimp only
  split
  · decide
  · assumption

theorem riskLevel_again (stripped : Option String) : normalizeRiskLevel (stripString (.str (normalizeRiskLevel stripped))) = normalizeRiskLevel stripped := by
  have form : normalizeRiskLevel (stripString (.str (normalizeRiskLevel stripped))) =
      if lower (strip (strip (normalizeRiskLevel stripped))) = "" then "unknown" else lower (strip (strip (normalizeRiskLevel stripped))) := rfl
  rw [form,strip_strip,riskLevel_word,if_neg (riskLevel_filled stripped)]

def fieldNames : List String :=
  ["candidate_id","source_model","source_trace_ref","candidate_type","action_type","actor_identity","target_system","target_resource",
   "intended_action","required_authority","required_human_approval","risk_level","regulated_or_high_impact","evidence_refs",
   "policy_context_refs","ambiguity_flags","missing_required_fields","candidate_rationale_ref","metadata"]

theorem fieldNames_nodup : fieldNames.Nodup := by decide

variable {name : String} {value : Value}

theorem toDict_lookup (c : DecisionCandidate) (listed : field name value ∈ c.toDict) : lookup (.str name) c.toDict = some value := by
  have keys : c.toDict.map Prod.fst = fieldNames.map Key.str := rfl
  apply lookup_of_mem
  · rw [keys]
    exact fieldNames_nodup.map fun _ _ same => Key.str.inj same
  · exact listed

theorem toDict_get (c : DecisionCandidate) (place : Nat) (there : c.toDict[place]? = some (field name value)) :
    c.toDict.get name = value := by
  rw [Dict.get,toDict_lookup c (List.mem_of_getElem? there),Option.getD_some]

theorem toDict_string (c : DecisionCandidate) (place : Nat) (default : Option String) (there : c.toDict[place]? = some (field name value)) :
    stringField c.toDict name default = stripString value := by
  rw [stringField,toDict_lookup c (List.mem_of_getElem? there)]

def renormalized (c : DecisionCandidate) : DecisionCandidate where
  candidateId := stripString (optStr c.candidateId)
  sourceModel := stripString (optStr c.sourceModel)
  sourceTraceRef := stripString (optStr c.sourceTraceRef)
  candidateType := stripString (optStr c.candidateType)
  actionType := stripString (optStr c.actionType)
  actorIdentity := stripString (optStr c.actorIdentity)
  targetSystem := stripString (optStr c.targetSystem)
  targetResource := stripString (optStr c.targetResource)
  intendedAction := stripString (optStr c.intendedAction)
  requiredAuthority := normalizeStringList (strList c.requiredAuthority)
  requiredHumanApproval := normalizeRequiredHumanApproval (optBool c.requiredHumanApproval)
  riskLevel := normalizeRiskLevel (stripString (.str c.riskLevel))
  regulatedOrHighImpact := c.regulatedOrHighImpact
  evidenceRefs := normalizeStringList (strList c.evidenceRefs)
  policyContextRefs := normalizeStringList (strList c.policyContextRefs)
  ambiguityFlags := normalizeStringList (strList c.ambiguityFlags)
  missingRequiredFields := normalizeStringList (strList c.missingRequiredFields)
  candidateRationaleRef := stripString (optStr c.candidateRationaleRef)
  metadata := c.metadata

theorem normalize_toDict (fresh : String) (c : DecisionCandidate) : normalizeDecisionCandidate fresh c.toDict = renormalized c := by
  unfold normalizeDecisionCandidate renormalized
  rw [toDict_string c 0 _ rfl,toDict_string c 1 _ rfl,toDict_string c 2 _ rfl,toDict_string c 3 _ rfl,toDict_string c 4 _ rfl,
    toDict_string c 5 _ rfl,toDict_string c 6 _ rfl,toDict_string c 7 _ rfl,toDict_string c 8 _ rfl,toDict_get c 9 rfl,toDict_get c 10 rfl,
    toDict_string c 11 _ rfl,toDict_get c 12 rfl,toDict_get c 13 rfl,toDict_get c 14 rfl,toDict_get c 15 rfl,toDict_get c 16 rfl,
    toDict_string c 17 _ rfl,toDict_get c 18 rfl]
  rfl

theorem normalize_again (fresh other : String) (raw : Dict) :
    normalizeDecisionCandidate fresh (normalizeDecisionCandidate other raw).toDict = { normalizeDecisionCandidate other raw with
        candidateId := stripString (optStr (normalizeDecisionCandidate other raw).candidateId) } := by
  have empty_ : stripString (optStr (some "")) = some "" := by decide
  have intent_ : stripString (optStr (some "execution_intent_candidate")) = some "execution_intent_candidate" := by decide
  rw [normalize_toDict]
  apply DecisionCandidate.ext
  case candidateId => rfl
  case sourceModel => exact stringField_again raw _ empty_
  case sourceTraceRef => exact stringField_again raw _ rfl
  case candidateType => exact stringField_again raw _ intent_
  case actionType => exact stringField_again raw _ empty_
  case actorIdentity => exact stringField_again raw _ empty_
  case targetSystem => exact stringField_again raw _ empty_
  case targetResource => exact stringField_again raw _ empty_
  case intendedAction => exact stringField_again raw _ empty_
  case requiredAuthority => exact listed_again (raw.get "required_authority")
  case requiredHumanApproval => exact approval_again (raw.get "required_human_approval")
  case riskLevel =>
    dsimp only [renormalized,normalizeDecisionCandidate]
    apply riskLevel_again
  case regulatedOrHighImpact => rfl
  case evidenceRefs => exact listed_again (raw.get "evidence_refs")
  case policyContextRefs => exact listed_again (raw.get "policy_context_refs")
  case ambiguityFlags => exact listed_again (raw.get "ambiguity_flags")
  case missingRequiredFields => exact listed_again (raw.get "missing_required_fields")
  case candidateRationaleRef => exact stringField_again raw _ rfl
  case metadata => rfl

theorem missingFields_empty (c : DecisionCandidate) :
    missingFields c = [] ↔ c.missingRequiredFields = [] ∧ ∀ entry ∈ c.hardRequired, isBlank entry.2 = false := by
  unfold missingFields
  generalize c.hardRequired = entries
  generalize c.missingRequiredFields = declared
  induction entries generalizing declared with
  | nil => simp
  | cons entry rest ih =>
    rw [List.foldl_cons,ih,List.forall_mem_cons]
    cases blank : isBlank entry.2 with
    | false => simp
    | true =>
      by_cases listed : entry.1 ∈ declared
      · have some_ : declared ≠ [] := List.ne_nil_of_mem listed
        simp [listed,some_]
      · simp [listed]

structure Complete (raw : Dict) : Prop where
  filled : ∀ name ∈ hardRequiredFields, raw.get name ≠ .none ∧ strip (raw.get name).text ≠ ""
  authority : ∃ item ∈ rawValues (raw.get "required_authority"), strip item.text ≠ ""
  unambiguous : ∀ item ∈ rawValues (raw.get "ambiguity_flags"), strip item.text = ""
  undeclared : ∀ item ∈ rawValues (raw.get "missing_required_fields"), strip item.text = ""
  approval : normalizeRequiredHumanApproval (raw.get "required_human_approval") ≠ none
  risk : normalizeRegulatedOrHighImpact (raw.get "regulated_or_high_impact") = true →
    raw.get "risk_level" ≠ .none ∧ word (raw.get "risk_level") ∉ indeterminateRiskLevels

theorem stringField_get (raw : Dict) (name : String) : stringField raw name none = stripString (raw.get name) := by
  unfold stringField Dict.get
  cases lookup (.str name) raw <;> rfl

theorem blank_get (raw : Dict) (name : String) :
    isBlank (stringField raw name (some "")) = false ↔ raw.get name ≠ .none ∧ strip (raw.get name).text ≠ "" := by
  unfold stringField Dict.get
  cases lookup (.str name) raw with
  | none =>
    have empty_ : isBlank (some "") = true := by decide
    simp [empty_]
  | some value =>
    cases value with
    | none =>
      have empty_ : isBlank none = true := by decide
      simp [stripString,empty_]
    | _ => simp [stripString,isBlank,strip_strip]

theorem indeterminate_get (raw : Dict) :
    indeterminateRiskLevels.contains (lower (strip (normalizeRiskLevel (stringField raw "risk_level" none)))) = false ↔
      raw.get "risk_level" ≠ .none ∧ word (raw.get "risk_level") ∉ indeterminateRiskLevels := by
  rw [riskLevel_word,stringField_get]
  generalize raw.get "risk_level" = value
  by_cases absent : value = .none
  · subst absent
    have unknown : indeterminateRiskLevels.contains (normalizeRiskLevel (stripString .none)) = true := by decide
    simpa using unknown
  · have stripped : stripString value = some (strip value.text) := by
      cases value with
      | none => exact absurd rfl absent
      | _ => rfl
    have form : normalizeRiskLevel (stripString value) = if word value = "" then "unknown" else word value := by
      rw [stripped]
      unfold normalizeRiskLevel word
      simp only [Option.getD_some,strip_strip]
    rw [form]
    by_cases blank : word value = ""
    · simp [blank,indeterminateRiskLevels]
    · simp [blank,absent]

theorem reasonWhen_empty (found : Bool) (code : String) : reasonWhen found code = [] ↔ found = false := by
  cases found <;> simp [reasonWhen]

theorem reasons_empty (c : DecisionCandidate) :
    (reasons c).isEmpty = true ↔ missingFields c = [] ∧ c.ambiguityFlags = [] ∧ c.requiredAuthority ≠ [] ∧ c.requiredHumanApproval ≠ none ∧
      (c.regulatedOrHighImpact = true → indeterminateRiskLevels.contains (lower (strip c.riskLevel)) = false) := by
  unfold reasons
  simp only [List.isEmpty_iff,List.append_eq_nil_iff,reasonWhen_empty,Bool.not_eq_false',Bool.and_eq_false_iff,List.isEmpty_eq_false_iff,
    Option.isNone_eq_false_iff,Option.isSome_iff_ne_none]
  constructor
  · rintro ⟨⟨⟨⟨⟨missing,flags⟩,authority⟩,approval⟩,risk⟩,_⟩
    refine ⟨missing,flags,authority,approval,fun regulated => ?_⟩
    rcases risk with other | known
    · rw [regulated] at other
      cases other
    · exact known
  · rintro ⟨missing,flags,authority,approval,risk⟩
    refine ⟨⟨⟨⟨⟨missing,flags⟩,authority⟩,approval⟩,?_⟩,.inr (by simp [missing])⟩
    cases regulated : c.regulatedOrHighImpact with
    | false => exact .inl rfl
    | true => exact .inr (risk regulated)

theorem promotable_reasons (fresh : String) (raw : Dict) :
    (validateDecisionCandidate fresh (normalizeDecisionCandidate fresh raw)).promotable = (reasons (normalizeDecisionCandidate fresh raw)).isEmpty := by
  unfold validateDecisionCandidate
  dsimp only
  rw [normalize_again]
  generalize normalizeDecisionCandidate fresh raw = c
  rfl

theorem promoted_promotable (fresh : Fresh) (lineage : Lineage) (raw : Dict) :
    (tryPromoteDecisionCandidateToExecutionIntent fresh lineage raw).promoted =
      (validateDecisionCandidate fresh.candidateId (normalizeDecisionCandidate fresh.candidateId raw)).promotable := by
  unfold tryPromoteDecisionCandidateToExecutionIntent
  dsimp only
  cases (validateDecisionCandidate fresh.candidateId (normalizeDecisionCandidate fresh.candidateId raw)).promotable <;> rfl

theorem promoted_iff (fresh : Fresh) (lineage : Lineage) (raw : Dict) :
    (tryPromoteDecisionCandidateToExecutionIntent fresh lineage raw).promoted = true ↔ Complete raw := by
  have listed (name : String) : normalizeStringList (raw.get name) ≠ [] ↔ ∃ item ∈ rawValues (raw.get name), strip item.text ≠ "" := by
    rw [ne_eq,listed_empty]
    simp
  rw [promoted_promotable,promotable_reasons,reasons_empty,missingFields_empty]
  simp only [DecisionCandidate.hardRequired,List.forall_mem_cons,normalizeDecisionCandidate]
  constructor
  · rintro ⟨⟨undeclared,action,actor,system,resource,intended,_⟩,unambiguous,authority,approval,risk⟩
    refine ⟨?_,(listed "required_authority").mp authority,(listed_empty _).mp unambiguous,(listed_empty _).mp undeclared,approval,
      fun regulated => (indeterminate_get raw).mp (risk regulated)⟩
    intro name required
    simp only [hardRequiredFields,List.mem_cons,List.not_mem_nil,or_false] at required
    rcases required with rfl | rfl | rfl | rfl | rfl
    · exact (blank_get raw "action_type").mp action
    · exact (blank_get raw "actor_identity").mp actor
    · exact (blank_get raw "target_system").mp system
    · exact (blank_get raw "target_resource").mp resource
    · exact (blank_get raw "intended_action").mp intended
  · rintro ⟨filled,authority,unambiguous,undeclared,approval,risk⟩
    have present (name : String) (required : name ∈ hardRequiredFields) : isBlank (stringField raw name (some "")) = false :=
      (blank_get raw name).mpr (filled name required)
    refine ⟨⟨(listed_empty _).mpr undeclared,present "action_type" (by decide),present "actor_identity" (by decide),
      present "target_system" (by decide),present "target_resource" (by decide),present "intended_action" (by decide),by simp⟩,
      (listed_empty _).mpr unambiguous,(listed "required_authority").mpr authority,approval,
      fun regulated => (indeterminate_get raw).mpr (risk regulated)⟩

theorem intText_head (number : (intText chars).isSome = true) : ∃ c rest, chars = c :: rest ∧ (c = '-' ∨ c.isDigit = true) := by
  cases chars with
  | nil => simp [intText,natText] at number
  | cons c rest =>
    refine ⟨c,rest,rfl,?_⟩
    by_cases dash : c = '-'
    · exact .inl dash
    · by_cases zero : c = '0'
      · subst c
        exact .inr rfl
      · right
        by_contra other
        rw [Bool.not_eq_true] at other
        simp [intText,natText,dash,zero,other] at number

theorem text_head (json : isJson value = true) (present : value ≠ .none) (unflagged : ∀ b, value ≠ .bool b) (untext : ∀ s, value ≠ .str s) :
    ∃ c rest, value.text.toList = c :: rest ∧ (c = '-' ∨ c.isDigit = true ∨ c = '[' ∨ c = '\x7b') := by
  cases value with
  | none => exact absurd rfl present
  | bool b => exact absurd rfl (unflagged b)
  | str s => exact absurd rfl (untext s)
  | int n =>
    obtain ⟨c,rest,same,first⟩ := @intText_head (atomText (.int n)) (by rw [intText_int]; rfl)
    refine ⟨c,rest,?_,first.imp_right .inl⟩
    simp [Value.text,Value.repr,intStr,same]
  | float x =>
    cases x with
    | finite literal =>
      have valid := literal.valid
      simp only [isFloatText,List.span_eq_takeWhile_dropWhile,Bool.and_eq_true] at valid
      obtain ⟨⟨⟨_,whole⟩,_⟩,_⟩ := valid
      obtain ⟨c,rest,same,first⟩ := intText_head whole
      obtain ⟨more,mantissa⟩ := List.takeWhile_prefix (l := literal.text.toList.takeWhile fun c => !(c == 'e' || c == 'E')) fun c => !(c == '.')
      obtain ⟨further,text⟩ := List.takeWhile_prefix (l := literal.text.toList) fun c => !(c == 'e' || c == 'E')
      rw [same] at mantissa
      rw [← mantissa] at text
      exact ⟨c,rest ++ more ++ further,text.symm,first.imp_right .inl⟩
    | _ => simp [isJson] at json
  | list items => exact ⟨'[',(Value.reprItems items).toList ++ [']'],by simp [Value.text,Value.repr],.inr (.inr (.inl rfl))⟩
  | dict members => exact ⟨'\x7b',(Value.reprMembers members).toList ++ ['\x7d'],by simp [Value.text,Value.repr],.inr (.inr (.inr rfl))⟩
  | tuple items => simp [isJson] at json
  | object text truth => simp [isJson] at json

theorem mark_solid {c : Char} (mark : c = '-' ∨ c.isDigit = true ∨ c = '[' ∨ c = '\x7b') : isSpace c = false ∧ lowerChar c = [c] := by
  rcases mark with rfl | digit | rfl | rfl
  · decide
  · have upper : c.isUpper = false := by
      simp only [Char.isDigit,Bool.and_eq_true,decide_eq_true_eq] at digit
      rw [isUpper_eq,decide_eq_false_iff_not]
      rintro ⟨low,_⟩
      exact absurd (UInt32.le_trans low digit.2) (by decide)
    obtain ⟨solid,plain,_⟩ := DecisionSemantics.plain_char (.inr ⟨by simp [isWordChar,digit],upper⟩)
    exact ⟨solid,plain⟩
  · decide
  · decide

theorem word_head (text : value.text.toList = c :: rest) (solid : isSpace c = false)
    (plain : lowerChar c = [c]) : ∃ more, (word value).toList = c :: more := by
  have stripped : ∃ kept, stripBy isSpace (c :: rest) = c :: kept := by
    unfold stripBy
    rw [List.dropWhile_cons_of_neg (by simp [solid]),rdropWhile_cons]
    split
    · exact ⟨[],by simp [solid]⟩
    · exact ⟨_,rfl⟩
  obtain ⟨kept,same⟩ := stripped
  exact ⟨kept.flatMap lowerChar,by simp [word,strip,lower,text,same,plain]⟩

def recognised : List String := humanApprovalTrueValues ++ humanApprovalFalseValues ++ regulatedTrueValues ++ regulatedFalseValues

theorem recognised_alpha : ∀ spelled ∈ recognised, ∀ c ∈ spelled.toList.head?, c.isAlpha = true := by
  have each : (recognised.all fun spelled => (spelled.toList.head?.map Char.isAlpha).getD true) = true := by decide
  intro spelled listed c first
  have here := List.all_eq_true.mp each spelled listed
  rwa [Option.mem_def.mp first] at here

-- A recognised word is spelled by a text, or by the null and the flags that str() writes out.
theorem recognised_text (json : isJson value = true) (present : value ≠ .none) (unflagged : ∀ b, value ≠ .bool b)
    (known : word value ∈ recognised) : ∃ s, value = .str s := by
  by_contra untext
  obtain ⟨c,rest,text,mark⟩ := text_head json present unflagged (fun s same => untext ⟨s,same⟩)
  obtain ⟨solid,plain⟩ := mark_solid mark
  obtain ⟨more,spelled⟩ := word_head text solid plain
  have alpha := recognised_alpha _ known c (by simp [spelled])
  rcases mark with rfl | digit | rfl | rfl
  · exact absurd alpha (by decide)
  · simp only [Char.isDigit,Bool.and_eq_true,decide_eq_true_eq] at digit
    rw [isAlpha_eq,isUpper_eq,isLower_eq] at alpha
    simp only [Bool.or_eq_true,Bool.and_eq_true,decide_eq_true_eq] at alpha
    rcases alpha with ⟨low,_⟩ | ⟨low,_⟩
    · exact absurd (UInt32.le_trans low digit.2) (by decide)
    · exact absurd (UInt32.le_trans low digit.2) (by decide)
  · exact absurd alpha (by decide)
  · exact absurd alpha (by decide)

def Flagged (words : List String) (value : Value) : Prop := (∃ b, value = .bool b) ∨ ∃ s, value = .str s ∧ lower (strip s) ∈ words

def Unregulated (raw : Dict) : Prop :=
  raw.get "regulated_or_high_impact" = .bool false ∨ ∃ s, raw.get "regulated_or_high_impact" = .str s ∧ lower (strip s) ∈ regulatedFalseValues

def Determinate (raw : Dict) : Prop := raw.get "risk_level" ≠ .none ∧ word (raw.get "risk_level") ∉ indeterminateRiskLevels

def AuthorityText (raw : Dict) : Prop := ∃ s, .str s ∈ rawValues (raw.get "required_authority") ∧ strip s ≠ ""

structure Clear (raw : Dict) : Prop where
  filled : ∀ name ∈ hardRequiredFields, raw.get name ≠ .none ∧ strip (raw.get name).text ≠ ""
  authority : AuthorityText raw
  unambiguous : ∀ item ∈ rawValues (raw.get "ambiguity_flags"), strip item.text = ""
  undeclared : ∀ item ∈ rawValues (raw.get "missing_required_fields"), strip item.text = ""
  approval : Flagged (humanApprovalTrueValues ++ humanApprovalFalseValues) (raw.get "required_human_approval")
  risk : Unregulated raw ∨ Determinate raw

-- Another requirement refuses the candidate, or its authority is a text and its regulation a flag or a recognised word
-- (of no matter where the risk is determinate).
def Spelled (raw : Dict) : Prop :=
  ¬Complete raw ∨
    (AuthorityText raw ∧ (Flagged (regulatedTrueValues ++ regulatedFalseValues) (raw.get "regulated_or_high_impact") ∨ Determinate raw))

theorem approval_word (present : value ≠ .none) (unflagged : ∀ b, value ≠ .bool b) : normalizeRequiredHumanApproval value =
      if humanApprovalTrueValues.contains (word value) then some true
      else if humanApprovalFalseValues.contains (word value) then some false
      else none := by
  cases value with
  | none => exact absurd rfl present
  | bool b => exact absurd rfl (unflagged b)
  | _ => rfl

theorem regulated_word (s : String) : normalizeRegulatedOrHighImpact (.str s) = if regulatedTrueValues.contains (word (.str s)) then true
    else if regulatedFalseValues.contains (word (.str s)) then false
    else false := rfl

theorem approval_flagged (json : isJson value = true) (clear : normalizeRequiredHumanApproval value ≠ none) :
    Flagged (humanApprovalTrueValues ++ humanApprovalFalseValues) value := by
  by_cases flag : ∃ b, value = .bool b
  · exact .inl flag
  · have unflagged : ∀ b, value ≠ .bool b := fun b same => flag ⟨b,same⟩
    have present : value ≠ .none := by
      rintro rfl
      exact clear rfl
    have known : word value ∈ humanApprovalTrueValues ++ humanApprovalFalseValues := by
      by_contra unknown
      rw [List.mem_append,not_or] at unknown
      apply clear
      rw [approval_word present unflagged]
      simp [unknown.1,unknown.2]
    obtain ⟨s,rfl⟩ := recognised_text json present unflagged (by
      unfold recognised
      rw [List.append_assoc]
      exact List.mem_append_left _ known)
    exact .inr ⟨s,rfl,known⟩

theorem promoted_clear_exact (fresh : Fresh) (lineage : Lineage) (raw : Dict) (json : isJson (.dict raw) = true) :
    ((tryPromoteDecisionCandidateToExecutionIntent fresh lineage raw).promoted = true → Clear raw) ↔ Spelled raw := by
  rw [promoted_iff]
  constructor
  · intro kept
    by_cases complete : Complete raw
    · obtain ⟨_,authority,_,_,_,risk⟩ := kept complete
      refine .inr ⟨authority,?_⟩
      rcases risk with (off | ⟨s,same,negative⟩) | determinate
      · exact .inl (.inl ⟨false,off⟩)
      · exact .inl (.inr ⟨s,same,List.mem_append_right _ negative⟩)
      · exact .inr determinate
    · exact .inl complete
  · intro spelled complete
    obtain ⟨authority,regulated⟩ := spelled.resolve_left (not_not.mpr complete)
    refine ⟨complete.filled,authority,complete.unambiguous,complete.undeclared,approval_flagged (isJson_get json _) complete.approval,?_⟩
    rcases regulated with (⟨b,flag⟩ | ⟨s,same,known⟩) | determinate
    · cases b with
      | false => exact .inl (.inl flag)
      | true => exact .inr (complete.risk (by rw [flag]; rfl))
    · rcases List.mem_append.mp known with positive | negative
      · refine .inr (complete.risk ?_)
        have spelled : regulatedTrueValues.contains (word (.str s)) = true := List.contains_iff_mem.mpr positive
        rw [same,regulated_word,if_pos spelled]
      · exact .inl (.inr ⟨s,same,negative⟩)
    · exact .inr determinate

def unclearCandidate : Dict :=
  [field "action_type" (.str "promote"),field "actor_identity" (.str "agent-1"),field "target_system" (.str "governance"),
   field "target_resource" (.str "bundle-1"),field "intended_action" (.str "promote bundle"),
   field "required_authority" (.list [.str "policy.bundle.promote"]),field "required_human_approval" (.bool false),
   field "regulated_or_high_impact" (.str "maybe")]

def sampleFresh : Fresh := ⟨"c0","e0"⟩

theorem promoted_unclear : isJson (.dict unclearCandidate) = true ∧
    (tryPromoteDecisionCandidateToExecutionIntent sampleFresh {} unclearCandidate).promoted = true ∧ ¬Clear unclearCandidate := by
  refine ⟨by decide,by decide,fun clear => ?_⟩
  rcases clear.risk with (off | ⟨s,same,negative⟩) | ⟨stated,_⟩
  · exact absurd off (by decide)
  · obtain rfl : "maybe" = s := by simpa [unclearCandidate,Dict.get,lookup,field] using same
    exact absurd negative (by decide)
  · exact stated (by decide)

def clearCandidate : Dict := unclearCandidate.set "regulated_or_high_impact" (.bool false)

theorem promoted_clear_sample :
    ((tryPromoteDecisionCandidateToExecutionIntent sampleFresh {} clearCandidate).promoted = true → Clear clearCandidate) ↔ Spelled clearCandidate :=
  promoted_clear_exact sampleFresh {} clearCandidate (by decide)

end VeritasOs.CandidatePromotion
