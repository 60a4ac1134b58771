import VeritasOs.ModelReader
import VeritasOs.PolicyAuthoring

namespace VeritasOs.CompiledPolicy
open Text JsonText BindArtifacts PolicyBundle PolicyCompiler PolicyAuthoring
open ModelReader (itemsJson_strs)

def reread (value : Value) : Value := ((toJson true value).map fromJson).getD .none

def rereadDict (dict : Dict) : Dict :=
  match reread (.dict dict) with
  | .dict members => members
  | _ => []

def Adapted (ir : Dict) (policy : RuntimePolicy) : Prop :=
  ∃ text members, stableJsonDumps (.dict ir) = .ok text ∧ jsonLoads text = .ok (.dict members) ∧ adaptCanonicalIr members = .ok policy

theorem reread_texts (names : List String) : reread (strList names) = strList names := by
  have back : fromItems (names.map Json.str) = names.map Value.str := by
    induction names with
    | nil => rfl
    | cons name rest ih => rw [List.map_cons,List.map_cons,fromItems,fromJson,ih]
  rw [reread,strList,toJson,itemsJson_strs]
  simp only [Option.map_some,Option.getD_some,fromJson,back]

theorem reread_optStr (value : Option String) : reread (optStr value) = optStr value := by cases value <;> rfl

theorem reread_dict (json : isJson (.dict dict) = true) : ∃ written, toJson true (.dict dict) = some (.obj written) ∧
    rereadDict dict = Dict.update [] (fromMembers written) ∧ reread (.dict dict) = .dict (rereadDict dict) := by
  obtain ⟨made,written⟩ := Option.isSome_iff_exists.mp (isJson_recordable _ json)
  obtain ⟨members,rfl⟩ := toJson_dict_obj written
  have whole : reread (.dict dict) = .dict (Dict.update [] (fromMembers members)) := by rw [reread,written]; rfl
  have inner : rereadDict dict = Dict.update [] (fromMembers members) := by rw [rereadDict,whole]
  exact ⟨members,written,inner,inner ▸ whole⟩

theorem written_subscript (record : Record dict) (made : toJson true (.dict dict) = some (.obj written))
    (held : lookup (.str name) dict = some value) : subscript (.dict (Dict.update [] (fromMembers written))) name = .ok (reread value) := by
  obtain ⟨part,spelled,found⟩ := reread_field record made held
  rw [subscript,found,reread,spelled]
  rfl

theorem reread_subscript (json : isJson (.dict dict) = true)
    (held : lookup (.str name) dict = some value) : subscript (.dict (rereadDict dict)) name = .ok (reread value) := by
  obtain ⟨written,made,inner,-⟩ := reread_dict json
  rw [inner]
  exact written_subscript ((isJson_dict dict).mp json).1 made held

theorem reread_dictList (json : ∀ dict ∈ dicts, isJson (.dict dict) = true) : reread (dictList dicts) = dictList (dicts.map rereadDict) := by
  have back : ∃ written, itemsJson true (dicts.map Value.dict) = some written ∧ fromItems written = (dicts.map rereadDict).map Value.dict := by
    induction dicts with
    | nil => exact ⟨[],rfl,rfl⟩
    | cons dict rest ih =>
      obtain ⟨own,inside⟩ := List.forall_mem_cons.mp json
      obtain ⟨members,made,inner,whole⟩ := reread_dict own
      obtain ⟨others,more,again⟩ := ih inside
      refine ⟨.obj members :: others,by simp only [List.map_cons,itemsJson,made,more,Option.bind_some,Option.map_some],?_⟩
      rw [fromItems,again,List.map_cons,List.map_cons,inner]
      rfl
  obtain ⟨written,made,again⟩ := back
  rw [reread,dictList,toJson,made]
  simp only [Option.map_some,Option.getD_some,fromJson,again,dictList]

theorem dictsFrom_list (dicts : List Dict) : dictsFrom (dictList dicts) = .ok dicts := by
  have all : (dicts.map Value.dict).mapM dictFrom = .ok dicts := by
    induction dicts with
    | nil => rfl
    | cons dict rest ih => rw [List.map_cons,List.mapM_cons,ih]; rfl
  rw [dictsFrom,dictList,listFrom]
  exact all

section Source
variable {policy : SourcePolicy} {conditions constraints : List Dict} {testVectors : List PolicyExample} {metadata : Value}

def scopeOf (policy : SourcePolicy) : Dict :=
  [field "domains" (strList (dedupeSorted policy.scope.domains)),field "routes" (strList (dedupeSorted policy.scope.routes)),
   field "actors" (strList (dedupeSorted policy.scope.actors))]

def requirementsOf (policy : SourcePolicy) : Dict :=
  [field "required_evidence" (strList (dedupeSorted policy.requirements.requiredEvidence)),
   field "required_reviewers" (strList (dedupeSorted policy.requirements.requiredReviewers)),
   field "minimum_approval_count" (.int policy.requirements.minimumApprovalCount)]

def outcomeOf (policy : SourcePolicy) : Dict :=
  [field "decision" (.str policy.outcome.decision.text),field "reason" (.str policy.outcome.reason)]

def texts (names : List String) : List Value := names.map .str

def compiled (policy : SourcePolicy) (conditions constraints : List Dict) (testVectors : List PolicyExample) (metadata : Dict) : RuntimePolicy where
  policyId := .str policy.policyId
  version := .str policy.version
  title := .str policy.title
  description := .str policy.description
  effectiveDate := optStr policy.effectiveDate
  domains := texts (dedupeSorted policy.scope.domains)
  routes := texts (dedupeSorted policy.scope.routes)
  actors := texts (dedupeSorted policy.scope.actors)
  conditions := conditions.map rereadDict
  constraints := constraints.map rereadDict
  requirements := rereadDict (requirementsOf policy)
  outcome := rereadDict (outcomeOf policy)
  obligations := texts (dedupeSorted policy.obligations)
  testVectors := (testVectors.map PolicyExample.toDict).map rereadDict
  metadata := rereadDict metadata
  sourceRefs := texts (dedupeSorted policy.sourceRefs)

theorem scopeOf_json (policy : SourcePolicy) : isJson (.dict (scopeOf policy)) = true := by
  refine isJson_record ⟨by simp [StrKeys,scopeOf,field],by simp [scopeOf,field]⟩ ?_
  simp [scopeOf,field,isJson_texts]

theorem requirementsOf_json (policy : SourcePolicy) : isJson (.dict (requirementsOf policy)) = true := by
  refine isJson_record ⟨by simp [StrKeys,requirementsOf,field],by simp [requirementsOf,field]⟩ ?_
  simp [requirementsOf,field,isJson_texts]

theorem outcomeOf_json (policy : SourcePolicy) : isJson (.dict (outcomeOf policy)) = true := by
  refine isJson_record ⟨by simp [StrKeys,outcomeOf,field],by simp [outcomeOf,field]⟩ ?_
  simp [outcomeOf,field]

theorem getD_of_subscript {members : Dict} {name : String} {value default : Value} (found : subscript (.dict members) name = .ok value) :
    members.getD name default = value := by
  rw [subscript] at found
  rw [Dict.getD]
  cases held : lookup (.str name) members with
  | none =>
    rw [held] at found
    cases found
  | some other =>
    rw [held] at found
    exact Except.ok.inj found

theorem listFrom_texts (names : List String) : listFrom (strList names) = .ok (texts names) := rfl

theorem reread_str (s : String) : reread (.str s) = .str s := rfl

theorem adapt_compiled {mapping : Dict} (json : isJson (.dict (canonicalIr policy conditions constraints testVectors (.dict mapping))) = true) :
    adaptCanonicalIr (rereadDict (canonicalIr policy conditions constraints testVectors (.dict mapping))) =
      .ok (compiled policy conditions constraints testVectors mapping) := by
  generalize whole : canonicalIr policy conditions constraints testVectors (.dict mapping) = ir at json ⊢
  have held {name : String} {value : Value}
      (there : lookup (.str name) (canonicalIr policy conditions constraints testVectors (.dict mapping)) = some value) :
      lookup (.str name) ir = some value ∧ subscript (.dict (rereadDict ir)) name = .ok (reread value) :=
    ⟨whole ▸ there,reread_subscript json (whole ▸ there)⟩
  have each := ((isJson_dict ir).mp json).2
  have inside : ∀ {name : String} {dicts : List Dict}, lookup (.str name) ir = some (dictList dicts) → reread (dictList dicts) = dictList (dicts.map rereadDict) :=
    fun held => reread_dictList fun dict listed => (isJson_list _).mp (each _ (lookup_mem held)) _ (List.mem_map_of_mem listed)
  have scope {name : String} {value : Value} (there : lookup (.str name) (scopeOf policy) = some value) :
      subscript (.dict (rereadDict (scopeOf policy))) name = .ok (reread value) := reread_subscript (scopeOf_json policy) there
  obtain ⟨-,policyId⟩ : _ ∧ subscript _ "policy_id" = .ok (reread (.str policy.policyId)) := held rfl
  obtain ⟨-,version⟩ : _ ∧ subscript _ "version" = .ok (reread (.str policy.version)) := held rfl
  obtain ⟨-,title⟩ : _ ∧ subscript _ "title" = .ok (reread (.str policy.title)) := held rfl
  obtain ⟨-,description⟩ : _ ∧ subscript _ "description" = .ok (reread (.str policy.description)) := held rfl
  obtain ⟨-,effective⟩ : _ ∧ subscript _ "effective_date" = .ok (reread (optStr policy.effectiveDate)) := held rfl
  obtain ⟨-,scopes⟩ : _ ∧ subscript _ "scope" = .ok (reread (.dict (scopeOf policy))) := held rfl
  have domains : subscript _ "domains" = .ok (reread (strList (dedupeSorted policy.scope.domains))) := scope rfl
  have routes : subscript _ "routes" = .ok (reread (strList (dedupeSorted policy.scope.routes))) := scope rfl
  have actors : subscript _ "actors" = .ok (reread (strList (dedupeSorted policy.scope.actors))) := scope rfl
  obtain ⟨firstsHeld,firsts⟩ : _ ∧ subscript _ "conditions" = .ok (reread (dictList conditions)) := held rfl
  obtain ⟨-,required⟩ : _ ∧ subscript _ "requirements" = .ok (reread (.dict (requirementsOf policy))) := held rfl
  obtain ⟨secondsHeld,seconds⟩ : _ ∧ subscript _ "constraints" = .ok (reread (dictList constraints)) := held rfl
  obtain ⟨-,decided⟩ : _ ∧ subscript _ "outcome" = .ok (reread (.dict (outcomeOf policy))) := held rfl
  obtain ⟨-,obligations⟩ : _ ∧ subscript _ "obligations" = .ok (reread (strList (dedupeSorted policy.obligations))) := held rfl
  obtain ⟨vectorsHeld,vectors⟩ : _ ∧ subscript _ "test_vectors" = .ok (reread (dictList (testVectors.map PolicyExample.toDict))) := held rfl
  obtain ⟨-,references⟩ : _ ∧ subscript _ "source_refs" = .ok (reread (strList (dedupeSorted policy.sourceRefs))) := held rfl
  obtain ⟨mappingHeld,metadata⟩ : _ ∧ subscript _ "metadata" = .ok (reread (.dict mapping)) := held rfl
  obtain ⟨-,-,-,scopeRead⟩ := reread_dict (scopeOf_json policy)
  obtain ⟨-,-,-,requirementsRead⟩ := reread_dict (requirementsOf_json policy)
  obtain ⟨-,-,-,outcomeRead⟩ := reread_dict (outcomeOf_json policy)
  obtain ⟨-,-,-,mapped⟩ := reread_dict (each _ (lookup_mem mappingHeld))
  rw [reread_str] at policyId version title description
  rw [reread_optStr] at effective
  rw [scopeRead] at scopes
  rw [requirementsRead] at required
  rw [outcomeRead] at decided
  rw [mapped] at metadata
  rw [reread_texts] at domains routes actors obligations references
  rw [inside firstsHeld] at firsts
  rw [inside secondsHeld] at seconds
  rw [inside vectorsHeld] at vectors
  have date : (rereadDict ir).get "effective_date" = optStr policy.effectiveDate := getD_of_subscript effective
  have fields : adaptFields (rereadDict ir) = .ok (compiled policy conditions constraints testVectors mapping) := by
    simp only [adaptFields,policyId,version,title,description,scopes,domains,routes,actors,firsts,seconds,required,decided,obligations,vectors,
      getD_of_subscript metadata,getD_of_subscript references,date,bind,Except.bind,listFrom_texts,dictsFrom_list,dictFrom]
    rfl
  rw [adaptCanonicalIr,fields]
  rfl

theorem normalized_mapping (normalized : normalizeJsonValue (.dict members) = .ok made) : ∃ mapping, made = .dict mapping := by
  rw [normalizeJsonValue] at normalized
  obtain ⟨_,-,rest⟩ := bind_ok.mp normalized
  obtain ⟨sorted,-,done⟩ := bind_ok.mp rest
  exact ⟨sorted,(Except.ok.inj done).symm⟩

theorem compiles (json : JsonValued policy) : ∃ ir conditions constraints testVectors mapping,
    Normalizes policy conditions constraints testVectors (.dict mapping) ∧ toCanonicalIr policy = .ok ir ∧ isJson (.dict ir) = true ∧
    ∀ runtimePolicy, Adapted ir runtimePolicy ↔ runtimePolicy = compiled policy conditions constraints testVectors mapping := by
  obtain ⟨conditions,constraints,testVectors,metadata,normalized,document⟩ := normalizes json
  obtain ⟨mapping,rfl⟩ := normalized_mapping normalized.metadata
  refine ⟨_,conditions,constraints,testVectors,mapping,normalized,toCanonicalIr_ok.mpr ⟨_,_,_,_,normalized,rfl⟩,document,fun runtimePolicy => ?_⟩
  have adapts := adapt_compiled document
  generalize canonicalIr policy conditions constraints testVectors (.dict mapping) = ir at document adapts
  obtain ⟨written,made,inner,-⟩ := reread_dict document
  obtain ⟨text,dumped⟩ : ∃ text, stableJsonDumps (.dict ir) = .ok text := ⟨_,by rw [stableJsonDumps,made]⟩
  obtain ⟨again,remade,loaded⟩ := stableJsonDumps_ok dumped
  obtain rfl : written = again := Json.obj.inj (Option.some.inj (made.symm.trans remade))
  rw [inner] at adapts
  constructor
  · rintro ⟨other,members,redumped,reloaded,adapted⟩
    obtain rfl := Except.ok.inj (dumped.symm.trans redumped)
    obtain rfl := Value.dict.inj (Except.ok.inj (loaded.symm.trans reloaded))
    exact Except.ok.inj (adapted.symm.trans adapts)
  · rintro rfl
    exact ⟨text,_,dumped,loaded,adapts⟩

end Source

end VeritasOs.CompiledPolicy
