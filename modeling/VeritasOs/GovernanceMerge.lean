import VeritasOs.Governance

namespace VeritasOs.GovernanceMerge
open Governance

def scalarFields : List String := ["version","operator_verbosity","updated_at","updated_by"]

def sectionOf (policy : Dict) (name : String) : Dict := dictOrEmpty (policy.get name)

def default? (name key : String) : Option Value := lookup (.str key) (sectionOf defaultPolicy name)

-- What pydantic reads a field of a section and a scalar of the policy as. What it has read it reads as itself.
structure Reading where
  field : String → String → Value → Option Value
  scalar : String → Value → Option Value
  field_again : ∀ {name key value shown}, field name key value = some shown → field name key shown = some shown
  scalar_again : ∀ {name value shown}, scalar name value = some shown → scalar name shown = some shown

-- A given field is read, and an absent one has its default.
def Shown (read : Value → Option Value) (default : Value) : Option Value → Option Value → Prop
  | some value,own => ∃ shown, read value = some shown ∧ own = some shown
  | none,own => own = some default

-- model_validate and model_dump of models without validators of their own go field by field.
structure Fieldwise (pydantic : Pydantic) (reading : Reading) : Prop where
  defaults : ∀ {name key default}, default? name key = some default → reading.field name key default = some default
  section_ : ∀ {name given own}, pydantic.section_ name given = .ok own → ∀ {key default}, default? name key = some default →
    Shown (reading.field name key) default (lookup (.str key) given) (lookup (.str key) own)
  policySection : ∀ {given own}, pydantic.policy given = .ok own → ∀ {name key default}, default? name key = some default →
    Shown (reading.field name key) default (lookup (.str key) (sectionOf given name)) (lookup (.str key) (sectionOf own name))
  policyScalar : ∀ {given own}, pydantic.policy given = .ok own → ∀ name ∈ scalarFields,
    Shown (reading.scalar name) (defaultPolicy.get name) (lookup (.str name) given) (lookup (.str name) own)

def Takes (read : Value → Option Value) : Option Value → Option Value → Option Value → Prop
  | some value,_,own => ∃ shown, read value = some shown ∧ own = some shown
  | none,held,own => own = held

-- Every field but the two that each update stamps.
structure ExactMerge (reading : Reading) (held patch result : Dict) : Prop where
  sections : ∀ name ∈ nestedPolicyModels, ∀ key default, default? name key = some default →
    Takes (reading.field name key) (lookup (.str key) (sectionOf patch name)) (lookup (.str key) (sectionOf held name))
      (lookup (.str key) (sectionOf result name))
  scalars : ∀ name ∈ ["version","operator_verbosity"],
    Takes (reading.scalar name) (lookup (.str name) patch) (lookup (.str name) held) (lookup (.str name) result)

variable {pydantic : Pydantic} {reading : Reading} {patch previous merged held result : Dict} {name key now by_ : String} {default : Value}
variable {read : Value → Option Value} {given own other : Option Value}

theorem shown_same (first : Shown read default given own) (second : Shown read default given other) : own = other := by
  cases given with
  | none => exact first.trans second.symm
  | some value =>
    obtain ⟨shown,known,rfl⟩ := first
    obtain ⟨again,same,rfl⟩ := second
    exact known.symm.trans same

theorem shown_again (again : ∀ {value shown}, read value = some shown → read shown = some shown) (held : read default = some default)
    (first : Shown read default given own) (second : Shown read default own other) : other = own := by
  cases given with
  | none =>
    obtain rfl : own = some default := first
    obtain ⟨shown,known,rfl⟩ := second
    exact known.symm.trans held
  | some value =>
    obtain ⟨shown,known,rfl⟩ := first
    obtain ⟨found,same,rfl⟩ := second
    exact same.symm.trans (again known)

theorem section_stamped (fresh : name ∉ scalarFields) : sectionOf (stamped merged now by_) name = sectionOf merged name := by
  simp only [scalarFields,List.mem_cons,List.not_mem_nil,or_false,not_or] at fresh
  rw [sectionOf,stamped,get_set_other fresh.2.2.2,get_set_other fresh.2.2.1,sectionOf]

theorem lookup_set_other (differs : wanted ≠ name) : lookup (.str wanted) (members.set name value) = lookup (.str wanted) members := by
  rw [Dict.set,lookup_store,if_neg fun same => differs (Key.str.inj same).symm]

theorem mergeSections_lookup (fresh : key ∉ names)
    (accepted : mergeSections pydantic patch names current = .ok merged) : lookup (.str key) merged = lookup (.str key) current := by
  induction names generalizing current with
  | nil =>
    cases accepted
    rfl
  | cons first rest ih =>
    obtain ⟨differs,fresh⟩ := not_or.mp (List.mem_cons.not.mp fresh)
    rcases mergeSections_cons accepted with ⟨_,accepted⟩ | ⟨_,_,_,_,accepted⟩
    · exact ih fresh accepted
    · exact (ih fresh accepted).trans (lookup_set_other differs)

-- A section is merged key by key, and any other member but the version is as it was.
theorem mergedPolicy_parts (accepted : mergedPolicy pydantic patch previous = .ok merged) :
    (∀ name ∈ nestedPolicyModels, (patch.has name = false ∧ sectionOf merged name = sectionOf previous name) ∨
      ∃ given, patch.get name = .dict given ∧
        pydantic.section_ name ((sectionOf previous name).update given) = .ok (sectionOf merged name)) ∧
      lookup (.str "version") merged = (lookup (.str "version") patch).or (lookup (.str "version") previous) ∧
      lookup (.str "operator_verbosity") merged = lookup (.str "operator_verbosity") previous := by
  obtain ⟨current,sections,accepted⟩ := bind_ok.mp accepted
  split at accepted
  · cases accepted
  have kept : ∀ name, name ≠ "version" → lookup (.str name) merged = lookup (.str name) current := by
    intro name other
    cases accepted
    split
    · exact lookup_set_other other
    · rfl
  refine ⟨fun name listed => ?_,?_,(kept _ (by decide)).trans (mergeSections_lookup (by decide) sections)⟩
  · have other : name ≠ "version" := fun same => absurd (same ▸ listed) (by decide)
    have same : merged.get name = current.get name := by rw [Dict.get,kept name other,Dict.get]
    rw [sectionOf,sectionOf,same]
    rcases mergeSections_get (by decide) listed sections with ⟨absent,left⟩ | ⟨given,validated,named,valid,left⟩
    · exact .inl ⟨absent,by rw [left]⟩
    · exact .inr ⟨given,named,by rw [left]; exact valid⟩
  · have before : lookup (.str "version") current = lookup (.str "version") previous := mergeSections_lookup (by decide) sections
    cases accepted
    cases stated : lookup (.str "version") patch with
    | none => rw [Dict.has,stated,Option.isSome_none,if_neg Bool.false_ne_true,before,Option.none_or]
    | some value => rw [Dict.has,stated,Option.isSome_some,if_pos rfl,Dict.set,lookup_store,if_pos rfl,Dict.get,stated]; rfl

section Updated
variable (fieldwise : Fieldwise pydantic reading) (valid : pydantic.policy previous = .ok held)
  (accepted : mergedPolicy pydantic patch previous = .ok merged) (validated : pydantic.policy (stamped merged now by_) = .ok result)
include fieldwise valid accepted validated

theorem section_takes (distinct : ∀ name, ((sectionOf patch name).map Prod.fst).Nodup) (listed : name ∈ nestedPolicyModels)
    (known : default? name key = some default) :
    Takes (reading.field name key) (lookup (.str key) (sectionOf patch name)) (lookup (.str key) (sectionOf held name))
      (lookup (.str key) (sectionOf result name)) := by
  have before := fieldwise.policySection valid known
  have after := fieldwise.policySection validated known
  have fresh : name ∉ scalarFields := by
    intro scalar
    have apart : ∀ name ∈ nestedPolicyModels, name ∉ scalarFields := by decide
    exact apart name listed scalar
  rw [section_stamped fresh] at after
  rcases (mergedPolicy_parts accepted).1 name listed with ⟨absent,same⟩ | ⟨given,named,own⟩
  · rw [same] at after
    have nothing : sectionOf patch name = [] := by rw [sectionOf,get_absent absent]; rfl
    rw [nothing]
    exact shown_same after before
  · have read := fieldwise.section_ own known
    have here : sectionOf patch name = given := by rw [sectionOf,named]; rfl
    have one := distinct name
    rw [here] at one ⊢
    rw [lookup_update one] at read
    have still := shown_again reading.field_again (fieldwise.defaults known) read after
    cases patched : lookup (.str key) given with
    | none =>
      rw [patched,Option.none_or] at read
      exact still.trans (shown_same read before)
    | some value =>
      rw [patched,Option.some_or] at read
      obtain ⟨shown,held,same⟩ := read
      exact ⟨shown,held,still.trans same⟩

theorem version_takes : Takes (reading.scalar "version") (lookup (.str "version") patch) (lookup (.str "version") held)
    (lookup (.str "version") result) := by
  have before := fieldwise.policyScalar valid "version" (by decide)
  have after := fieldwise.policyScalar validated "version" (by decide)
  rw [stamped,lookup_set_other (by decide),lookup_set_other (by decide),(mergedPolicy_parts accepted).2.1] at after
  cases patched : lookup (.str "version") patch with
  | none =>
    rw [patched,Option.none_or] at after
    exact shown_same after before
  | some value =>
    rw [patched,Option.some_or] at after
    exact after

theorem verbosity_held : lookup (.str "operator_verbosity") result = lookup (.str "operator_verbosity") held := by
  have before := fieldwise.policyScalar valid "operator_verbosity" (by decide)
  have after := fieldwise.policyScalar validated "operator_verbosity" (by decide)
  rw [stamped,lookup_set_other (by decide),lookup_set_other (by decide),(mergedPolicy_parts accepted).2.2] at after
  exact shown_same after before

end Updated

theorem policy_merge_exact {setting : Setting} {reading : Reading} (fieldwise : Fieldwise setting.pydantic reading) {store : Store}
    {held patch result : Dict} {now : String} (valid : setting.pydantic.policy store.current = .ok held)
    (distinct : ∀ name, ((sectionOf patch name).map Prod.fst).Nodup)
    (updated : (Interaction.run (fileHandler now) (fileProgram setting (.update (.dict patch))) store).1 = .ok result) :
    ExactMerge reading held patch result ↔ ∀ value, lookup (.str "operator_verbosity") patch = some value →
        ∃ shown, reading.scalar "operator_verbosity" value = some shown ∧ lookup (.str "operator_verbosity") held = some shown := by
  rw [run_file] at updated
  cases accepted : changed setting (.update (.dict patch)) store.current now with
  | error error =>
    rw [accepted] at updated
    cases updated
  | ok made =>
    rw [accepted] at updated
    obtain rfl : made = result := Except.ok.inj updated
    obtain ⟨merged,accepted,validated⟩ := bind_ok.mp accepted
    have verbosity := verbosity_held fieldwise valid accepted validated
    constructor
    · intro merge value patched
      have taken := merge.scalars "operator_verbosity" (by decide)
      rw [patched,verbosity] at taken
      exact taken
    · intro same
      refine ⟨fun name listed key default known => section_takes fieldwise valid accepted validated distinct listed known,?_⟩
      intro name listed
      rcases List.mem_pair.mp listed with rfl | rfl
      · exact version_takes fieldwise valid accepted validated
      · cases patched : lookup (.str "operator_verbosity") patch with
        | none => exact verbosity
        | some value => exact verbosity ▸ same value patched

def plainReading : Reading := ⟨fun _ _ value => some value,fun _ value => some value,fun _ => rfl,fun _ => rfl⟩

theorem filled_shown {defaults given : Dict} (known : lookup (.str key) defaults = some default) :
    Shown some default (lookup (.str key) given) (lookup (.str key) (filled defaults given)) := by
  rw [filled,lookup_map fun key default => (lookup key given).getD default,known]
  cases lookup (.str key) given with
  | none => rfl
  | some value => exact ⟨value,rfl,rfl⟩

def sampleField (given : Dict) (key : Key) (default : Value) : Value :=
  match default with
  | .dict defaults => .dict (filled defaults (dictOrEmpty ((lookup key given).getD .none)))
  | default => (lookup key given).getD default

theorem sample_lookup {given own : Dict} (accepted : samplePydantic.policy given = .ok own) (key : Key) :
    lookup key own = (lookup key defaultPolicy).map (sampleField given key) := by
  obtain rfl := Except.ok.inj accepted
  exact lookup_map (sampleField given) key defaultPolicy

theorem samplePydantic_fieldwise : Fieldwise samplePydantic plainReading where
  defaults _ := rfl
  section_ accepted _ _ known := by
    obtain rfl := Except.ok.inj accepted
    exact filled_shown known
  policySection {given own} accepted name key default known := by
    have own_ := sample_lookup accepted (.str name)
    cases stated : lookup (.str name) defaultPolicy with
    | none => simp [default?,sectionOf,Dict.get,stated,dictOrEmpty,lookup] at known
    | some members =>
      cases members with
      | dict defaults =>
        rw [default?,sectionOf,Dict.get,stated] at known
        rw [sectionOf,sectionOf,Dict.get,Dict.get,own_,stated]
        exact filled_shown known
      | _ => simp [default?,sectionOf,Dict.get,stated,dictOrEmpty,lookup] at known
  policyScalar {given own} accepted name listed := by
    rw [sample_lookup accepted]
    simp only [scalarFields,List.mem_cons,List.not_mem_nil,or_false] at listed
    have plain : (lookup (.str name) defaultPolicy).map (sampleField given (.str name)) =
        some ((lookup (.str name) given).getD (defaultPolicy.get name)) := by
      rcases listed with rfl | rfl | rfl | rfl <;> rfl
    rw [plain]
    cases lookup (.str name) given with
    | none => rfl
    | some value => exact ⟨value,rfl,rfl⟩

def samplePatch : Dict := [text "version" "governance_v2",part "wat" [flag "enabled" true]]

def sampleMerged : Dict :=
  stamped ((defaultPolicy.set "wat" (.dict (defaultWat.set "enabled" (.bool true)))).set "version" (.str "governance_v2")) sampleTime "api"

theorem policy_merge_exact_sample :
    (Interaction.run (fileHandler sampleTime) (fileProgram sampleSetting (.update (.dict samplePatch))) emptyStore).1 = .ok sampleMerged ∧
      ExactMerge plainReading defaultPolicy samplePatch sampleMerged := by
  have updated : (Interaction.run (fileHandler sampleTime) (fileProgram sampleSetting (.update (.dict samplePatch))) emptyStore).1 =
      .ok sampleMerged := rfl
  have distinct : ∀ name, ((sectionOf samplePatch name).map Prod.fst).Nodup := by
    intro name
    by_cases same : name = "wat"
    · subst same
      decide
    · by_cases version : name = "version"
      · subst version
        decide
      · have absent : sectionOf samplePatch name = [] := by
          simp [sectionOf,samplePatch,Dict.get,lookup,text,part,Ne.symm same,Ne.symm version,dictOrEmpty]
        simp [absent]
  exact ⟨updated,(policy_merge_exact samplePydantic_fieldwise rfl distinct updated).mpr fun _ patched => by cases patched⟩

theorem patched_verbosity_dropped : ∃ result,
    Fieldwise sampleSetting.pydantic plainReading ∧ sampleSetting.pydantic.policy emptyStore.current = .ok defaultPolicy ∧
      (Interaction.run (fileHandler sampleTime)
        (fileProgram sampleSetting (.update (.dict [text "operator_verbosity" "expanded"]))) emptyStore).1 = .ok result ∧
      ¬ ExactMerge plainReading defaultPolicy [text "operator_verbosity" "expanded"] result := by
  refine ⟨stamped defaultPolicy sampleTime "api",samplePydantic_fieldwise,rfl,rfl,fun merge => ?_⟩
  obtain ⟨shown,read,own⟩ := merge.scalars "operator_verbosity" (by decide)
  obtain rfl := Option.some.inj read
  have differ : "minimal" ≠ "expanded" := by decide
  exact differ (Value.str.inj (Option.some.inj own))

end VeritasOs.GovernanceMerge
