import VeritasOs.PacketModel

namespace VeritasOs.ModelReader
open JsonText PacketModel

variable {value : Value} {items : List Value} {members shown : Dict} {raw : Value}

theorem pyEq_none (same : pyEq .none value = true) : value = .none := by
  cases value <;> simp_all [pyEq,Value.number]

theorem pyEq_textual (same : pyEq (.str s) value = true) : value = .str s := by
  cases value <;> simp_all [pyEq,Value.number]

theorem pyEq_texts (texts : items.all isText = true) (same : List.Forall₂ (fun x y => pyEq x y = true) items others) : others = items := by
  induction same with
  | nil => rfl
  | @cons item other rest later head _ ih =>
    simp only [List.all_cons,Bool.and_eq_true] at texts
    cases item with
    | str s => rw [pyEq_textual head,ih texts.2]
    | _ => cases texts.1

theorem laxBool_equal (same : pyEq (.bool b) value = true) : laxBool value = some b := by
  obtain ⟨n,number,equal⟩ := (pyEq_number (a := .bool b) rfl).mp same
  cases value with
  | bool c => cases b <;> cases c <;> simp_all [laxBool,Value.number,Number.value] <;> cases number <;> simp at equal
  | int k =>
    obtain rfl := Option.some.inj number
    cases b with
    | false =>
      obtain rfl : k = 0 := by simpa [Number.value,eq_comm] using equal
      rfl
    | true =>
      obtain rfl : k = 1 := by simpa [Number.value,eq_comm] using equal
      rfl
  | float x =>
    have zero : pyEq (.float x) (.int 0) = true ↔ b = false := by
      rw [pyEq_number number,← equal]
      cases b <;> simp [Value.number,Number.value]
    have one : pyEq (.float x) (.int 1) = true ↔ b = true := by
      rw [pyEq_number number,← equal]
      cases b <;> simp [Value.number,Number.value]
    cases b <;> simp_all [laxBool]
  | _ => cases number

theorem sameJson_none (same : SameJson .none value) : value = .none := by
  have made : toJson true value = some (.atom .null) := same.symm
  cases value with
  | none => rfl
  | list items => cases written : itemsJson true items <;> simp [toJson,written] at made
  | tuple items => cases written : itemsJson true items <;> simp [toJson,written] at made
  | dict members =>
    obtain ⟨_,other⟩ := toJson_dict_obj made
    cases other
  | _ => simp [toJson] at made

theorem texts_strs (texts : items.all isText = true) : ∃ held : List String, items = held.map Value.str := by
  induction items with
  | nil => exact ⟨[],rfl⟩
  | cons item rest ih =>
    simp only [List.all_cons,Bool.and_eq_true] at texts
    obtain ⟨held,rfl⟩ := ih texts.2
    cases item with
    | str s => exact ⟨s :: held,rfl⟩
    | _ => cases texts.1

theorem itemsJson_strs (sort : Bool) (held : List String) : itemsJson sort (held.map Value.str) = some (held.map Json.str) := by
  induction held with
  | nil => rfl
  | cons s rest ih => simp [itemsJson,toJson,ih]

theorem sameJson_texts (left : items.all isText = true) (right : others.all isText = true)
    (same : SameJson (.list items) (.list others)) : items = others := by
  obtain ⟨held,rfl⟩ := texts_strs left
  obtain ⟨other,rfl⟩ := texts_strs right
  have equal : held.map Json.str = other.map Json.str := by
    simpa [SameJson,toJson,itemsJson_strs] using same
  rw [List.map_injective_iff.mpr (fun _ _ one => Json.str.inj one) equal]

-- How a model reads a field, and the value its model_dump(mode="json") then gives. A value is typed when it has the
-- declared type itself: nothing is converted, and nothing is left to a default.
structure Reader where
  read : Value → Option Value
  typed : Value → Bool
  json : ∀ {value shown}, read value = some shown → isJson shown = true
  equal : ∀ {value shown raw}, read value = some shown → pyEq shown raw = true → read raw = some shown
  exact : ∀ {value other shown seen}, read value = some shown → read other = some seen → SameJson shown seen → shown = seen
  declared : ∀ {value shown}, typed value = true → read value = some shown → SameJson shown value

def readText (accepts : String → Bool) : Value → Option Value
  | .str s => if accepts s then some (.str s) else none
  | _ => none

theorem readText_some {accepts : String → Bool} {shown : Value} :
    readText accepts value = some shown ↔ ∃ s, value = .str s ∧ shown = .str s ∧ accepts s = true := by
  cases value with
  | str s =>
    simp only [readText,Option.ite_none_right_eq_some,Option.some.injEq,Value.str.injEq,exists_eq_left']
    exact ⟨fun ⟨accepted,same⟩ => ⟨same.symm,accepted⟩,fun ⟨same,accepted⟩ => ⟨accepted,same.symm⟩⟩
  | _ => simp [readText]

def Reader.matching (accepts : String → Bool) : Reader where
  read := readText accepts
  typed := isText
  json := by
    intro value shown read
    obtain ⟨s,_,rfl,_⟩ := readText_some.mp read
    rfl
  equal := by
    intro value shown raw read same
    obtain ⟨s,_,rfl,accepted⟩ := readText_some.mp read
    exact readText_some.mpr ⟨s,pyEq_textual same,rfl,accepted⟩
  exact := by
    intro value other shown seen first second same
    obtain ⟨s,_,rfl,_⟩ := readText_some.mp first
    exact (sameJson_text same).symm
  declared := by
    intro value shown _ read
    obtain ⟨s,rfl,rfl,_⟩ := readText_some.mp read
    rfl

def Reader.text : Reader := .matching fun _ => true

def Reader.literal (choices : List String) : Reader := .matching choices.contains

def isFlag : Value → Bool
  | .bool _ => true
  | _ => false

def Reader.flag : Reader where
  read := fun value => (laxBool value).map Value.bool
  typed := isFlag
  json := by
    intro value shown read
    obtain ⟨b,_,rfl⟩ := Option.map_eq_some_iff.mp read
    rfl
  equal := by
    intro value shown raw read same
    obtain ⟨b,_,rfl⟩ := Option.map_eq_some_iff.mp read
    rw [laxBool_equal same,Option.map_some]
  exact := by
    intro value other shown seen first second same
    obtain ⟨b,_,rfl⟩ := Option.map_eq_some_iff.mp first
    obtain ⟨c,_,rfl⟩ := Option.map_eq_some_iff.mp second
    simpa [SameJson,toJson] using same
  declared := by
    intro value shown typed read
    cases value with
    | bool b =>
      obtain rfl := Option.some.inj read
      rfl
    | _ => cases typed

-- A sequence of texts, kept as a tuple and dumped as a list.
def readTexts : Value → Option Value
  | .list items => if items.all isText then some (.list items) else none
  | .tuple items => if items.all isText then some (.list items) else none
  | _ => none

theorem readTexts_some {shown : Value} (read : readTexts value = some shown) :
    ∃ items, (value = .list items ∨ value = .tuple items) ∧ shown = .list items ∧ items.all isText = true := by
  cases value with
  | list items =>
    simp only [readTexts,Option.ite_none_right_eq_some,Option.some.injEq] at read
    exact ⟨items,.inl rfl,read.2.symm,read.1⟩
  | tuple items =>
    simp only [readTexts,Option.ite_none_right_eq_some,Option.some.injEq] at read
    exact ⟨items,.inr rfl,read.2.symm,read.1⟩
  | _ => cases read

def isTexts : Value → Bool
  | .list items => items.all isText
  | _ => false

def Reader.texts : Reader where
  read := readTexts
  typed := isTexts
  json := by
    intro value shown read
    obtain ⟨items,_,rfl,texts⟩ := readTexts_some read
    obtain ⟨held,rfl⟩ := texts_strs texts
    exact isJson_strs held
  equal := by
    intro value shown raw read same
    obtain ⟨items,_,rfl,texts⟩ := readTexts_some read
    obtain ⟨others,rfl,each⟩ := (pyEq_list _ _).mp same
    obtain rfl := pyEq_texts texts each
    rw [readTexts,if_pos texts]
  exact := by
    intro value other shown seen first second same
    obtain ⟨items,_,rfl,left⟩ := readTexts_some first
    obtain ⟨others,_,rfl,right⟩ := readTexts_some second
    rw [sameJson_texts left right same]
  declared := by
    intro value shown typed read
    obtain ⟨items,spelled,rfl,_⟩ := readTexts_some read
    rcases spelled with rfl | rfl
    · rfl
    · cases typed

def readOptional (inner : Value → Option Value) : Value → Option Value
  | .none => some .none
  | value => inner value

theorem readOptional_some {inner : Value → Option Value} {shown : Value} (read : readOptional inner value = some shown) :
    (value = .none ∧ shown = .none) ∨ (value ≠ .none ∧ inner value = some shown) := by
  cases value with
  | none => exact .inl ⟨rfl,(Option.some.inj read).symm⟩
  | _ => exact .inr ⟨by simp,read⟩

theorem readOptional_other {inner : Value → Option Value} (present : value ≠ .none) : readOptional inner value = inner value := by
  cases value with
  | none => exact absurd rfl present
  | _ => rfl

def Reader.optional (inner : Reader) : Reader where
  read := readOptional inner.read
  typed := fun value => value == .none || inner.typed value
  json := by
    intro value shown read
    rcases readOptional_some read with ⟨_,rfl⟩ | ⟨_,read⟩
    · rfl
    · exact inner.json read
  equal := by
    intro value shown raw read same
    rcases readOptional_some read with ⟨_,rfl⟩ | ⟨_,read⟩
    · rw [pyEq_none same]
      rfl
    · by_cases absent : raw = .none
      · subst raw
        cases shown with
        | none => rfl
        | _ => simp [pyEq,Value.number] at same
      · rw [readOptional_other absent]
        exact inner.equal read same
  exact := by
    intro value other shown seen first second same
    rcases readOptional_some first with ⟨_,rfl⟩ | ⟨_,first⟩
    · exact (sameJson_none same).symm
    · rcases readOptional_some second with ⟨_,rfl⟩ | ⟨_,second⟩
      · exact sameJson_none (Eq.symm same)
      · exact inner.exact first second same
  declared := by
    intro value shown typed read
    rcases readOptional_some read with ⟨rfl,rfl⟩ | ⟨present,read⟩
    · rfl
    · have own : inner.typed value = true := by simpa [present] using typed
      exact inner.declared own read

structure Field where
  name : String
  reader : Reader
  default : Option Value
  kept : ∀ {value}, default = some value → reader.read value = some value

theorem no_default {reader : Reader} (absent : (none : Option Value) = some value) : reader.read value = some value := by
  cases absent

def Field.needed (name : String) (reader : Reader) : Field := ⟨name,reader,none,no_default⟩

def Field.take (field : Field) (members : Dict) : Option Value :=
  match lookup (.str field.name) members with
  | some value => field.reader.read value
  | none => field.default

def takeFields (members : Dict) : List Field → Option Dict
  | [] => some []
  | field :: rest => (field.take members).bind fun shown => (takeFields members rest).map ((.str field.name,shown) :: ·)

-- A model that takes no other fields, and its check of the fields together.
structure Model where
  fields : List Field
  check : Dict → Bool
  distinct : (fields.map Field.name).Nodup

def Model.names (m : Model) : List Key := m.fields.map fun field => .str field.name

def Model.validate (m : Model) : Value → Option Dict
  | .dict members => if members.all fun member => m.names.contains member.1 then (takeFields members m.fields).filter m.check else none
  | _ => none

def Model.typed (m : Model) : Value → Bool
  | .dict members => decide ((members.map Prod.fst).Nodup) && m.fields.all fun field => ((lookup (.str field.name) members).map field.reader.typed).getD false
  | _ => false

theorem names_nodup (m : Model) : m.names.Nodup := by
  have spelled : m.names = (m.fields.map Field.name).map Key.str := by simp [Model.names]
  rw [spelled]
  exact m.distinct.map fun _ _ same => Key.str.inj same

variable {field : Field}

theorem take_read {shown : Value} (taken : field.take members = some shown) : ∃ value, field.reader.read value = some shown := by
  unfold Field.take at taken
  cases held : lookup (.str field.name) members with
  | some value =>
    rw [held] at taken
    exact ⟨value,taken⟩
  | none =>
    rw [held] at taken
    exact ⟨shown,field.kept taken⟩

def Shown (fields : List Field) (shown : Dict) : Prop :=
  List.Forall₂ (fun field member => member.1 = Key.str field.name ∧ ∃ value, field.reader.read value = some member.2) fields shown

variable {fields : List Field}

theorem takeFields_shown (taken : takeFields members fields = some shown) : Shown fields shown := by
  induction fields generalizing shown with
  | nil =>
    obtain rfl := Option.some.inj taken
    exact .nil
  | cons field rest ih =>
    simp only [takeFields,Option.bind_eq_some_iff,Option.map_eq_some_iff] at taken
    obtain ⟨value,own,later,found,rfl⟩ := taken
    exact .cons ⟨rfl,take_read own⟩ (ih found)

theorem shown_keys (held : Shown fields shown) : shown.map Prod.fst = fields.map fun field => Key.str field.name := by
  induction held with
  | nil => rfl
  | cons head rest ih => rw [List.map_cons,List.map_cons,head.1,ih]

variable {m : Model}

theorem validate_some (read : m.validate raw = some shown) :
    ∃ members, raw = .dict members ∧ (∀ member ∈ members, member.1 ∈ m.names) ∧ takeFields members m.fields = some shown ∧ m.check shown = true := by
  cases raw with
  | dict members =>
    simp only [Model.validate,Option.ite_none_right_eq_some,Option.filter_eq_some_iff,List.all_eq_true,List.contains_iff_mem] at read
    exact ⟨members,rfl,read.1,read.2.1,read.2.2⟩
  | _ => cases read

theorem validate_made (known : ∀ member ∈ members, member.1 ∈ m.names) (taken : takeFields members m.fields = some shown)
    (checked : m.check shown = true) : m.validate (.dict members) = some shown := by
  simp only [Model.validate,Option.ite_none_right_eq_some,Option.filter_eq_some_iff,List.all_eq_true,List.contains_iff_mem]
  exact ⟨known,taken,checked⟩

theorem validate_shown (read : m.validate raw = some shown) : Shown m.fields shown := by
  obtain ⟨members,rfl,_,taken,_⟩ := validate_some read
  exact takeFields_shown taken

theorem shown_record (held : Shown m.fields shown) : Record shown := by
  have keys : shown.map Prod.fst = m.names := shown_keys held
  constructor
  · intro member listed
    have named : member.1 ∈ m.names := keys ▸ List.mem_map_of_mem listed
    obtain ⟨field,_,same⟩ := List.mem_map.mp named
    exact ⟨field.name,same.symm⟩
  · rw [keys]
    exact names_nodup m

theorem shown_json (held : Shown m.fields shown) : isJson (.dict shown) = true := by
  refine (isJson_dict shown).mpr ⟨shown_record held,?_⟩
  unfold Shown at held
  generalize m.fields = fields at held
  induction held with
  | nil => simp
  | cons head rest ih =>
    obtain ⟨_,value,read⟩ := head
    exact List.forall_mem_cons.mpr ⟨(Field.reader _).json read,ih⟩

theorem takeFields_get (taken : takeFields members fields = some shown) (listed : field ∈ fields) :
    ∃ value, field.take members = some value ∧ (Key.str field.name,value) ∈ shown := by
  induction fields generalizing shown with
  | nil => cases listed
  | cons head rest ih =>
    simp only [takeFields,Option.bind_eq_some_iff,Option.map_eq_some_iff] at taken
    obtain ⟨value,own,later,found,rfl⟩ := taken
    rcases List.mem_cons.mp listed with rfl | further
    · exact ⟨value,own,List.mem_cons_self⟩
    · obtain ⟨value,own,there⟩ := ih found further
      exact ⟨value,own,List.mem_cons_of_mem _ there⟩

theorem validate_get (read : m.validate (.dict members) = some shown) (listed : field ∈ m.fields) :
    field.take members = some (shown.get field.name) := by
  have record := shown_record (validate_shown read)
  obtain ⟨_,same,_,taken,_⟩ := validate_some read
  obtain rfl := Value.dict.inj same
  obtain ⟨value,own,there⟩ := takeFields_get taken listed
  rw [own,Dict.get,lookup_of_mem record.distinct there,Option.getD_some]

theorem equal_names (held : Shown m.fields shown) (length : shown.length = others.length)
    (each : ∀ member ∈ shown, ∃ found, lookup member.1 others = some found ∧ pyEq member.2 found = true) :
    m.names.Perm (others.map Prod.fst) := by
  have keys : shown.map Prod.fst = m.names := shown_keys held
  have among : m.names ⊆ others.map Prod.fst := by
    intro name listed
    rw [← keys] at listed
    obtain ⟨member,there,rfl⟩ := List.mem_map.mp listed
    obtain ⟨found,present,_⟩ := each member there
    exact List.mem_map.mpr ⟨_,lookup_mem present,rfl⟩
  have size : (others.map Prod.fst).length ≤ m.names.length := by
    rw [← keys,List.length_map,List.length_map,length]
  exact (List.subperm_of_subset (names_nodup m) among).perm_of_length_le size

theorem takeFields_equal (held : Shown fields shown)
    (each : ∀ member ∈ shown, ∃ found, lookup member.1 others = some found ∧ pyEq member.2 found = true) :
    takeFields others fields = some shown := by
  induction held with
  | nil => rfl
  | @cons field member rest later head _ ih =>
    rw [List.forall_mem_cons] at each
    obtain ⟨name,value⟩ := member
    obtain ⟨rfl,raw,read⟩ := head
    obtain ⟨found,present,same⟩ := each.1
    have own : field.take others = some value := by
      rw [Field.take,present]
      exact field.reader.equal read same
    rw [takeFields,own,ih each.2]
    rfl

theorem validate_equal (read : m.validate value = some shown) (same : pyEq (.dict shown) raw = true) : m.validate raw = some shown := by
  obtain ⟨_,_,_,_,checked⟩ := validate_some read
  have held := validate_shown read
  obtain ⟨others,rfl,length,each⟩ := (pyEq_dict _ _).mp same
  have perm := equal_names held length each
  exact validate_made (fun member listed => perm.mem_iff.mpr (List.mem_map_of_mem listed)) (takeFields_equal held each) checked

theorem validate_again (read : m.validate raw = some shown) : m.validate (.dict shown) = some shown :=
  validate_equal read (pyEq_refl _ (shown_json (validate_shown read)))

theorem shown_exact (first : Shown m.fields a) (second : Shown m.fields b) (same : SameJson (.dict a) (.dict b)) : a = b := by
  have left := shown_json first
  have right := shown_json second
  have own := shown_record first
  have record := shown_record second
  refine List.forall₂_eq_eq_eq ▸ List.forall₂_iff_get.mpr ⟨first.length_eq.symm.trans second.length_eq,fun position inside also => ?_⟩
  have listed : position < m.fields.length := first.length_eq ▸ inside
  obtain ⟨name,value,read⟩ := (List.forall₂_iff_get.mp first).2 position listed inside
  obtain ⟨other,seen,reread⟩ := (List.forall₂_iff_get.mp second).2 position listed also
  have here := lookup_of_mem own.distinct (List.get_mem a ⟨position,inside⟩)
  have there := lookup_of_mem record.distinct (List.get_mem b ⟨position,also⟩)
  rw [name] at here
  rw [other] at there
  obtain ⟨found,present,equal⟩ := sameJson_lookup left right same here
  obtain rfl := Option.some.inj (present.symm.trans there)
  exact Prod.ext (name.trans other.symm) (Reader.exact _ read reread equal)

theorem typed_arranged (typed : m.typed (.dict members) = true) (known : ∀ member ∈ members, member.1 ∈ m.names) :
    ∃ arranged : Dict, arranged.Perm members ∧
      List.Forall₂ (fun field member => member.1 = Key.str field.name ∧ field.reader.typed member.2 = true) m.fields arranged := by
  simp only [Model.typed,Bool.and_eq_true,decide_eq_true_eq,List.all_eq_true] at typed
  obtain ⟨distinct,each⟩ := typed
  have present : ∀ field ∈ m.fields, ∃ value, lookup (.str field.name) members = some value ∧ field.reader.typed value = true := by
    intro field listed
    have own := each field listed
    cases found : lookup (.str field.name) members with
    | none => simp [found] at own
    | some value => exact ⟨value,rfl,by simpa [found] using own⟩
  refine ⟨m.fields.map fun field => (.str field.name,members.get field.name),?_,?_⟩
  · have keys : (m.fields.map fun field => ((Key.str field.name,members.get field.name) : Key × Value)).map Prod.fst = m.names := by
      simp [Model.names]
    have nodup := keys ▸ names_nodup m
    refine (List.perm_ext_iff_of_nodup (List.Nodup.of_map _ nodup) (List.Nodup.of_map _ distinct)).mpr fun member => ⟨fun listed => ?_,fun listed => ?_⟩
    · obtain ⟨field,there,rfl⟩ := List.mem_map.mp listed
      obtain ⟨value,found,_⟩ := present field there
      simpa [Dict.get,found] using lookup_mem found
    · obtain ⟨field,there,same⟩ := List.mem_map.mp (known member listed)
      have found := lookup_of_mem distinct (show (member.1,member.2) ∈ members from listed)
      refine List.mem_map.mpr ⟨field,there,Prod.ext same ?_⟩
      simp [Dict.get,same,found]
  · refine List.forall₂_map_right_iff.mpr (List.forall₂_same.mpr fun field listed => ⟨rfl,?_⟩)
    obtain ⟨value,found,own⟩ := present field listed
    simpa [Dict.get,found] using own

theorem typed_same (typed : m.typed raw = true) (read : m.validate raw = some shown) : SameJson (.dict shown) raw := by
  obtain ⟨members,rfl,known,taken,_⟩ := validate_some read
  obtain ⟨arranged,perm,each⟩ := typed_arranged typed known
  simp only [Model.typed,Bool.and_eq_true,decide_eq_true_eq] at typed
  have held := validate_shown read
  have distinct := (perm.map Prod.fst).nodup_iff.mpr typed.1
  have record : Record arranged := ⟨fun member listed => by
    obtain ⟨field,_,same⟩ := List.mem_map.mp (known member (perm.mem_iff.mp listed))
    exact ⟨field.name,same.symm⟩,distinct⟩
  refine Eq.trans (sameJson_members (List.forall₂_iff_get.mpr ⟨held.length_eq.symm.trans each.length_eq,fun position inside also => ?_⟩))
    (sameJson_perm record perm)
  have listed : position < m.fields.length := held.length_eq ▸ inside
  obtain ⟨name,_⟩ := (List.forall₂_iff_get.mp held).2 position listed inside
  obtain ⟨other,own⟩ := (List.forall₂_iff_get.mp each).2 position listed also
  refine ⟨name.trans other.symm,?_⟩
  have present : lookup (List.get arranged ⟨position,also⟩).1 members = some (List.get arranged ⟨position,also⟩).2 :=
    lookup_of_mem typed.1 (perm.mem_iff.mp (List.get_mem arranged ⟨position,also⟩))
  have dumped := lookup_of_mem (shown_record held).distinct (List.get_mem shown ⟨position,inside⟩)
  have took := validate_get read (List.get_mem m.fields ⟨position,listed⟩)
  rw [other] at present
  rw [name] at dumped
  rw [Field.take,present,Dict.get,dumped,Option.getD_some] at took
  exact Reader.declared _ own took

-- A model as the type of a field.
def Reader.nested (m : Model) : Reader where
  read := fun value => (m.validate value).map Value.dict
  typed := m.typed
  json := by
    intro value shown read
    obtain ⟨dump,found,rfl⟩ := Option.map_eq_some_iff.mp read
    exact shown_json (validate_shown found)
  equal := by
    intro value shown raw read same
    obtain ⟨dump,found,rfl⟩ := Option.map_eq_some_iff.mp read
    rw [validate_equal found same,Option.map_some]
  exact := by
    intro value other shown seen first second same
    obtain ⟨a,found,rfl⟩ := Option.map_eq_some_iff.mp first
    obtain ⟨b,refound,rfl⟩ := Option.map_eq_some_iff.mp second
    exact congrArg Value.dict (shown_exact (validate_shown found) (validate_shown refound) same)
  declared := by
    intro value shown typed read
    obtain ⟨dump,found,rfl⟩ := Option.map_eq_some_iff.mp read
    exact typed_same typed found

-- An instance of a model, by its dump.
@[ext] structure Instance (m : Model) where
  shown : Dict
  valid : m.validate (.dict shown) = some shown

def Model.parse (m : Model) (raw : Value) : Option (Instance m) :=
  (m.validate raw).pmap Instance.mk fun _ read => validate_again read

variable {a : Instance m}

theorem parse_some : m.parse raw = some a ↔ m.validate raw = some a.shown := by
  unfold Model.parse
  rw [Option.pmap_eq_some_iff]
  constructor
  · rintro ⟨shown,_,read,rfl⟩
    exact read
  · intro read
    exact ⟨a.shown,a.valid,read,rfl⟩

theorem parse_equal (same : pyEq (.dict a.shown) raw = true) : m.parse raw = some a :=
  parse_some.mpr (validate_equal a.valid same)

theorem instance_json (a : Instance m) : isJson (.dict a.shown) = true := shown_json (validate_shown a.valid)

theorem instance_exact (same : SameJson (.dict a.shown) (.dict b.shown)) : a = b :=
  Instance.ext (shown_exact (validate_shown a.valid) (validate_shown b.valid) same)

theorem parse_get (read : m.parse (.dict members) = some a) (listed : field ∈ m.fields) :
    field.take members = some (a.shown.get field.name) :=
  validate_get (parse_some.mp read) listed

theorem needed_get (read : m.parse (.dict members) = some a) {name : String} {reader : Reader}
    (listed : Field.needed name reader ∈ m.fields) (held : lookup (.str name) members = some value) :
    reader.read value = some (a.shown.get name) := by
  have taken := parse_get read listed
  have own : (Field.needed name reader).take members = reader.read value := by
    unfold Field.take
    rw [show (Field.needed name reader).name = name from rfl,held]
    rfl
  exact own.symm.trans taken

theorem matching_kept {accepts : String → Bool} {shown : Value} (read : (Reader.matching accepts).read value = some shown) :
    shown = value ∧ ∃ s, value = .str s := by
  obtain ⟨s,rfl,rfl,_⟩ := readText_some.mp read
  exact ⟨rfl,s,rfl⟩

theorem nested_self (a : Instance m) : (Reader.nested m).read (.dict a.shown) = some (.dict a.shown) := by
  show (m.validate (.dict a.shown)).map Value.dict = some (.dict a.shown)
  rw [a.valid,Option.map_some]

theorem instance_same (each : ∀ field ∈ m.fields, SameJson (a.shown.get field.name) (b.shown.get field.name)) : a = b := by
  have first := validate_shown a.valid
  have second := validate_shown b.valid
  refine instance_exact (sameJson_members (List.forall₂_iff_get.mpr ⟨first.length_eq.symm.trans second.length_eq,fun position inside also => ?_⟩))
  have listed : position < m.fields.length := first.length_eq ▸ inside
  have own := ((List.forall₂_iff_get.mp first).2 position listed inside).1
  have other := ((List.forall₂_iff_get.mp second).2 position listed also).1
  have here := lookup_of_mem (shown_record first).distinct (List.get_mem a.shown ⟨position,inside⟩)
  have there := lookup_of_mem (shown_record second).distinct (List.get_mem b.shown ⟨position,also⟩)
  have document := each _ (List.get_mem m.fields ⟨position,listed⟩)
  rw [own] at here
  rw [other] at there
  rw [Dict.get,Dict.get,here,there] at document
  exact ⟨own.trans other.symm,document⟩

end VeritasOs.ModelReader
