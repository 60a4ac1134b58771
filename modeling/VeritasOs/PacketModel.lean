import VeritasOs.JsonData

namespace VeritasOs.PacketModel
open JsonText

-- What a packet function raises: its own refusal, by its code, or another exception.
inductive Raised where
  | refused (code : String)
  | escaped (error : Exc)
deriving DecidableEq

abbrev Packet := Except Raised

def refuseWhen (failed : Bool) (code : String) : Packet Unit := if failed then .error (.refused code) else .ok ()

def orRefuse (code : String) : Option α → Packet α
  | some value => .ok value
  | none => .error (.refused code)

def escaping : Except Exc α → Packet α
  | .ok value => .ok value
  | .error error => .error (.escaped error)

-- An `except` clause that refuses on the packet's own refusals and on errors of the given kinds.
def refusing (kinds : List ExcKind) (code : String) : Packet α → Packet α
  | .ok value => .ok value
  | .error (.refused _) => .error (.refused code)
  | .error (.escaped error) => if kinds.contains error.kind then .error (.refused code) else .error (.escaped error)

@[simp] theorem refuseWhen_ok (failed : Bool) (code : String) : refuseWhen failed code = .ok () ↔ failed = false := by
  cases failed <;> simp [refuseWhen]

@[simp] theorem orRefuse_ok (code : String) (found : Option α) (value : α) : orRefuse code found = .ok value ↔ found = some value := by
  cases found <;> simp [orRefuse]

@[simp] theorem escaping_ok (outcome : Except Exc α) (value : α) : escaping outcome = .ok value ↔ outcome = .ok value := by
  cases outcome <;> simp [escaping]

@[simp] theorem refusing_ok (kinds : List ExcKind) (code : String) (outcome : Packet α) (value : α) :
    refusing kinds code outcome = .ok value ↔ outcome = .ok value := by
  cases outcome with
  | ok found => simp [refusing]
  | error raised =>
    cases raised with
    | refused own => simp [refusing]
    | escaped error =>
      by_cases known : error.kind ∈ kinds <;> simp [refusing,known]

theorem exists_unit {holds : Unit → Prop} : (∃ value, holds value) ↔ holds () := ⟨fun ⟨_,held⟩ => held,fun held => ⟨(),held⟩⟩

def Contained (outcome : Packet α) : Prop := ∀ error, outcome ≠ .error (.escaped error)

theorem contained_ok (value : α) : Contained (.ok value : Packet α) := by
  intro error raised
  cases raised

theorem contained_refuse (failed : Bool) (code : String) : Contained (refuseWhen failed code) := by
  intro error raised
  cases failed <;> simp [refuseWhen] at raised

theorem contained_orRefuse (code : String) (found : Option α) : Contained (orRefuse code found) := by
  intro error raised
  cases found <;> simp [orRefuse] at raised

theorem contained_after (head : Contained first) (later : ∀ value, first = .ok value → Contained (f value)) : Contained (first >>= f) := by
  cases first with
  | ok value => exact later value rfl
  | error raised =>
    intro error same
    obtain rfl : raised = .escaped error := Except.error.inj same
    exact head error rfl

theorem contained_bind (head : Contained first) (later : ∀ value, Contained (f value)) :
    Contained (first >>= f) := contained_after head fun value _ => later value

theorem escaped_after (head : Contained first)
    (raised : (first >>= f) = .error (.escaped error)) : ∃ value, first = .ok value ∧ f value = .error (.escaped error) := by
  cases first with
  | ok value => exact ⟨value,rfl,raised⟩
  | error own =>
    obtain rfl : own = .escaped error := Except.error.inj raised
    exact absurd rfl (head error)

theorem contained_escaping {outcome : Except Exc α} (fine : ∃ value, outcome = .ok value) : Contained (escaping outcome) := by
  obtain ⟨value,rfl⟩ := fine
  exact contained_ok value

def hexDigit (c : Char) : Bool := c.isDigit || ('a' ≤ c && c ≤ 'f')

def hexDigest (chars : List Char) : Bool := chars.length == 64 && chars.all hexDigit

def hashed (head text : String) : Bool := head.toList.isPrefixOf text.toList && hexDigest (text.toList.drop head.toList.length)

def laxBool : Value → Option Bool
  | .bool b => some b
  | .int 0 => some false
  | .int 1 => some true
  | .float x =>
    if pyEq (.float x) (.int 0) then some false
    else if pyEq (.float x) (.int 1) then some true
    else none
  | .str s =>
    if ["0","off","f","false","n","no"].contains s.toLower then some false
    else if ["1","on","t","true","y","yes"].contains s.toLower then some true
    else none
  | _ => none

inductive FieldType where
  | literal (value : Value)
  | text
  | hashed (head : String)
  | mapping
  | texts
  | textMapping
  | flags
deriving DecidableEq

def isText : Value → Bool
  | .str _ => true
  | _ => false

@[simp] theorem isText_text (s : String) : isText (.str s) = true := rfl

def readFlags : Dict → Option Dict
  | [] => some []
  | (key,value) :: rest => (laxBool value).bind fun flag => (readFlags rest).map ((key,.bool flag) :: ·)

def FieldType.accepts : FieldType → Value → Bool
  | .literal expected,value => value == expected
  | .text,value => isText value
  | .hashed head,.str s => PacketModel.hashed head s
  | .mapping,.dict _ => true
  | .texts,.list items => items.all isText
  | .textMapping,.dict members => members.all fun member => isText member.2
  | _,_ => false

-- The validated field, as model_dump(mode="json") shows it.
def FieldType.read (kind : FieldType) (value : Value) : Option Value :=
  match kind with
  | .flags => (value.asDict?.bind readFlags).map .dict
  | kind => if kind.accepts value then some value else none

abbrev Schema := List (String × FieldType)

def readFields (members : Dict) : Schema → Option Dict
  | [] => some []
  | (name,kind) :: rest =>
    ((lookup (.str name) members).bind kind.read).bind fun shown => (readFields members rest).map ((.str name,shown) :: ·)

-- model_validate of a model that forbids other fields, and model_dump(mode="json") of the result.
def modelValidate (schema : Schema) : Value → Option Dict
  | .dict members => if members.all fun member => schema.any fun field => member.1 == .str field.1 then readFields members schema else none
  | _ => none

-- A dictionary that shows a model: the fields of the schema, each as it is read.
def Shows (schema : Schema) (shown : Dict) : Prop :=
  List.Forall₂ (fun field member => member.1 = Key.str field.1 ∧ field.2.read member.2 = some member.2) schema shown

variable {members shown : Dict} {value : Value} {kind : FieldType} {schema : Schema} {name code head : String} {raw : Dict}

theorem readFlags_self (read : readFlags members = some shown) : readFlags shown = some shown := by
  induction members generalizing shown with
  | nil =>
    obtain rfl := Option.some.inj read
    rfl
  | cons head rest ih =>
    obtain ⟨key,value⟩ := head
    simp only [readFlags,Option.bind_eq_some_iff,Option.map_eq_some_iff] at read
    obtain ⟨flag,_,later,found,rfl⟩ := read
    simp [readFlags,laxBool,ih found]

theorem readFlags_json (read : readFlags members = some shown) :
    shown.map Prod.fst = members.map Prod.fst ∧ ∀ member ∈ shown, isJson member.2 = true := by
  induction members generalizing shown with
  | nil =>
    obtain rfl := Option.some.inj read
    simp
  | cons head rest ih =>
    obtain ⟨key,value⟩ := head
    simp only [readFlags,Option.bind_eq_some_iff,Option.map_eq_some_iff] at read
    obtain ⟨flag,_,later,found,rfl⟩ := read
    obtain ⟨keys,each⟩ := ih found
    exact ⟨by simp [keys],List.forall_mem_cons.mpr ⟨rfl,each⟩⟩

theorem read_flags {shown : Value} (read : FieldType.flags.read value = some shown) :
    ∃ members flags, value = .dict members ∧ readFlags members = some flags ∧ shown = .dict flags := by
  obtain ⟨flags,found,rfl⟩ := Option.map_eq_some_iff.mp read
  obtain ⟨members,mapping,given⟩ := Option.bind_eq_some_iff.mp found
  cases value with
  | dict inner =>
    obtain rfl := Option.some.inj mapping
    exact ⟨inner,flags,rfl,given,rfl⟩
  | _ => cases mapping

theorem read_plain {shown : Value} (plain : kind ≠ .flags) : kind.read value = some shown ↔ kind.accepts value = true ∧ shown = value := by
  have form : kind.read value = if kind.accepts value then some value else none := by
    cases kind with
    | flags => exact absurd rfl plain
    | _ => rfl
  rw [form,Option.ite_none_right_eq_some,Option.some.injEq,@eq_comm _ value shown]

theorem read_self {shown : Value} (read : kind.read value = some shown) : kind.read shown = some shown := by
  by_cases plain : kind = .flags
  · subst kind
    obtain ⟨members,flags,rfl,found,rfl⟩ := read_flags read
    simp [FieldType.read,Value.asDict?,readFlags_self found]
  · obtain ⟨accepted,rfl⟩ := (read_plain plain).mp read
    exact read

theorem read_json {shown : Value} (json : isJson value = true) (read : kind.read value = some shown) : isJson shown = true := by
  by_cases plain : kind = .flags
  · subst kind
    obtain ⟨members,flags,rfl,found,rfl⟩ := read_flags read
    obtain ⟨keys,each⟩ := readFlags_json found
    exact (isJson_dict flags).mpr ⟨((isJson_dict members).mp json).1.of_keys keys,each⟩
  · obtain ⟨accepted,rfl⟩ := (read_plain plain).mp read
    exact json

theorem readFields_shows (read : readFields members schema = some shown) : Shows schema shown := by
  induction schema generalizing shown with
  | nil =>
    obtain rfl := Option.some.inj read
    exact .nil
  | cons field rest ih =>
    simp only [readFields,Option.bind_eq_some_iff,Option.map_eq_some_iff] at read
    obtain ⟨value,⟨_,_,seen⟩,later,found,rfl⟩ := read
    exact .cons ⟨rfl,read_self seen⟩ (ih found)

theorem readFields_field (read : readFields members schema = some shown) (listed : (name,kind) ∈ schema) :
    ∃ value seen, lookup (.str name) members = some value ∧ kind.read value = some seen ∧ (.str name,seen) ∈ shown := by
  induction schema generalizing shown with
  | nil => cases listed
  | cons field rest ih =>
    simp only [readFields,Option.bind_eq_some_iff,Option.map_eq_some_iff] at read
    obtain ⟨seen,⟨value,held,kept⟩,later,found,rfl⟩ := read
    rcases List.mem_cons.mp listed with rfl | further
    · exact ⟨value,seen,held,kept,List.mem_cons_self⟩
    · obtain ⟨value,seen,held,kept,there⟩ := ih found further
      exact ⟨value,seen,held,kept,List.mem_cons_of_mem _ there⟩

theorem shows_keys (shows_ : Shows schema shown) : shown.map Prod.fst = schema.map fun field => Key.str field.1 := by
  induction shows_ with
  | nil => rfl
  | cons head rest ih => rw [List.map_cons,List.map_cons,head.1,ih]

theorem shows_record (distinct : (schema.map Prod.fst).Nodup) (shows_ : Shows schema shown) : Record shown := by
  have keys := shows_keys shows_
  constructor
  · intro member listed
    have named : member.1 ∈ schema.map fun field => Key.str field.1 := keys ▸ List.mem_map_of_mem listed
    obtain ⟨field,_,same⟩ := List.mem_map.mp named
    exact ⟨field.1,same.symm⟩
  · have spelled : shown.map Prod.fst = (schema.map Prod.fst).map Key.str := by rw [keys,List.map_map]; rfl
    rw [spelled]
    exact distinct.map fun _ _ same => Key.str.inj same

theorem readFields_self (shows_ : Shows schema shown) (held : ∀ member ∈ shown, lookup member.1 members = some member.2) :
    readFields members schema = some shown := by
  induction shows_ with
  | nil => rfl
  | @cons field member fields rest head later ih =>
    obtain ⟨key,value⟩ := member
    rw [List.forall_mem_cons] at held
    obtain ⟨rfl,read⟩ := head
    simp [readFields,held.1,read,ih held.2]

theorem modelValidate_self (distinct : (schema.map Prod.fst).Nodup) (shows_ : Shows schema shown) (perm : members.Perm shown) :
    modelValidate schema (.dict members) = some shown := by
  have record := shows_record distinct shows_
  have other : (members.map Prod.fst).Nodup := (perm.map _).nodup_iff.mpr record.distinct
  have known : (members.all fun member => schema.any fun field => member.1 == Key.str field.1) = true := by
    rw [List.all_eq_true]
    intro member listed
    have named : member.1 ∈ schema.map fun field => Key.str field.1 := shows_keys shows_ ▸ List.mem_map_of_mem (perm.mem_iff.mp listed)
    obtain ⟨field,there,same⟩ := List.mem_map.mp named
    exact List.any_eq_true.mpr ⟨field,there,by simp [same]⟩
  rw [modelValidate,if_pos known]
  exact readFields_self shows_ fun member listed => lookup_of_mem other (perm.mem_iff.mpr listed)

theorem modelValidate_read {raw : Value} (validated : modelValidate schema raw = some shown) :
    ∃ members, raw = .dict members ∧ readFields members schema = some shown := by
  cases raw with
  | dict members =>
    simp only [modelValidate,Option.ite_none_right_eq_some] at validated
    exact ⟨members,rfl,validated.2⟩
  | _ => cases validated

theorem modelValidate_json {raw : Value} (distinct : (schema.map Prod.fst).Nodup) (json : isJson raw = true)
    (validated : modelValidate schema raw = some shown) : isJson (.dict shown) = true := by
  obtain ⟨members,rfl,read⟩ := modelValidate_read validated
  have shows_ := readFields_shows read
  refine (isJson_dict shown).mpr ⟨shows_record distinct shows_,?_⟩
  clear shows_ distinct validated
  induction schema generalizing shown with
  | nil =>
    obtain rfl := Option.some.inj read
    simp
  | cons field rest ih =>
    simp only [readFields,Option.bind_eq_some_iff,Option.map_eq_some_iff] at read
    obtain ⟨seen,⟨value,held,kept⟩,later,found,rfl⟩ := read
    exact List.forall_mem_cons.mpr ⟨read_json (isJson_lookup json held) kept,ih found⟩

-- A packet as its verifier reads it: copied as JSON data, and validated.
def readPacket (code : String) (schema : Schema) (packet : Value) : Packet Dict :=
  orRefuse code ((jsonValue packet).bind (modelValidate schema))

theorem readPacket_ok (distinct : (schema.map Prod.fst).Nodup) (read : readPacket code schema packet = .ok shown) :
    isJson (.dict shown) = true ∧ Shows schema shown := by
  obtain ⟨copied,made,validated⟩ := Option.bind_eq_some_iff.mp ((orRefuse_ok _ _ _).mp read)
  obtain ⟨members,same,found⟩ := modelValidate_read validated
  exact ⟨modelValidate_json distinct (jsonValue_json packet made) validated,readFields_shows found⟩

theorem readPacket_made (code : String) (distinct : (schema.map Prod.fst).Nodup) (shows_ : Shows schema shown)
    (json : isJson (.dict shown) = true) (perm : members.Perm shown) : readPacket code schema (.dict members) = .ok shown := by
  obtain ⟨record,each⟩ := (isJson_dict shown).mp json
  have copied : isJson (.dict members) = true := (isJson_dict members).mpr
    ⟨⟨fun member listed => record.named member (perm.mem_iff.mp listed),(perm.map _).nodup_iff.mpr record.distinct⟩,
      fun member listed => each member (perm.mem_iff.mp listed)⟩
  exact (orRefuse_ok _ _ _).mpr (Option.bind_eq_some_iff.mpr ⟨_,jsonValue_self _ copied,modelValidate_self distinct shows_ perm⟩)

theorem readPacket_self (distinct : (schema.map Prod.fst).Nodup) (read : readPacket code schema packet = .ok shown) :
    readPacket code schema (.dict shown) = .ok shown := by
  obtain ⟨json,shows_⟩ := readPacket_ok distinct read
  exact readPacket_made code distinct shows_ json (.refl _)

theorem shows_lookup (distinct : (schema.map Prod.fst).Nodup) (shows_ : Shows schema shown) (listed : (name,kind) ∈ schema) :
    ∃ value, lookup (.str name) shown = some value ∧ kind.read value = some value := by
  have record := shows_record distinct shows_
  obtain ⟨position,inside,same⟩ := List.getElem_of_mem listed
  have length := shows_.length_eq
  obtain ⟨key,read⟩ := List.forall₂_iff_get.mp shows_ |>.2 position inside (length ▸ inside)
  have reached : position < shown.length := length ▸ inside
  simp only [List.get_eq_getElem,same] at key read
  have member : shown[position] ∈ shown := List.getElem_mem reached
  exact ⟨_,key ▸ lookup_of_mem record.distinct member,read⟩

theorem shows_get (distinct : (schema.map Prod.fst).Nodup) (shows_ : Shows schema shown) (listed : (name,kind) ∈ schema) :
    kind.read (shown.get name) = some (shown.get name) := by
  obtain ⟨value,held,read⟩ := shows_lookup distinct shows_ listed
  simp only [Dict.get,held,Option.getD_some]
  exact read

theorem shows_held (distinct : (schema.map Prod.fst).Nodup) (shows_ : Shows schema shown) (listed : (name,kind) ∈ schema) :
    lookup (.str name) shown = some (shown.get name) := by
  obtain ⟨value,held,_⟩ := shows_lookup distinct shows_ listed
  simp [Dict.get,held]

theorem accepts_hashed (accepted : FieldType.read (.hashed head) value = some value) :
    ∃ text, value = .str text ∧ hashed head text = true := by
  obtain ⟨accepted,_⟩ := (read_plain (by simp)).mp accepted
  cases value with
  | str text => exact ⟨text,rfl,accepted⟩
  | _ => cases accepted

theorem accepts_mapping (accepted : FieldType.mapping.read value = some value) : ∃ members : Dict, value = .dict members := by
  obtain ⟨accepted,_⟩ := (read_plain (by simp)).mp accepted
  cases value with
  | dict members => exact ⟨members,rfl⟩
  | _ => cases accepted

theorem shows_hashes (distinct : (schema.map Prod.fst).Nodup) (shows_ : Shows schema shown) {names : List String}
    (typed : ∀ name ∈ names, (name,FieldType.hashed head) ∈ schema) :
    ∀ name ∈ names, ∃ text, shown.get name = .str text ∧ hashed head text = true :=
  fun name listed => accepts_hashed (shows_get distinct shows_ (typed name listed))

theorem shows_mappings (distinct : (schema.map Prod.fst).Nodup) (shows_ : Shows schema shown) {names : List String}
    (typed : ∀ name ∈ names, (name,FieldType.mapping) ∈ schema) : ∀ name ∈ names, ∃ members : Dict, shown.get name = .dict members :=
  fun name listed => accepts_mapping (shows_get distinct shows_ (typed name listed))

theorem accepts_textMapping (accepted : FieldType.textMapping.read value = some value) :
    ∃ members : Dict, value = .dict members ∧ (members.all fun member => isText member.2) = true := by
  obtain ⟨accepted,_⟩ := (read_plain (by simp)).mp accepted
  cases value with
  | dict members => exact ⟨members,rfl,accepted⟩
  | _ => cases accepted

theorem accepts_text (accepted : FieldType.text.read value = some value) : ∃ s, value = .str s := by
  obtain ⟨accepted,_⟩ := (read_plain (by simp)).mp accepted
  cases value with
  | str s => exact ⟨s,rfl⟩
  | _ => cases accepted

theorem readPacket_fields (json : isJson (.dict raw) = true) (read : readPacket code schema (.dict raw) = .ok shown) :
    readFields raw schema = some shown := by
  obtain ⟨copied,made,validated⟩ := Option.bind_eq_some_iff.mp ((orRefuse_ok _ _ _).mp read)
  obtain rfl := Option.some.inj (made.symm.trans (jsonValue_self _ json))
  obtain ⟨members,same,found⟩ := modelValidate_read validated
  obtain rfl := Value.dict.inj same
  exact found

theorem readPacket_get (distinct : (schema.map Prod.fst).Nodup) (json : isJson (.dict raw) = true)
    (read : readPacket code schema (.dict raw) = .ok shown) (listed : (name,kind) ∈ schema) (plain : kind ≠ .flags) :
    shown.get name = raw.get name := by
  have record := shows_record distinct (readPacket_ok distinct read).2
  obtain ⟨value,seen,held,kept,there⟩ := readFields_field (readPacket_fields json read) listed
  obtain ⟨_,rfl⟩ := (read_plain plain).mp kept
  simp [Dict.get,held,lookup_of_mem record.distinct there]

theorem shows_same (distinct : (schema.map Prod.fst).Nodup) (first : Shows schema a) (second : Shows schema b)
    (each : ∀ field ∈ schema, SameJson (a.get field.1) (b.get field.1)) : SameJson (.dict a) (.dict b) := by
  have left := shows_record distinct first
  have right := shows_record distinct second
  refine sameJson_members (List.forall₂_iff_get.mpr ⟨first.length_eq.symm.trans second.length_eq,fun position inside also => ?_⟩)
  have listed : position < schema.length := first.length_eq ▸ inside
  have own := (List.forall₂_iff_get.mp first).2 position listed inside
  have other := (List.forall₂_iff_get.mp second).2 position listed also
  have document := each (schema.get ⟨position,listed⟩) (List.get_mem _ _)
  have here : lookup (.str (schema.get ⟨position,listed⟩).1) a = some (List.get a ⟨position,inside⟩).2 :=
    own.1 ▸ lookup_of_mem left.distinct (List.get_mem a ⟨position,inside⟩)
  have there : lookup (.str (schema.get ⟨position,listed⟩).1) b = some (List.get b ⟨position,also⟩).2 :=
    other.1 ▸ lookup_of_mem right.distinct (List.get_mem b ⟨position,also⟩)
  rw [Dict.get,Dict.get,here,there] at document
  exact ⟨own.1.trans other.1.symm,document⟩

theorem readFields_mem (read : readFields members schema = some shown) : ∀ member ∈ shown, ∃ field ∈ schema, member.1 = .str field.1 := by
  have keys := shows_keys (readFields_shows read)
  intro member listed
  have named : member.1 ∈ schema.map fun field => Key.str field.1 := keys ▸ List.mem_map_of_mem listed
  obtain ⟨field,there,same⟩ := List.mem_map.mp named
  exact ⟨field,there,same.symm⟩

theorem readPacket_perm (distinct : (schema.map Prod.fst).Nodup) (plain : ∀ field ∈ schema, field.2 ≠ .flags)
    (json : isJson (.dict raw) = true) (read : readPacket code schema (.dict raw) = .ok shown) : raw.Perm shown := by
  have own := ((isJson_dict raw).mp json).1
  have record := shows_record distinct (readPacket_ok distinct read).2
  have fields := readPacket_fields json read
  obtain ⟨copied,made,validated⟩ := Option.bind_eq_some_iff.mp ((orRefuse_ok _ _ _).mp read)
  obtain rfl := Option.some.inj (made.symm.trans (jsonValue_self _ json))
  simp only [modelValidate,Option.ite_none_right_eq_some,List.all_eq_true,List.any_eq_true] at validated
  refine (List.perm_ext_iff_of_nodup (List.Nodup.of_map _ own.distinct) (List.Nodup.of_map _ record.distinct)).mpr fun member => ?_
  constructor
  · intro listed
    obtain ⟨field,there,same⟩ := validated.1 member listed
    obtain ⟨key,value⟩ := member
    obtain rfl : key = .str field.1 := by simpa using same
    obtain ⟨found,seen,held,kept,inside⟩ := readFields_field fields there
    obtain ⟨_,rfl⟩ := (read_plain (plain field there)).mp kept
    obtain rfl := Option.some.inj (held.symm.trans (lookup_of_mem own.distinct listed))
    exact inside
  · intro listed
    obtain ⟨field,there,same⟩ := readFields_mem fields member listed
    obtain ⟨key,value⟩ := member
    obtain rfl : key = .str field.1 := same
    obtain ⟨found,seen,held,kept,inside⟩ := readFields_field fields there
    obtain ⟨_,rfl⟩ := (read_plain (plain field there)).mp kept
    have equal := (lookup_of_mem record.distinct inside).symm.trans (lookup_of_mem record.distinct listed)
    obtain rfl := Option.some.inj equal
    exact lookup_mem held

section Digests
variable (sha256 : String → String)

def domainDocument (domain : String) (value : Value) : Value := .dict [(.str "domain",.str domain),(.str "value",value)]

def domainDigest (domain : String) (value : Value) : Option String :=
  ((jsonValue value).bind fun copied => canonicalJsonDumps (domainDocument domain copied)).map sha256

variable {value : Value} {digest : String} {own : Seal} {packet a b fields arranged : Dict} {schema : Schema}

theorem domainDocument_json (domain : String) (json : isJson value = true) : isJson (domainDocument domain value) = true := by
  simp [domainDocument,isJson,isJsonMembers,Key.isStr,json]

theorem domainDigest_json (domain : String) (json : isJson value = true) :
    ∃ text, canonicalJsonDumps (domainDocument domain value) = some text ∧ domainDigest sha256 domain value = some (sha256 text) := by
  obtain ⟨written,made⟩ := Option.isSome_iff_exists.mp (isJson_recordable _ (domainDocument_json domain json))
  have dumped : canonicalJsonDumps (domainDocument domain value) = some (dumps compact written) := by simp [canonicalJsonDumps,made]
  exact ⟨_,dumped,by simp [domainDigest,jsonValue_self value json,dumped]⟩

theorem distinguishes_same {a a' b b' : Value} (left : SameJson a a') (right : SameJson b b') (apart : Distinguishes sha256 a b) :
    Distinguishes sha256 a' b' := by
  intro s t first second equal
  refine apart s t ?_ ?_ equal
  · rw [canonicalJsonDumps,show toJson true a = toJson true a' from left]
    exact first
  · rw [canonicalJsonDumps,show toJson true b = toJson true b' from right]
    exact second

theorem domainDigest_same {domain : String} {a b : Value} (left : isJson a = true) (right : isJson b = true)
    (first : domainDigest sha256 domain a = some digest) (second : domainDigest sha256 domain b = some digest)
    (apart : Distinguishes sha256 (domainDocument domain a) (domainDocument domain b)) : SameJson a b := by
  obtain ⟨s,dumped,made⟩ := domainDigest_json sha256 domain left
  obtain ⟨t,redumped,remade⟩ := domainDigest_json sha256 domain right
  obtain rfl := Option.some.inj (made.symm.trans first)
  have equal : sha256 s = sha256 t := Option.some.inj (second.symm.trans remade)
  have same := distinguished apart dumped redumped equal
  exact sameJson_get (domainDocument_json domain left) (domainDocument_json domain right) same "value"

-- The identifier and the hash of a packet, made of its other fields.
structure Seal where
  domain : String
  idField : String
  hashField : String
  head : String
  hashMismatch : String
  idMismatch : String

def Seal.unsealed (own : Seal) (packet : Dict) : Dict :=
  packet.filter fun member => member.1 != .str own.idField && member.1 != .str own.hashField

def Seal.packetHash (own : Seal) (packet : Dict) : Option String := domainDigest sha256 own.domain (.dict (own.unsealed packet))

def Seal.sealed (own : Seal) (fields : Dict) (digest : String) : Dict :=
  fields ++ [(.str own.hashField,.str digest),(.str own.idField,.str (own.head ++ digest))]

def Seal.check (own : Seal) (code : String) (packet : Dict) : Packet Unit := do
  let digest ← orRefuse code (own.packetHash sha256 packet)
  refuseWhen (packet.get own.hashField != .str digest) own.hashMismatch
  refuseWhen (packet.get own.idField != .str (own.head ++ digest)) own.idMismatch

theorem Seal.check_ok : own.check sha256 code packet = .ok () ↔ ∃ digest, own.packetHash sha256 packet = some digest ∧
      packet.get own.hashField = .str digest ∧ packet.get own.idField = .str (own.head ++ digest) := by
  unfold Seal.check
  rw [bind_ok]
  simp only [except_then_ok,orRefuse_ok,refuseWhen_ok,bne_eq_false_iff_eq]

theorem unsealed_json (json : isJson (.dict packet) = true) : isJson (.dict (own.unsealed packet)) = true := by
  obtain ⟨record,each⟩ := (isJson_dict packet).mp json
  have kept : (own.unsealed packet).Sublist packet := List.filter_sublist
  exact (isJson_dict _).mpr ⟨⟨fun member listed => record.named member (kept.subset listed),record.distinct.sublist (kept.map _)⟩,
    fun member listed => each member (kept.subset listed)⟩

theorem lookup_filter (kept : ∀ value, keep (wanted,value) = true) (dict : Dict) :
    lookup wanted (dict.filter keep) = lookup wanted dict := by
  induction dict with
  | nil => rfl
  | cons head rest ih =>
    obtain ⟨key,value⟩ := head
    by_cases same : key = wanted
    · subst same
      rw [List.filter_cons_of_pos (kept value)]
      simp [lookup]
    · by_cases held : keep (key,value) = true
      · rw [List.filter_cons_of_pos held]
        simp [lookup,same,ih]
      · rw [List.filter_cons_of_neg held]
        simp [lookup,same,ih]

theorem unsealed_get (other : name ≠ own.idField) (distinct : name ≠ own.hashField) :
    Dict.get (own.unsealed packet) name = packet.get name := by
  unfold Dict.get Seal.unsealed
  rw [lookup_filter fun value => by simp [other,distinct]]

-- Packets with one hash hold the same values, their identifiers aside.
theorem sealed_same (left : isJson (.dict a) = true) (right : isJson (.dict b) = true) (first : own.packetHash sha256 a = some digest)
    (second : own.packetHash sha256 b = some digest)
    (apart : Distinguishes sha256 (domainDocument own.domain (.dict (own.unsealed a))) (domainDocument own.domain (.dict (own.unsealed b)))) :
    ∀ name, name ≠ own.idField → name ≠ own.hashField → SameJson (a.get name) (b.get name) := by
  intro name other distinct
  have same := domainDigest_same sha256 (unsealed_json left) (unsealed_json right) first second apart
  have inside := sameJson_get (unsealed_json left) (unsealed_json right) same name
  rwa [unsealed_get other distinct,unsealed_get other distinct] at inside

-- A tuple is a list in JSON data.
def untupled : Value → Value
  | .tuple items => .list items
  | value => value

@[simp] theorem untuple_text (s : String) : untupled (.str s) = .str s := rfl
@[simp] theorem untuple_flag (b : Bool) : untupled (.bool b) = .bool b := rfl
@[simp] theorem untuple_mapping (members : Dict) : untupled (.dict members) = .dict members := rfl
@[simp] theorem untuple_items (items : List Value) : untupled (.tuple items) = .list items := rfl

def untupledFields (fields : Dict) : Dict := fields.map fun member => (member.1,untupled member.2)

theorem untupled_copied (json : isJson (untupled value) = true) : jsonValue value = some (untupled value) := by
  cases value with
  | tuple items =>
    have each := (isJson_list items).mp json
    simp [jsonValue,untupled,jsonItems_self fun item listed => jsonValue_self item (each item listed)]
  | _ => exact jsonValue_self _ json

theorem untupled_members (named : StrKeys fields) (json : ∀ member ∈ fields, isJson (untupled member.2) = true) :
    jsonMembers fields = some (untupledFields fields) := by
  induction fields with
  | nil => rfl
  | cons head rest ih =>
    obtain ⟨key,value⟩ := head
    rw [List.forall_mem_cons] at json
    obtain ⟨name,rfl⟩ := named _ List.mem_cons_self
    have later := ih (fun member listed => named member (List.mem_cons_of_mem _ listed)) json.2
    simp [jsonMembers,untupled_copied json.1,later,untupledFields]

theorem untupled_keys (fields : Dict) : (untupledFields fields).map Prod.fst = fields.map Prod.fst := by
  simp [untupledFields,Function.comp_def]

theorem untupled_dict (record : Record fields) (json : ∀ member ∈ fields, isJson (untupled member.2) = true) :
    jsonValue (.dict fields) = some (.dict (untupledFields fields)) := by
  have fresh : Dict.update [] (untupledFields fields) = untupledFields fields := by
    simpa using update_fresh [] (untupledFields fields) (by simpa [untupled_keys] using record.distinct)
  rw [jsonValue,untupled_members record.named json,Option.map_some,fresh]

theorem untupled_json (record : Record fields) (json : ∀ member ∈ fields, isJson (untupled member.2) = true) :
    isJson (.dict (untupledFields fields)) = true := jsonValue_json _ (untupled_dict record json)

-- The sealed packet in the order of its model: the seal follows the format version.
def Seal.placed (own : Seal) (fields : Dict) (digest : String) : Dict :=
  fields.take 1 ++ [(.str own.idField,.str (own.head ++ digest)),(.str own.hashField,.str digest)] ++ fields.drop 1

theorem sealed_placed (own : Seal) (fields : Dict) (digest : String) : (own.sealed fields digest).Perm (own.placed fields digest) := by
  have swapped : [(Key.str own.hashField,Value.str digest),(Key.str own.idField,Value.str (own.head ++ digest))].Perm
      [(.str own.idField,.str (own.head ++ digest)),(.str own.hashField,.str digest)] := .swap _ _ _
  calc own.sealed fields digest
      = fields.take 1 ++ fields.drop 1 ++ [(.str own.hashField,.str digest),(.str own.idField,.str (own.head ++ digest))] := by
        rw [List.take_append_drop]; rfl
    _ |>.Perm (fields.take 1 ++ fields.drop 1 ++ [(.str own.idField,.str (own.head ++ digest)),(.str own.hashField,.str digest)]) :=
        swapped.append_left _
    _ |>.Perm (own.placed fields digest) := by
        unfold Seal.placed
        rw [List.append_assoc,List.append_assoc]
        exact List.perm_append_comm.append_left _

structure Seal.Sealable (own : Seal) (fields : Dict) : Prop where
  record : Record fields
  fresh : ∀ member ∈ fields, member.1 ≠ .str own.idField ∧ member.1 ≠ .str own.hashField
  apart : own.idField ≠ own.hashField
  json : ∀ member ∈ fields, isJson (untupled member.2) = true

theorem record_names {names : List String} (keys : fields.map Prod.fst = names.map Key.str) (distinct : names.Nodup) : Record fields := by
  constructor
  · intro member listed
    have named : member.1 ∈ names.map Key.str := keys ▸ List.mem_map_of_mem listed
    obtain ⟨name,_,same⟩ := List.mem_map.mp named
    exact ⟨name,same.symm⟩
  · rw [keys]
    exact distinct.map fun _ _ same => Key.str.inj same

theorem sealable_names (keys : fields.map Prod.fst = names.map Key.str)
    (distinct : (own.idField :: own.hashField :: names).Nodup) (json : ∀ member ∈ fields, isJson (untupled member.2) = true) :
    own.Sealable fields := by
  have parts := List.nodup_cons.mp distinct
  have rest := List.nodup_cons.mp parts.2
  refine ⟨record_names keys rest.2,?_,fun same => parts.1 (same ▸ List.mem_cons_self),json⟩
  intro member listed
  have named : member.1 ∈ names.map Key.str := keys ▸ List.mem_map_of_mem listed
  obtain ⟨name,there,same⟩ := List.mem_map.mp named
  rw [← same]
  refine ⟨fun equal => parts.1 ?_,fun equal => rest.1 ?_⟩
  · rw [← Key.str.inj equal]
    exact List.mem_cons_of_mem _ there
  · rw [← Key.str.inj equal]
    exact there

theorem unsealed_fields (fresh : ∀ member ∈ fields, member.1 ≠ .str own.idField ∧ member.1 ≠ .str own.hashField) :
    own.unsealed fields = fields :=
  List.filter_eq_self.mpr fun member listed => by simp [fresh member listed]

theorem unsealed_placed (digest : String) (fresh : ∀ member ∈ fields, member.1 ≠ .str own.idField ∧ member.1 ≠ .str own.hashField) :
    own.unsealed (own.placed fields digest) = fields := by
  have first : own.unsealed (fields.take 1) = fields.take 1 := unsealed_fields fun member listed => fresh member (List.mem_of_mem_take listed)
  have rest : own.unsealed (fields.drop 1) = fields.drop 1 := unsealed_fields fun member listed => fresh member (List.mem_of_mem_drop listed)
  unfold Seal.unsealed at first rest ⊢
  unfold Seal.placed
  have own_ : [(Key.str own.idField,Value.str (own.head ++ digest)),(Key.str own.hashField,Value.str digest)].filter
      (fun member => member.1 != .str own.idField && member.1 != .str own.hashField) = [] := by simp
  rw [List.filter_append,List.filter_append,first,rest,own_,List.append_nil,List.take_append_drop]

theorem sealed_record (sealable : own.Sealable fields) (digest : String) : Record (own.sealed fields digest) := by
  constructor
  · intro member listed
    rcases List.mem_append.mp listed with old | new
    · exact sealable.record.named member old
    · simp only [List.mem_cons,List.not_mem_nil,or_false] at new
      rcases new with rfl | rfl <;> exact ⟨_,rfl⟩
  · unfold Seal.sealed
    rw [List.map_append,List.nodup_append]
    refine ⟨sealable.record.distinct,by simpa using sealable.apart.symm,?_⟩
    intro key old other new
    obtain ⟨member,listed,rfl⟩ := List.mem_map.mp old
    simp only [List.map_cons,List.map_nil,List.mem_cons,List.not_mem_nil,or_false] at new
    rcases new with rfl | rfl
    · exact (sealable.fresh member listed).2
    · exact (sealable.fresh member listed).1

theorem sealed_json (sealable : own.Sealable fields) (digest : String) :
    ∀ member ∈ own.sealed fields digest, isJson (untupled member.2) = true := by
  intro member listed
  rcases List.mem_append.mp listed with old | new
  · exact sealable.json member old
  · simp only [List.mem_cons,List.not_mem_nil,or_false] at new
    rcases new with rfl | rfl <;> rfl

theorem untupled_json_self (json : isJson value = true) : untupled value = value := by
  cases value with
  | tuple items => cases json
  | _ => rfl

theorem sealable_untupled (sealable : own.Sealable fields) : own.Sealable (untupledFields fields) := by
  have inner := (isJson_dict _).mp (untupled_json sealable.record sealable.json)
  refine ⟨inner.1,?_,sealable.apart,fun member listed => ?_⟩
  · intro member listed
    obtain ⟨plain,there,rfl⟩ := List.mem_map.mp listed
    exact sealable.fresh plain there
  · rw [untupled_json_self (inner.2 member listed)]
    exact inner.2 member listed

theorem sealable_perm (sealable : own.Sealable fields) (perm : arranged.Perm fields) : own.Sealable arranged :=
  ⟨⟨fun member listed => sealable.record.named member (perm.mem_iff.mp listed),(perm.map _).nodup_iff.mpr sealable.record.distinct⟩,
    fun member listed => sealable.fresh member (perm.mem_iff.mp listed),sealable.apart,
    fun member listed => sealable.json member (perm.mem_iff.mp listed)⟩

theorem get_cons (own name : String) (value : Value) (rest : Dict) :
    Dict.get ((.str own,value) :: rest) name = if own = name then value else Dict.get rest name := by
  by_cases same : own = name <;> simp [Dict.get,lookup,same]

theorem untupledFields_get (fields : Dict) (name : String) : (untupledFields fields).get name = untupled (fields.get name) := by
  unfold Dict.get
  induction fields with
  | nil => rfl
  | cons head rest ih =>
    obtain ⟨key,value⟩ := head
    by_cases same : key = .str name
    · simp [untupledFields,lookup,same]
    · simpa [untupledFields,lookup,same] using ih

theorem placed_get (sealable : own.Sealable fields) (digest : String) (other : name ≠ own.idField)
    (distinct : name ≠ own.hashField) : (own.placed fields digest).get name = fields.get name := by
  rw [← unsealed_get other distinct,unsealed_placed digest sealable.fresh]

theorem placed_seal (sealable : own.Sealable fields) (digest : String) :
    (own.placed fields digest).get own.idField = .str (own.head ++ digest) ∧ (own.placed fields digest).get own.hashField = .str digest := by
  have perm := sealed_placed own fields digest
  have distinct := (perm.map Prod.fst).nodup_iff.mp (sealed_record sealable digest).distinct
  have held {name : String} {value : Value} (listed : (Key.str name,value) ∈ own.placed fields digest) :
      (own.placed fields digest).get name = value := by
    simp [Dict.get,lookup_of_mem distinct listed]
  exact ⟨held (by simp [Seal.placed]),held (by simp [Seal.placed])⟩

theorem document_perm (domain : String) (record : Record a) (perm : a.Perm b) :
    SameJson (domainDocument domain (.dict a)) (domainDocument domain (.dict b)) :=
  sameJson_members (.cons ⟨rfl,rfl⟩ (.cons ⟨rfl,sameJson_perm record perm⟩ .nil))

theorem domainDigest_perm (domain : String) (json : isJson (.dict a) = true) (perm : a.Perm b) :
    domainDigest sha256 domain (.dict a) = domainDigest sha256 domain (.dict b) := by
  obtain ⟨record,each⟩ := (isJson_dict a).mp json
  have other : isJson (.dict b) = true := (isJson_dict b).mpr
    ⟨⟨fun member listed => record.named member (perm.mem_iff.mpr listed),(perm.map _).nodup_iff.mp record.distinct⟩,
      fun member listed => each member (perm.mem_iff.mpr listed)⟩
  have same := document_perm domain record perm
  simp only [domainDigest,jsonValue_self _ json,jsonValue_self _ other,Option.bind_some,canonicalJsonDumps]
  rw [show toJson true (domainDocument domain (.dict a)) = toJson true (domainDocument domain (.dict b)) from same]

theorem packetHash_untupled (sealable : own.Sealable fields) :
    own.packetHash sha256 fields = domainDigest sha256 own.domain (.dict (untupledFields fields)) := by
  unfold Seal.packetHash domainDigest
  rw [unsealed_fields sealable.fresh,untupled_dict sealable.record sealable.json,
    jsonValue_self _ (untupled_json sealable.record sealable.json)]

theorem sealed_arranged (code : String) (distinct : (schema.map Prod.fst).Nodup) (sealable : own.Sealable fields)
    (perm : arranged.Perm (untupledFields fields)) (shows_ : Shows schema (own.placed arranged digest))
    (hashed : own.packetHash sha256 fields = some digest) :
    readPacket code schema (.dict (own.sealed fields digest)) = .ok (own.placed arranged digest) ∧
      own.packetHash sha256 (own.placed arranged digest) = some digest := by
  have whole : own.sealed (untupledFields fields) digest = untupledFields (own.sealed fields digest) := by
    simp [Seal.sealed,untupledFields,untupled]
  have inner := untupled_json sealable.record sealable.json
  have placed : (own.sealed (untupledFields fields) digest).Perm (own.placed arranged digest) :=
    (perm.symm.append_right _).trans (sealed_placed own arranged digest)
  constructor
  · refine (orRefuse_ok _ _ _).mpr (Option.bind_eq_some_iff.mpr ⟨_,untupled_dict (sealed_record sealable digest) (sealed_json sealable digest),?_⟩)
    rw [← whole]
    exact modelValidate_self distinct shows_ placed
  · have fresh := (sealable_perm (sealable_untupled sealable) perm).fresh
    rw [Seal.packetHash,unsealed_placed digest fresh,← domainDigest_perm sha256 own.domain inner perm.symm,← packetHash_untupled sha256 sealable]
    exact hashed

theorem sealed_read (code : String) (distinct : (schema.map Prod.fst).Nodup) (sealable : own.Sealable fields)
    (shows_ : Shows schema (own.placed (untupledFields fields) digest)) (hashed : own.packetHash sha256 fields = some digest) :
    readPacket code schema (.dict (own.sealed fields digest)) = .ok (own.placed (untupledFields fields) digest) ∧
      own.packetHash sha256 (own.placed (untupledFields fields) digest) = some digest :=
  sealed_arranged sha256 code distinct sealable (.refl _) shows_ hashed

theorem get_perm (record : Record a) (perm : a.Perm b) (name : String) : a.get name = b.get name := by
  have distinct := (perm.map Prod.fst).nodup_iff.mp record.distinct
  unfold Dict.get
  cases held : lookup (.str name) a with
  | some value => rw [lookup_of_mem distinct (perm.mem_iff.mp (lookup_mem held))]
  | none =>
    cases found : lookup (.str name) b with
    | none => rfl
    | some value =>
      have listed := lookup_of_mem record.distinct (perm.mem_iff.mpr (lookup_mem found))
      rw [held] at listed
      cases listed

theorem sealed_made (code : String) (hex : ∀ text, hexDigest (sha256 text).toList = true) (distinct : (schema.map Prod.fst).Nodup)
    (sealable : own.Sealable fields) (perm : arranged.Perm (untupledFields fields))
    (shows_ : ∀ digest, hexDigest digest.toList = true → Shows schema (own.placed arranged digest)) :
    ∃ digest packet, own.packetHash sha256 fields = some digest ∧ readPacket code schema (.dict (own.sealed fields digest)) = .ok packet ∧
      own.check sha256 code packet = .ok () ∧
      ∀ name, name ≠ own.idField → name ≠ own.hashField → packet.get name = untupled (fields.get name) := by
  have untupled_ := sealable_untupled sealable
  have inner := sealable_perm untupled_ perm
  obtain ⟨text,_,digested⟩ := domainDigest_json sha256 own.domain (untupled_json sealable.record sealable.json)
  have hashed := (packetHash_untupled sha256 sealable).trans digested
  obtain ⟨read,rehashed⟩ := sealed_arranged sha256 code distinct sealable perm (shows_ _ (hex text)) hashed
  obtain ⟨identified,kept⟩ := placed_seal inner (sha256 text)
  refine ⟨_,_,hashed,read,(Seal.check_ok sha256).mpr ⟨_,rehashed,kept,identified⟩,fun name other different => ?_⟩
  rw [placed_get inner _ other different,get_perm inner.record perm,untupledFields_get]

end Digests

theorem hashed_digest (hex : hexDigest digest.toList = true) : hashed head (head ++ digest) = true := by
  simp [hashed,hex]

end VeritasOs.PacketModel
