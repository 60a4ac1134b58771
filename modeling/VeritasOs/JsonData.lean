import Mathlib.Algebra.Order.Field.Rat
import Mathlib.Tactic.FieldSimp
import Mathlib.Tactic.Positivity
import VeritasOs.JsonReread

namespace VeritasOs
open JsonText

-- What a JSON document without NaN and infinities is read as: each dictionary holds each of its names once.
mutual
def isJson : Value → Bool
  | .none | .bool _ | .int _ | .str _ => true
  | .float (.finite _) => true
  | .float _ => false
  | .list items => isJsonItems items
  | .dict members => members.all (·.1.isStr) && decide ((members.map Prod.fst).Nodup) && isJsonMembers members
  | .tuple _ | .object _ _ => false
def isJsonItems : List Value → Bool
  | [] => true
  | item :: rest => isJson item && isJsonItems rest
def isJsonMembers : List (Key × Value) → Bool
  | [] => true
  | (_,value) :: rest => isJson value && isJsonMembers rest
end

theorem isJsonItems_iff (items : List Value) : isJsonItems items = true ↔ ∀ item ∈ items, isJson item = true := by
  induction items with
  | nil => simp [isJsonItems]
  | cons head rest ih => simp [isJsonItems,ih]

theorem isJsonMembers_iff (members : Dict) : isJsonMembers members = true ↔ ∀ member ∈ members, isJson member.2 = true := by
  induction members with
  | nil => simp [isJsonMembers]
  | cons head rest ih => simp [isJsonMembers,ih]

theorem isJson_list (items : List Value) : isJson (.list items) = true ↔ ∀ item ∈ items, isJson item = true := by
  rw [isJson,isJsonItems_iff]

@[simp] theorem isJson_none : isJson .none = true := rfl
@[simp] theorem isJson_bool (b : Bool) : isJson (.bool b) = true := rfl
@[simp] theorem isJson_int (n : Int) : isJson (.int n) = true := rfl

@[simp] theorem isJson_str (s : String) : isJson (.str s) = true := rfl

@[simp] theorem isJson_strs (items : List String) : isJson (.list (items.map Value.str)) = true := by
  refine (isJson_list _).mpr fun item listed => ?_
  obtain ⟨s,_,rfl⟩ := List.mem_map.mp listed
  rfl

theorem isJson_dict (members : Dict) : isJson (.dict members) = true ↔ Record members ∧ ∀ member ∈ members, isJson member.2 = true := by
  have named : members.all (·.1.isStr) = true ↔ StrKeys members := by
    rw [List.all_eq_true]
    constructor
    · intro each member listed
      have str := each member listed
      cases key : member.1 with
      | str name => exact ⟨name,rfl⟩
      | _ => simp [key,Key.isStr] at str
    · intro each member listed
      obtain ⟨name,same⟩ := each member listed
      rw [same]
      rfl
  rw [isJson,Bool.and_eq_true,Bool.and_eq_true,named,isJsonMembers_iff,decide_eq_true_eq]
  constructor
  · rintro ⟨⟨strings,distinct⟩,inside⟩
    exact ⟨⟨strings,distinct⟩,inside⟩
  · rintro ⟨record,inside⟩
    exact ⟨⟨record.named,record.distinct⟩,inside⟩

variable {members : Dict} {items : List Value} {a b : Dict}

theorem isJson_lookup (json : isJson (.dict members) = true) (found : lookup key members = some value) : isJson value = true :=
  ((isJson_dict members).mp json).2 _ (lookup_mem found)

theorem isJson_get (json : isJson (.dict members) = true) (name : String) : isJson (members.get name) = true := by
  unfold Dict.get
  cases found : lookup (.str name) members with
  | none => rfl
  | some value => exact isJson_lookup json found

theorem isJson_recordable (value : Value) : isJson value = true → Recordable value := by
  intro json
  induction value using Value.induction with
  | leaf value notList notTuple notDict => cases value <;> simp_all [Recordable,toJson,isJson]
  | list items inside =>
    have each := (isJson_list items).mp json
    exact recordable_list.mpr fun item listed => inside item listed (each item listed)
  | tuple items inside => simp [isJson] at json
  | dict members inside =>
    obtain ⟨record,each⟩ := (isJson_dict members).mp json
    exact (recordable_dict record.named).mpr fun member listed => inside member listed (each member listed)

-- The copy that the packet modules take of an object: tuples become lists, and what JSON has no name for is refused.
mutual
def jsonValue : Value → Option Value
  | .none => some .none
  | .bool b => some (.bool b)
  | .int n => some (.int n)
  | .str s => some (.str s)
  | .float (.finite literal) => some (.float (.finite literal))
  | .float _ => none
  | .list items => (jsonItems items).map .list
  | .tuple items => (jsonItems items).map .list
  | .dict members => (jsonMembers members).map fun copied => .dict (Dict.update [] copied)
  | .object _ _ => none
def jsonItems : List Value → Option (List Value)
  | [] => some []
  | item :: rest => (jsonValue item).bind fun first => (jsonItems rest).map (first :: ·)
def jsonMembers : List (Key × Value) → Option (List (Key × Value))
  | [] => some []
  | (.str name,value) :: rest => (jsonValue value).bind fun first => (jsonMembers rest).map ((.str name,first) :: ·)
  | _ :: _ => none
end

theorem jsonItems_self (each : ∀ item ∈ items, jsonValue item = some item) : jsonItems items = some items := by
  induction items with
  | nil => rfl
  | cons head rest ih =>
    rw [List.forall_mem_cons] at each
    simp [jsonItems,each.1,ih each.2]

theorem jsonMembers_self (named : StrKeys members) (each : ∀ member ∈ members, jsonValue member.2 = some member.2) :
    jsonMembers members = some members := by
  induction members with
  | nil => rfl
  | cons head rest ih =>
    obtain ⟨key,value⟩ := head
    rw [List.forall_mem_cons] at each
    obtain ⟨name,rfl⟩ := named _ List.mem_cons_self
    have later := ih (fun member listed => named member (List.mem_cons_of_mem _ listed)) each.2
    simp [jsonMembers,each.1,later]

theorem jsonValue_self (value : Value) : isJson value = true → jsonValue value = some value := by
  intro json
  induction value using Value.induction with
  | leaf value notList notTuple notDict =>
    cases value with
    | float x => cases x <;> simp_all [isJson,jsonValue]
    | _ => simp_all [isJson,jsonValue]
  | list items inside =>
    have each := (isJson_list items).mp json
    rw [jsonValue,jsonItems_self fun item listed => inside item listed (each item listed)]
    rfl
  | tuple items inside => simp [isJson] at json
  | dict members inside =>
    obtain ⟨record,each⟩ := (isJson_dict members).mp json
    have fresh : Dict.update [] members = members := by simpa using update_fresh [] members (by simpa using record.distinct)
    rw [jsonValue,jsonMembers_self record.named fun member listed => inside member listed (each member listed),Option.map_some,fresh]

theorem jsonItems_json (inside : ∀ item ∈ items, ∀ copy, jsonValue item = some copy → isJson copy = true)
    (made : jsonItems items = some copied) : ∀ item ∈ copied, isJson item = true := by
  induction items generalizing copied with
  | nil =>
    cases made
    simp
  | cons head rest ih =>
    rw [List.forall_mem_cons] at inside
    simp only [jsonItems,Option.bind_eq_some_iff,Option.map_eq_some_iff] at made
    obtain ⟨first,copiedHead,later,copiedRest,rfl⟩ := made
    exact List.forall_mem_cons.mpr ⟨inside.1 first copiedHead,ih inside.2 copiedRest⟩

theorem jsonMembers_json (inside : ∀ member ∈ members, ∀ copy, jsonValue member.2 = some copy → isJson copy = true)
    (made : jsonMembers members = some copied) : StrKeys copied ∧ ∀ member ∈ copied, isJson member.2 = true := by
  induction members generalizing copied with
  | nil =>
    cases made
    simp [StrKeys]
  | cons head rest ih =>
    obtain ⟨key,value⟩ := head
    rw [List.forall_mem_cons] at inside
    cases key with
    | str name =>
      simp only [jsonMembers,Option.bind_eq_some_iff,Option.map_eq_some_iff] at made
      obtain ⟨first,copiedHead,later,copiedRest,rfl⟩ := made
      obtain ⟨named,each⟩ := ih inside.2 copiedRest
      exact ⟨List.forall_mem_cons.mpr ⟨⟨name,rfl⟩,named⟩,List.forall_mem_cons.mpr ⟨inside.1 first copiedHead,each⟩⟩
    | _ => simp [jsonMembers] at made

theorem jsonValue_json (value : Value) : ∀ {copy : Value}, jsonValue value = some copy → isJson copy = true := by
  induction value using Value.induction with
  | leaf value notList notTuple notDict =>
    intro copy made
    cases value with
    | float x =>
      cases x with
      | finite literal =>
        simp only [jsonValue,Option.some.injEq] at made
        subst copy
        rfl
      | _ => simp [jsonValue] at made
    | list items => exact absurd rfl (notList items)
    | tuple items => exact absurd rfl (notTuple items)
    | dict members => exact absurd rfl (notDict members)
    | object text truth => simp [jsonValue] at made
    | _ =>
      simp only [jsonValue,Option.some.injEq] at made
      subst copy
      rfl
  | list items inside =>
    intro copy made
    simp only [jsonValue,Option.map_eq_some_iff] at made
    obtain ⟨copied,found,rfl⟩ := made
    exact (isJson_list copied).mpr (jsonItems_json (fun item listed copy => inside item listed) found)
  | tuple items inside =>
    intro copy made
    simp only [jsonValue,Option.map_eq_some_iff] at made
    obtain ⟨copied,found,rfl⟩ := made
    exact (isJson_list copied).mpr (jsonItems_json (fun item listed copy => inside item listed) found)
  | dict members inside =>
    intro copy made
    simp only [jsonValue,Option.map_eq_some_iff] at made
    obtain ⟨copied,found,rfl⟩ := made
    obtain ⟨named,each⟩ := jsonMembers_json (fun member listed copy => inside member listed) found
    exact (isJson_dict _).mpr ⟨update_record copied named,update_forall (fun member => isJson member.2 = true) (by simp) each⟩

def Number.value : Number → Bool ⊕ ℚ
  | .finite mantissa exponent => .inr (mantissa * (10 : ℚ) ^ exponent)
  | .infinity negative => .inl negative

theorem scaled_value (mantissa exponent least : Int) (below : least ≤ exponent) :
    (mantissa : ℚ) * (10 : ℚ) ^ exponent = ((mantissa * 10 ^ (exponent - least).toNat : Int) : ℚ) * (10 : ℚ) ^ least := by
  have split : exponent = ((exponent - least).toNat : Int) + least := by omega
  have power : (10 : ℚ) ^ exponent = (10 : ℚ) ^ (exponent - least).toNat * (10 : ℚ) ^ least := by
    conv_lhs => rw [split]
    rw [zpow_add₀ (by norm_num),zpow_natCast]
  rw [power]
  push_cast
  rw [mul_assoc]

theorem Number.le_finite {m n : Number} {p q : ℚ} (left : m.value = .inr p) (right : n.value = .inr q) : m.le n = true ↔ p ≤ q := by
  cases m with
  | infinity negative => cases left
  | finite mantissa exponent =>
    cases n with
    | infinity negative => cases right
    | finite other power =>
      have first := scaled_value mantissa exponent (min exponent power) (Int.min_le_left _ _)
      have second := scaled_value other power (min exponent power) (Int.min_le_right _ _)
      have positive : (0 : ℚ) < (10 : ℚ) ^ (min exponent power) := zpow_pos (by norm_num) _
      obtain rfl := Sum.inr.inj left
      obtain rfl := Sum.inr.inj right
      rw [first,second,mul_le_mul_iff_left₀ positive,Number.le,decide_eq_true_eq]
      norm_cast

theorem Number.same_iff (m n : Number) : m.le n = true ∧ n.le m = true ↔ m.value = n.value := by
  cases m with
  | infinity negative =>
    cases n with
    | infinity other => cases negative <;> cases other <;> simp [Number.le,Number.value]
    | finite mantissa exponent => cases negative <;> simp [Number.le,Number.value]
  | finite mantissa exponent =>
    cases n with
    | infinity other => cases other <;> simp [Number.le,Number.value]
    | finite other power => rw [Number.le_finite rfl rfl,Number.le_finite rfl rfl,← le_antisymm_iff,Number.value,Number.value,Sum.inr.injEq]

theorem pyEqItems_iff (a b : List Value) : pyEqItems a b = true ↔ List.Forall₂ (fun x y => pyEq x y = true) a b := by
  induction a generalizing b with
  | nil => cases b <;> simp [pyEqItems]
  | cons head rest ih =>
    cases b with
    | nil => simp [pyEqItems]
    | cons other others => simp [pyEqItems,ih]

theorem pyEqMembers_iff (a b : Dict) :
    pyEqMembers a b = true ↔ ∀ member ∈ a, ∃ found, lookup member.1 b = some found ∧ pyEq member.2 found = true := by
  induction a with
  | nil => simp [pyEqMembers]
  | cons head rest ih =>
    obtain ⟨key,value⟩ := head
    rw [pyEqMembers,Bool.and_eq_true,ih,List.forall_mem_cons]
    cases lookup key b <;> simp

theorem pyEq_number {a b : Value} {m : Number} (left : a.number = some m) :
    pyEq a b = true ↔ ∃ n, b.number = some n ∧ m.value = n.value := by
  cases a with
  | bool p =>
    obtain rfl := Option.some.inj left
    cases b with
    | float x => cases number : floatNumber x <;> simp [pyEq,Value.number,number,Number.same_iff]
    | _ => simp [pyEq,Value.number,Number.same_iff]
  | int p =>
    obtain rfl := Option.some.inj left
    cases b with
    | float x => cases number : floatNumber x <;> simp [pyEq,Value.number,number,Number.same_iff]
    | _ => simp [pyEq,Value.number,Number.same_iff]
  | float y =>
    have known : floatNumber y = some m := left
    cases b with
    | float x => cases number : floatNumber x <;> simp [pyEq,Value.number,number,known,Number.same_iff]
    | _ => simp [pyEq,Value.number,known,Number.same_iff]
  | _ => simp [Value.number] at left

theorem pyEq_list (items : List Value) (b : Value) :
    pyEq (.list items) b = true ↔ ∃ others, b = .list others ∧ List.Forall₂ (fun x y => pyEq x y = true) items others := by
  cases b <;> simp [pyEq,Value.number,pyEqItems_iff]

theorem pyEq_listed {a : Value} (same : pyEq a (.list items) = true) : ∃ others, a = .list others := by
  cases a with
  | list others => exact ⟨others,rfl⟩
  | _ => simp [pyEq,Value.number] at same

theorem pyEq_tuple (items : List Value) (b : Value) :
    pyEq (.tuple items) b = true ↔ ∃ others, b = .tuple others ∧ List.Forall₂ (fun x y => pyEq x y = true) items others := by
  cases b <;> simp [pyEq,Value.number,pyEqItems_iff]

theorem pyEq_dict (members : Dict) (b : Value) :
    pyEq (.dict members) b = true ↔ ∃ others : Dict, b = .dict others ∧ members.length = others.length ∧
      ∀ member ∈ members, ∃ found, lookup member.1 others = some found ∧ pyEq member.2 found = true := by
  cases b <;> simp [pyEq,Value.number,pyEqMembers_iff]

theorem pyEq_get (same : pyEq (.dict a) (.dict b) = true) (held : (lookup (.str name) a).isSome = true) :
    pyEq (a.get name) (b.get name) = true := by
  obtain ⟨others,equal,_,each⟩ := (pyEq_dict _ _).mp same
  obtain rfl := Value.dict.inj equal
  obtain ⟨value,found⟩ := Option.isSome_iff_exists.mp held
  obtain ⟨other,there,alike⟩ := each _ (lookup_mem found)
  simp only [Dict.get,found,there,Option.getD_some]
  exact alike

theorem pyEq_keys (distinct : (a.map Prod.fst).Nodup) (same : pyEq (.dict a) (.dict b) = true) :
    (a.map Prod.fst).Perm (b.map Prod.fst) := by
  obtain ⟨others,equal,length,each⟩ := (pyEq_dict _ _).mp same
  obtain rfl := Value.dict.inj equal
  have among : a.map Prod.fst ⊆ b.map Prod.fst := by
    intro key listed
    obtain ⟨member,there,rfl⟩ := List.mem_map.mp listed
    obtain ⟨found,present,_⟩ := each member there
    exact List.mem_map.mpr ⟨_,lookup_mem present,rfl⟩
  refine (List.subperm_of_subset distinct among).perm_of_length_le ?_
  rw [List.length_map,List.length_map,length]

theorem pyEq_refl (value : Value) : isJson value = true → pyEq value value = true := by
  intro json
  induction value using Value.induction with
  | leaf value notList notTuple notDict =>
    cases value with
    | float x =>
      cases x with
      | finite literal => exact (pyEq_number rfl).mpr ⟨_,rfl,rfl⟩
      | _ => simp [isJson] at json
    | bool b => exact (pyEq_number rfl).mpr ⟨_,rfl,rfl⟩
    | int n => exact (pyEq_number rfl).mpr ⟨_,rfl,rfl⟩
    | list items => exact absurd rfl (notList items)
    | tuple items => exact absurd rfl (notTuple items)
    | dict members => exact absurd rfl (notDict members)
    | object text truth => simp [isJson] at json
    | _ => simp [pyEq]
  | list items inside =>
    have each := (isJson_list items).mp json
    exact (pyEq_list _ _).mpr ⟨items,rfl,List.forall₂_same.mpr fun item listed => inside item listed (each item listed)⟩
  | tuple items inside => simp [isJson] at json
  | dict members inside =>
    obtain ⟨record,each⟩ := (isJson_dict members).mp json
    refine (pyEq_dict _ _).mpr ⟨members,rfl,rfl,?_⟩
    intro member listed
    exact ⟨member.2,lookup_of_mem record.distinct listed,inside member listed (each member listed)⟩

theorem pyEq_leaf (notList : ∀ items, value ≠ .list items) (notTuple : ∀ items, value ≠ .tuple items)
    (notDict : ∀ members, value ≠ .dict members) (unread : value.number = none) (same : pyEq value other = true) : other = value := by
  cases value with
  | list items => exact absurd rfl (notList items)
  | tuple items => exact absurd rfl (notTuple items)
  | dict members => exact absurd rfl (notDict members)
  | float x =>
    have nothing : floatNumber x = Option.none := unread
    cases other <;> simp_all [pyEq,Value.number]
  | bool b => cases unread
  | int n => cases unread
  | _ => cases other <;> simp_all [pyEq,Value.number]

theorem pyEq_trans (a : Value) : ∀ {b c : Value}, pyEq a b = true → pyEq b c = true → pyEq a c = true := by
  induction a using Value.induction with
  | leaf value notList notTuple notDict =>
    intro b c first second
    cases number : value.number with
    | some m =>
      obtain ⟨n,known,same⟩ := (pyEq_number number).mp first
      obtain ⟨k,found,equal⟩ := (pyEq_number known).mp second
      exact (pyEq_number number).mpr ⟨k,found,same.trans equal⟩
    | none =>
      have self : b = value := pyEq_leaf notList notTuple notDict number first
      rw [← self]
      exact second
  | list items inside =>
    intro b c first second
    obtain ⟨others,rfl,same⟩ := (pyEq_list _ _).mp first
    obtain ⟨last,rfl,equal⟩ := (pyEq_list _ _).mp second
    refine (pyEq_list _ _).mpr ⟨last,rfl,?_⟩
    clear first second
    induction same generalizing last with
    | nil => exact equal
    | cons head rest ih =>
      cases equal with
      | cons next more =>
        exact .cons (inside _ List.mem_cons_self head next) (ih (fun item listed => inside item (List.mem_cons_of_mem _ listed)) _ more)
  | tuple items inside =>
    intro b c first second
    obtain ⟨others,rfl,same⟩ := (pyEq_tuple _ _).mp first
    obtain ⟨last,rfl,equal⟩ := (pyEq_tuple _ _).mp second
    refine (pyEq_tuple _ _).mpr ⟨last,rfl,?_⟩
    clear first second
    induction same generalizing last with
    | nil => exact equal
    | cons head rest ih =>
      cases equal with
      | cons next more =>
        exact .cons (inside _ List.mem_cons_self head next) (ih (fun item listed => inside item (List.mem_cons_of_mem _ listed)) _ more)
  | dict members inside =>
    intro b c first second
    obtain ⟨others,rfl,length,same⟩ := (pyEq_dict _ _).mp first
    obtain ⟨last,rfl,size,equal⟩ := (pyEq_dict _ _).mp second
    refine (pyEq_dict _ _).mpr ⟨last,rfl,length.trans size,?_⟩
    intro member listed
    obtain ⟨found,held,one⟩ := same member listed
    obtain ⟨final,kept,two⟩ := equal (member.1,found) (lookup_mem held)
    exact ⟨final,kept,inside member listed one two⟩

-- A dictionary has each of its keys once.
mutual
def singleKeys : Value → Bool
  | .list items | .tuple items => singleKeysItems items
  | .dict members => decide (members.map Prod.fst).Nodup && singleKeysMembers members
  | _ => true
def singleKeysItems : List Value → Bool
  | [] => true
  | item :: rest => singleKeys item && singleKeysItems rest
def singleKeysMembers : List (Key × Value) → Bool
  | [] => true
  | (_,value) :: rest => singleKeys value && singleKeysMembers rest
end

theorem singleKeysItems_iff (items : List Value) : singleKeysItems items = true ↔ ∀ item ∈ items, singleKeys item = true := by
  induction items with
  | nil => simp [singleKeysItems]
  | cons head rest ih => simp [singleKeysItems,ih]

theorem singleKeysMembers_iff (members : Dict) : singleKeysMembers members = true ↔ ∀ member ∈ members, singleKeys member.2 = true := by
  induction members with
  | nil => simp [singleKeysMembers]
  | cons head rest ih => simp [singleKeysMembers,ih]

theorem singleKeys_dict (members : Dict) :
    singleKeys (.dict members) = true ↔ (members.map Prod.fst).Nodup ∧ ∀ member ∈ members, singleKeys member.2 = true := by
  rw [singleKeys,Bool.and_eq_true,decide_eq_true_eq,singleKeysMembers_iff]

theorem singleKeys_getD (single : singleKeys (.dict members) = true) (name : String) {default : Value} (plain : singleKeys default = true) :
    singleKeys (members.getD name default) = true := by
  unfold Dict.getD
  cases found : lookup (.str name) members with
  | none => exact plain
  | some value => exact ((singleKeys_dict _).mp single).2 _ (lookup_mem found)

theorem forall₂_symm (back : ∀ item ∈ items, ∀ other, alike item other → alike other item) (same : List.Forall₂ alike items others) :
    List.Forall₂ alike others items := by
  induction same with
  | nil => exact .nil
  | cons head rest ih =>
    exact .cons (back _ List.mem_cons_self _ head) (ih fun item listed => back item (List.mem_cons_of_mem _ listed))

theorem pyEq_symm (value : Value) : singleKeys value = true → ∀ other, pyEq value other = true → pyEq other value = true := by
  induction value using Value.induction with
  | leaf value notList notTuple notDict =>
    intro _ other same
    cases number : value.number with
    | some m =>
      obtain ⟨n,known,equal⟩ := (pyEq_number number).mp same
      exact (pyEq_number known).mpr ⟨m,number,equal.symm⟩
    | none =>
      obtain rfl := pyEq_leaf notList notTuple notDict number same
      exact same
  | list items inside =>
    intro single other same
    obtain ⟨others,rfl,alike⟩ := (pyEq_list _ _).mp same
    have each := (singleKeysItems_iff _).mp single
    exact (pyEq_list _ _).mpr ⟨items,rfl,forall₂_symm (fun item listed => inside item listed (each item listed)) alike⟩
  | tuple items inside =>
    intro single other same
    obtain ⟨others,rfl,alike⟩ := (pyEq_tuple _ _).mp same
    have each := (singleKeysItems_iff _).mp single
    exact (pyEq_tuple _ _).mpr ⟨items,rfl,forall₂_symm (fun item listed => inside item listed (each item listed)) alike⟩
  | dict members inside =>
    intro single other same
    obtain ⟨others,rfl,length,alike⟩ := (pyEq_dict _ _).mp same
    obtain ⟨distinct,each⟩ := (singleKeys_dict _).mp single
    have keys := pyEq_keys distinct same
    refine (pyEq_dict _ _).mpr ⟨members,rfl,length.symm,?_⟩
    intro member listed
    obtain ⟨mine,among,named⟩ := List.mem_map.mp (keys.mem_iff.mpr (List.mem_map_of_mem (f := Prod.fst) listed))
    obtain ⟨found,held,equal⟩ := alike mine among
    have own : lookup member.1 others = some member.2 := lookup_of_mem (keys.nodup_iff.mp distinct) listed
    rw [named,own] at held
    cases held
    exact ⟨mine.2,by rw [← named]; exact lookup_of_mem distinct among,inside mine among (each mine among) _ equal⟩

def SameJson (a b : Value) : Prop := toJson true a = toJson true b

theorem sameJson_lookup (left : isJson (.dict a) = true) (right : isJson (.dict b) = true) (same : SameJson (.dict a) (.dict b))
    (held : lookup (.str name) a = some value) : ∃ other, lookup (.str name) b = some other ∧ SameJson value other := by
  obtain ⟨json,made⟩ := Option.isSome_iff_exists.mp (isJson_recordable _ left)
  obtain ⟨members,rfl⟩ := toJson_dict_obj made
  obtain ⟨part,written⟩ := Option.isSome_iff_exists.mp (isJson_recordable _ (isJson_lookup left held))
  have listed := (toJson_dict_mem made name part).mpr ⟨.str name,value,rfl,lookup_mem held,written⟩
  obtain ⟨key,other,spelled,there,remade⟩ := (toJson_dict_mem (same.symm.trans made) name part).mp listed
  have record := ((isJson_dict b).mp right).1
  obtain ⟨text,rfl⟩ := record.named _ there
  obtain rfl : text = name := by simpa [keyText] using spelled
  exact ⟨other,lookup_of_mem record.distinct there,written.trans remade.symm⟩

-- Equal digests of two values come from equal texts.
def Distinguishes (sha256 : String → String) (a b : Value) : Prop :=
  ∀ s t, canonicalJsonDumps a = some s → canonicalJsonDumps b = some t → sha256 s = sha256 t → s = t

theorem distinguished {sha256 : String → String} {a b : Value} (apart : Distinguishes sha256 a b) {s t : String}
    (first : canonicalJsonDumps a = some s) (second : canonicalJsonDumps b = some t) (equal : sha256 s = sha256 t) : SameJson a b := by
  obtain rfl := apart s t first second equal
  exact canonical_exact first second

theorem injective_distinguishes (injective : Function.Injective sha256) (a b : Value) : Distinguishes sha256 a b :=
  fun _ _ _ _ equal => injective equal

theorem sameJson_get (left : isJson (.dict a) = true) (right : isJson (.dict b) = true) (same : SameJson (.dict a) (.dict b))
    (name : String) : SameJson (a.get name) (b.get name) := by
  unfold Dict.get
  cases held : lookup (.str name) a with
  | some value =>
    obtain ⟨other,found,equal⟩ := sameJson_lookup left right same held
    rw [found]
    exact equal
  | none =>
    cases found : lookup (.str name) b with
    | none => rfl
    | some other =>
      obtain ⟨value,present,_⟩ := sameJson_lookup right left (Eq.symm same) found
      rw [held] at present
      cases present

theorem sameJson_text {a : Value} {s : String} (same : SameJson (.str s) a) : a = .str s :=
  toJson_str_exact.mp (same.symm.trans rfl)

theorem membersJson_congr (same : List.Forall₂ (fun x y => x.1 = y.1 ∧ SameJson x.2 y.2) a b) :
    membersJson true a = membersJson true b := by
  induction same with
  | nil => rfl
  | @cons x y xs ys head rest ih =>
    obtain ⟨key,value⟩ := x
    obtain ⟨name,other⟩ := y
    obtain ⟨rfl,equal⟩ := head
    rw [membersJson,membersJson,show toJson true value = toJson true other from equal,ih]

theorem sameJson_members (same : List.Forall₂ (fun x y => x.1 = y.1 ∧ SameJson x.2 y.2) a b) : SameJson (.dict a) (.dict b) := by
  unfold SameJson
  rw [toJson,toJson,membersJson_congr same]

theorem sameJson_perm (record : Record a) (perm : a.Perm b) : SameJson (.dict a) (.dict b) := by
  have same := canonical_perm record perm
  unfold canonicalJsonDumps at same
  unfold SameJson
  cases first : toJson true (.dict a) with
  | none =>
    rw [first] at same
    exact (Option.map_eq_none_iff.mp same.symm).symm
  | some json =>
    rw [first] at same
    obtain ⟨json',second,equal⟩ := Option.map_eq_some_iff.mp same.symm
    rw [second]
    exact congrArg some (dumps_injective _ equal).symm

theorem sameJson_dict {b : Value} (same : SameJson (.dict a) b) (written : Recordable (.dict a)) : ∃ members, b = .dict members := by
  obtain ⟨json,made⟩ := Option.isSome_iff_exists.mp written
  obtain ⟨members,rfl⟩ := toJson_dict_obj made
  have other := same.symm.trans made
  cases b with
  | dict members => exact ⟨members,rfl⟩
  | _ => simp [toJson] at other

theorem sameJson_items (same : SameJson (.list items) (.list others)) (written : Recordable (.list items)) :
    List.Forall₂ SameJson items others := by
  have made : itemsJson true items = itemsJson true others := by
    unfold SameJson at same
    rw [toJson,toJson] at same
    exact Option.map_injective (fun _ _ equal => Json.arr.inj equal) same
  clear same
  induction items generalizing others with
  | nil =>
    cases others with
    | nil => exact .nil
    | cons head rest => cases first : toJson true head <;> cases later : itemsJson true rest <;> simp [itemsJson,first,later] at made
  | cons item rest ih =>
    obtain ⟨own,inside⟩ := List.forall_mem_cons.mp (recordable_list.mp written)
    obtain ⟨json,one⟩ := Option.isSome_iff_exists.mp own
    obtain ⟨more,all⟩ := Option.isSome_iff_exists.mp (recordable_list.mpr inside)
    rw [toJson,Option.map_eq_some_iff] at all
    obtain ⟨parts,tail,_⟩ := all
    cases others with
    | nil => simp [itemsJson,one,tail] at made
    | cons head others =>
      cases first : toJson true head with
      | none => simp [itemsJson,one,tail,first] at made
      | some other =>
        cases later : itemsJson true others with
        | none => simp [itemsJson,one,tail,first,later] at made
        | some found =>
          simp only [itemsJson,one,tail,first,later,Option.bind_some,Option.map_some,Option.some.injEq,List.cons.injEq] at made
          exact .cons (one.trans (made.1 ▸ first.symm)) (ih (recordable_list.mpr inside) (tail.trans (made.2 ▸ later.symm)))

-- Values with one document are equal.
theorem sameJson_equal (a : Value) : ∀ {b : Value}, isJson a = true → isJson b = true → SameJson a b → pyEq a b = true := by
  induction a using Value.induction with
  | leaf value notList notTuple notDict =>
    intro b left right same
    have equal : b = value := by
      unfold SameJson at same
      cases b with
      | list items => cases made : itemsJson true items <;> cases value <;> simp_all [toJson,isJson]
      | tuple items => simp [isJson] at right
      | object text truth => simp [isJson] at right
      | dict members =>
        obtain ⟨json,made⟩ := Option.isSome_iff_exists.mp (isJson_recordable _ right)
        obtain ⟨named,rfl⟩ := toJson_dict_obj made
        rw [made] at same
        cases value <;> simp_all [toJson]
      | _ => cases value <;> simp_all [toJson]
    rw [equal]
    exact pyEq_refl value left
  | list items inside =>
    intro b left right same
    cases b with
    | list others =>
      have each := sameJson_items same (isJson_recordable _ left)
      rw [isJson_list] at left right
      refine (pyEq_list _ _).mpr ⟨others,rfl,?_⟩
      clear same
      induction each with
      | nil => exact .nil
      | @cons x y xs ys head rest ih =>
        rw [List.forall_mem_cons] at left right
        exact .cons (inside x List.mem_cons_self left.1 right.1 head)
          (ih (fun item listed => inside item (List.mem_cons_of_mem _ listed)) left.2 right.2)
    | tuple others => simp [isJson] at right
    | object text truth => simp [isJson] at right
    | dict members =>
      obtain ⟨json,made⟩ := Option.isSome_iff_exists.mp (isJson_recordable _ right)
      obtain ⟨named,rfl⟩ := toJson_dict_obj made
      unfold SameJson at same
      rw [made] at same
      cases written : itemsJson true items <;> simp [toJson,written] at same
    | _ => cases written : itemsJson true items <;> simp [SameJson,toJson,written] at same
  | tuple items inside =>
    intro b left
    simp [isJson] at left
  | dict members inside =>
    intro b left right same
    obtain ⟨others,rfl⟩ := sameJson_dict same (isJson_recordable _ left)
    obtain ⟨record,each⟩ := (isJson_dict members).mp left
    obtain ⟨other,all⟩ := (isJson_dict others).mp right
    have found : ∀ member ∈ members, ∃ value, lookup member.1 others = some value ∧ SameJson member.2 value := by
      intro member listed
      obtain ⟨name,key⟩ := record.named member listed
      have held := lookup_of_mem record.distinct (show (member.1,member.2) ∈ members from listed)
      rw [key] at held ⊢
      exact sameJson_lookup left right same held
    have back : ∀ member ∈ others, member.1 ∈ members.map Prod.fst := by
      intro member listed
      obtain ⟨name,key⟩ := other.named member listed
      have held := lookup_of_mem other.distinct (show (member.1,member.2) ∈ others from listed)
      rw [key] at held ⊢
      obtain ⟨value,present,_⟩ := sameJson_lookup right left (Eq.symm same) held
      exact List.mem_map.mpr ⟨_,lookup_mem present,rfl⟩
    have perm : (members.map Prod.fst).Perm (others.map Prod.fst) := by
      refine (List.perm_ext_iff_of_nodup record.distinct other.distinct).mpr fun key => ⟨fun listed => ?_,fun listed => ?_⟩
      · obtain ⟨member,there,rfl⟩ := List.mem_map.mp listed
        obtain ⟨value,present,_⟩ := found member there
        exact List.mem_map.mpr ⟨_,lookup_mem present,rfl⟩
      · obtain ⟨member,there,rfl⟩ := List.mem_map.mp listed
        exact back member there
    refine (pyEq_dict _ _).mpr ⟨others,rfl,by simpa using perm.length_eq,fun member listed => ?_⟩
    obtain ⟨value,present,equal⟩ := found member listed
    exact ⟨value,present,inside member listed (each member listed) (isJson_lookup right present) equal⟩

theorem copied_items (each : ∀ item ∈ items, jsonCopy item = some item) : (itemsJson false items).map fromItems = some items := by
  induction items with
  | nil => rfl
  | cons head rest ih =>
    rw [List.forall_mem_cons] at each
    obtain ⟨first,made,same⟩ := Option.map_eq_some_iff.mp each.1
    obtain ⟨later,others,equal⟩ := Option.map_eq_some_iff.mp (ih each.2)
    simp [itemsJson,made,others,fromItems,same,equal]

theorem copied_members (named : StrKeys members) (each : ∀ member ∈ members, jsonCopy member.2 = some member.2) :
    ((membersJson false members).bind nameKeys).map fromMembers = some members := by
  induction members with
  | nil => rfl
  | cons head rest ih =>
    obtain ⟨key,value⟩ := head
    rw [List.forall_mem_cons] at each
    obtain ⟨name,rfl⟩ := named _ List.mem_cons_self
    obtain ⟨first,made,same⟩ := Option.map_eq_some_iff.mp each.1
    obtain ⟨spelled,others,equal⟩ := Option.map_eq_some_iff.mp (ih (fun member listed => named member (List.mem_cons_of_mem _ listed)) each.2)
    obtain ⟨later,kept,texts⟩ := Option.bind_eq_some_iff.mp others
    simp [membersJson,made,kept,nameKeys,keyText,texts,fromMembers,same,equal]

theorem copied_self (value : Value) : isJson value = true → jsonCopy value = some value := by
  intro json
  induction value using Value.induction with
  | leaf value notList notTuple notDict => cases value <;> simp_all [isJson,jsonCopy,toJson,fromJson]
  | list items inside =>
    have each := (isJson_list items).mp json
    obtain ⟨written,made,same⟩ := Option.map_eq_some_iff.mp (copied_items fun item listed => inside item listed (each item listed))
    simp [jsonCopy,toJson,made,fromJson,same]
  | tuple items inside => simp [isJson] at json
  | dict members inside =>
    obtain ⟨record,each⟩ := (isJson_dict members).mp json
    obtain ⟨named,made,same⟩ := Option.map_eq_some_iff.mp
      (copied_members record.named fun member listed => inside member listed (each member listed))
    have fresh : Dict.update [] members = members := by simpa using update_fresh [] members (by simpa using record.distinct)
    obtain ⟨later,kept,texts⟩ := Option.bind_eq_some_iff.mp made
    simp [jsonCopy,toJson,kept,texts,fromJson,same,fresh]

theorem reread_self (json : isJson value = true) (layout : Layout) :
    ∃ written, toJson false value = some written ∧ (loads (dumps layout written)).map fromJson = some value := by
  obtain ⟨written,made,same⟩ := Option.map_eq_some_iff.mp (copied_self value json)
  exact ⟨written,made,by rw [loads_dumps,Option.map_some,same]⟩

end VeritasOs
