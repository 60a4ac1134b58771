import VeritasOs.Value

namespace VeritasOs
open JsonText

-- json.dumps turns these keys into text and rejects every other one.
def keyText : Key → Option String
  | .str s => some s
  | .int n => some (intStr n)
  | .bool b => some (if b then "true" else "false")
  | .float x => some (String.ofList (atomText (.float x)))
  | .none => some "null"
  | .other _ => none

-- A number as an integer times a power of ten, or an infinity.
inductive Number where
  | finite (mantissa exponent : Int)
  | infinity (negative : Bool)
deriving DecidableEq

def digitsValue (chars : List Char) : Int := Nat.ofDigitChars 10 chars 0

def signedValue : List Char → Int
  | '-' :: rest => -digitsValue rest
  | '+' :: rest => digitsValue rest
  | rest => digitsValue rest

def literalNumber (literal : FloatLiteral) : Number :=
  let (mantissa,exponent) := literal.text.toList.span fun c => !(c == 'e' || c == 'E')
  let (whole,fraction) := mantissa.span fun c => !(c == '.')
  .finite (signedValue (whole ++ fraction.drop 1)) (signedValue (exponent.drop 1) - (fraction.drop 1).length)

-- Repr literals order as their floats do.
def Number.le : Number → Number → Bool
  | .infinity true,_ => true
  | _,.infinity false => true
  | .infinity false,_ => false
  | _,.infinity true => false
  | .finite m e,.finite n f => decide (m * 10 ^ (e - min e f).toNat ≤ n * 10 ^ (f - min e f).toNat)

def floatNumber : FloatValue → Option Number
  | .finite literal => some (literalNumber literal)
  | .infinity negative => some (.infinity negative)
  | .nan => none

def keyNumber : Key → Option Number
  | .int n => some (.finite n 0)
  | .bool b => some (.finite (if b then 1 else 0) 0)
  | .float x => floatNumber x
  | _ => none

def Key.isStr : Key → Bool
  | .str _ => true
  | _ => false

def charsLe : List Char → List Char → Bool
  | [],_ => true
  | _ :: _,[] => false
  | a :: as,b :: bs => if a = b then charsLe as bs else decide (a.toNat ≤ b.toNat)

def textLe (a b : String) : Bool := charsLe a.toList b.toList

def keyLe : Key → Key → Bool
  | .str a,.str b => textLe a b
  | a,b =>
    match keyNumber a,keyNumber b with
    | some m,some n => m.le n
    | _,_ => true

def Value.number : Value → Option Number
  | .int n => some (.finite n 0)
  | .bool b => some (.finite (if b then 1 else 0) 0)
  | .float x => floatNumber x
  | _ => Option.none

-- The == of Python: numbers compare by value across their types, a nan equals
-- nothing, and the order of a dictionary does not matter.
mutual
def pyEq : Value → Value → Bool
  | .none,.none => true
  | .str a,.str b => a == b
  | .list a,.list b => pyEqItems a b
  | .tuple a,.tuple b => pyEqItems a b
  | .dict a,.dict b => a.length == b.length && pyEqMembers a b
  | .object a x,.object b y => a == b && x == y
  | a,b =>
    match a.number,b.number with
    | some m,some n => m.le n && n.le m
    | _,_ => false
def pyEqItems : List Value → List Value → Bool
  | [],[] => true
  | a :: as,b :: bs => pyEq a b && pyEqItems as bs
  | _,_ => false
def pyEqMembers : List (Key × Value) → List (Key × Value) → Bool
  | [],_ => true
  | (key,value) :: rest,other => ((lookup key other).map fun found => pyEq value found).getD false && pyEqMembers rest other
end

theorem pyEq_str (value : Value) (s : String) : pyEq value (.str s) = true ↔ value = .str s := by
  cases value <;> simp [pyEq,Value.number]

-- sort_keys=True sorts by the keys themselves; keys that do not compare raise. A nan,
-- which compares with nothing, counts among these.
def sortMembers (members : List (Key × Json)) : Option (List (Key × Json)) :=
  if members.length ≤ 1 then some members
  else if members.all (·.1.isStr) || members.all fun member => (keyNumber member.1).isSome then
    some (members.insertionSort fun a b => keyLe a.1 b.1 = true)
  else none

def nameKeys : List (Key × Json) → Option (List (String × Json))
  | [] => some []
  | (key,value) :: rest => (keyText key).bind fun name => (nameKeys rest).map ((name,value) :: ·)

-- The document json.dumps writes; none is the TypeError it raises.
mutual
def toJson (sort : Bool) : Value → Option Json
  | .none => some (.atom .null)
  | .bool b => some (.atom (.bool b))
  | .int n => some (.atom (.int n))
  | .float x => some (.atom (.float x))
  | .str s => some (.str s)
  | .list items => (itemsJson sort items).map .arr
  | .tuple items => (itemsJson sort items).map .arr
  | .dict members => (membersJson sort members).bind fun named =>
    ((if sort then sortMembers named else some named).bind nameKeys).map .obj
  | .object _ _ => none
def itemsJson (sort : Bool) : List Value → Option (List Json)
  | [] => some []
  | item :: rest => (toJson sort item).bind fun first => (itemsJson sort rest).map (first :: ·)
def membersJson (sort : Bool) : List (Key × Value) → Option (List (Key × Json))
  | [] => some []
  | (key,value) :: rest => (toJson sort value).bind fun first => (membersJson sort rest).map ((key,first) :: ·)
end

-- The object json.loads builds; a repeated member name keeps its last value.
mutual
def fromJson : Json → Value
  | .atom .null => .none
  | .atom (.bool b) => .bool b
  | .atom (.int n) => .int n
  | .atom (.float x) => .float x
  | .str s => .str s
  | .arr items => .list (fromItems items)
  | .obj members => .dict (Dict.update [] (fromMembers members))
def fromItems : List Json → List Value
  | [] => []
  | item :: rest => fromJson item :: fromItems rest
def fromMembers : List (String × Json) → List (Key × Value)
  | [] => []
  | (key,value) :: rest => (.str key,fromJson value) :: fromMembers rest
end

-- json.dumps(payload, sort_keys=True, separators=(",", ":"), ensure_ascii=False)
def canonicalJsonDumps (payload : Value) : Option String := (toJson true payload).map (dumps compact)

-- json.loads(json.dumps(payload)): what survives being written and read back.
def jsonCopy (payload : Value) : Option Value := (toJson false payload).map fromJson

def StrKeys (dict : Dict) : Prop := ∀ member ∈ dict, ∃ name, member.1 = .str name

structure Record (dict : Dict) : Prop where
  named : StrKeys dict
  distinct : (dict.map Prod.fst).Nodup

theorem canonical_exact (first : canonicalJsonDumps left = some text)
    (second : canonicalJsonDumps right = some text) : toJson true left = toJson true right := by
  obtain ⟨a,hl,ha⟩ := Option.map_eq_some_iff.mp first
  obtain ⟨b,hr,hb⟩ := Option.map_eq_some_iff.mp second
  have same : a = b := dumps_injective compact (ha.trans hb.symm)
  rw [hl,hr,same]

variable {sort : Bool} {dict : Dict} {members : List (Key × Json)} {value : Value} {key : Key} {copy : Value}

theorem membersJson_mem (made : membersJson sort dict = some named) (key : Key) (json : Json) :
    (key,json) ∈ named ↔ ∃ value, (key,value) ∈ dict ∧ toJson sort value = some json := by
  induction dict generalizing named with
  | nil =>
    obtain rfl : [] = named := by simpa [membersJson] using made
    simp
  | cons head rest ih =>
    obtain ⟨k,value⟩ := head
    simp only [membersJson,Option.bind_eq_some_iff,Option.map_eq_some_iff] at made
    obtain ⟨first,hf,later,hl,rfl⟩ := made
    rw [List.mem_cons,ih hl,Prod.mk.injEq]
    constructor
    · rintro (⟨rfl,rfl⟩ | ⟨v,present,hv⟩)
      · exact ⟨value,by simp,hf⟩
      · exact ⟨v,List.mem_cons_of_mem _ present,hv⟩
    · rintro ⟨v,present,hv⟩
      rcases List.mem_cons.mp present with same | old
      · cases same
        exact .inl ⟨rfl,Option.some.inj (hv.symm.trans hf)⟩
      · exact .inr ⟨v,old,hv⟩

theorem nameKeys_mem (made : nameKeys members = some named) (name : String) (json : Json) :
    (name,json) ∈ named ↔ ∃ key, keyText key = some name ∧ (key,json) ∈ members := by
  induction members generalizing named with
  | nil =>
    obtain rfl : [] = named := by simpa [nameKeys] using made
    simp
  | cons head rest ih =>
    obtain ⟨k,value⟩ := head
    simp only [nameKeys,Option.bind_eq_some_iff,Option.map_eq_some_iff] at made
    obtain ⟨text,ht,later,hl,rfl⟩ := made
    rw [List.mem_cons,ih hl,Prod.mk.injEq]
    constructor
    · rintro (⟨rfl,rfl⟩ | ⟨key,hk,present⟩)
      · exact ⟨k,ht,by simp⟩
      · exact ⟨key,hk,List.mem_cons_of_mem _ present⟩
    · rintro ⟨key,hk,present⟩
      rcases List.mem_cons.mp present with same | old
      · cases same
        exact .inl ⟨Option.some.inj (hk.symm.trans ht),rfl⟩
      · exact .inr ⟨key,hk,old⟩

theorem sortMembers_perm (made : sortMembers members = some sorted) : sorted.Perm members := by
  unfold sortMembers at made
  split at made
  · cases made; exact .refl _
  · split at made
    · cases made; exact List.perm_insertionSort _ _
    · cases made

theorem toJson_dict_mem {members : List (String × Json)} (made : toJson sort (.dict dict) = some (.obj members)) (name : String)
    (json : Json) : (name,json) ∈ members ↔ ∃ key value, keyText key = some name ∧ (key,value) ∈ dict ∧ toJson sort value = some json := by
  simp only [toJson,Option.bind_eq_some_iff,Option.map_eq_some_iff,Json.obj.injEq] at made
  obtain ⟨unsorted,hu,named,⟨ordered,ho,hn⟩,rfl⟩ := made
  have perm : ordered.Perm unsorted := by
    cases sort with
    | false => simp only [Bool.false_eq_true,if_false,Option.some.injEq] at ho; exact ho ▸ .refl _
    | true => exact sortMembers_perm (by simpa using ho)
  rw [nameKeys_mem hn]
  constructor
  · rintro ⟨key,hk,present⟩
    obtain ⟨value,there,hv⟩ := (membersJson_mem hu key json).mp (perm.mem_iff.mp present)
    exact ⟨key,value,hk,there,hv⟩
  · rintro ⟨key,value,hk,there,hv⟩
    exact ⟨key,hk,perm.mem_iff.mpr ((membersJson_mem hu key json).mpr ⟨value,there,hv⟩)⟩

theorem toJson_dict_obj (made : toJson sort (.dict dict) = some json) : ∃ members, json = .obj members := by
  simp only [toJson,Option.bind_eq_some_iff,Option.map_eq_some_iff] at made
  obtain ⟨_,_,members,_,rfl⟩ := made
  exact ⟨members,rfl⟩

theorem toJson_str_exact : toJson sort value = some (.str s) ↔ value = .str s := by
  constructor
  · intro made
    cases value with
    | dict members =>
      obtain ⟨_,same⟩ := toJson_dict_obj made
      cases same
    | str t => simpa [toJson] using made
    | _ => simp [toJson] at made
  · rintro rfl
    rfl

theorem canonical_str_member (name value : String)
    (first : canonicalJsonDumps (.dict left) = some text) (second : canonicalJsonDumps (.dict right) = some text)
    (named : StrKeys right) (present : (Key.str name,Value.str value) ∈ left) : (Key.str name,Value.str value) ∈ right := by
  have same := canonical_exact first second
  obtain ⟨json,made,_⟩ := Option.map_eq_some_iff.mp first
  obtain ⟨members,rfl⟩ := toJson_dict_obj made
  have there : (name,Json.str value) ∈ members :=
    (toJson_dict_mem made name (.str value)).mpr ⟨.str name,.str value,rfl,present,rfl⟩
  obtain ⟨key,other,hk,member,hv⟩ := (toJson_dict_mem (same ▸ made) name (.str value)).mp there
  obtain ⟨field,rfl⟩ := named _ member
  obtain rfl : field = name := by simpa [keyText] using hk
  rw [toJson_str_exact.mp hv] at member
  exact member

theorem store_fresh (fresh : key ∉ dict.map Prod.fst) : store key value dict = dict ++ [(key,value)] := by
  induction dict with
  | nil => rfl
  | cons head rest ih =>
    obtain ⟨k,old⟩ := head
    simp only [List.map_cons,List.mem_cons,not_or] at fresh
    simp [store,Ne.symm fresh.1,ih fresh.2]

theorem store_forall (holds : Key × Value → Prop) (new : holds (key,value)) (old : ∀ member ∈ dict, holds member) :
    ∀ member ∈ store key value dict, holds member := by
  induction dict with
  | nil => simpa [store] using new
  | cons head rest ih =>
    obtain ⟨k,first⟩ := head
    rw [List.forall_mem_cons] at old
    by_cases same : k = key
    · subst k
      simp only [store,if_true]
      exact List.forall_mem_cons.mpr ⟨new,old.2⟩
    · simp only [store,if_neg same]
      exact List.forall_mem_cons.mpr ⟨old.1,ih old.2⟩

theorem update_forall (holds : Key × Value → Prop) (old : ∀ member ∈ dict, holds member)
    (new : ∀ member ∈ changes, holds member) : ∀ member ∈ Dict.update dict changes, holds member := by
  induction changes generalizing dict with
  | nil => exact old
  | cons head rest ih =>
    rw [List.forall_mem_cons] at new
    exact ih (store_forall holds new.1 old) new.2

theorem store_keys (key : Key) (value : Value) (dict : Dict) :
    (store key value dict).map Prod.fst = if key ∈ dict.map Prod.fst then dict.map Prod.fst else dict.map Prod.fst ++ [key] := by
  induction dict with
  | nil => simp [store]
  | cons head rest ih =>
    obtain ⟨k,old⟩ := head
    by_cases same : k = key
    · simp [store,same]
    · by_cases later : key ∈ rest.map Prod.fst <;> simp_all [store,Ne.symm same]

theorem Record.of_keys (record : Record dict) (keys : other.map Prod.fst = dict.map Prod.fst) : Record other := by
  refine ⟨fun member listed => ?_,keys ▸ record.distinct⟩
  have there : member.1 ∈ dict.map Prod.fst := keys ▸ List.mem_map_of_mem listed
  obtain ⟨original,present,same⟩ := List.mem_map.mp there
  rw [← same]
  exact record.named original present

theorem lookup_of_mem (distinct : (dict.map Prod.fst).Nodup) (listed : (key,value) ∈ dict) : lookup key dict = some value := by
  induction dict with
  | nil => cases listed
  | cons head rest ih =>
    obtain ⟨k,first⟩ := head
    rw [List.map_cons,List.nodup_cons] at distinct
    rcases List.mem_cons.mp listed with same | later
    · cases same
      simp [lookup]
    · have other : k ≠ key := by
        rintro rfl
        exact distinct.1 (List.mem_map.mpr ⟨_,later,rfl⟩)
      simp [lookup,other,ih distinct.2 later]

theorem Record.set (record : Record dict) (name : String) (value : Value) : Record (Dict.set dict name value) := by
  unfold Dict.set
  by_cases present : Key.str name ∈ dict.map Prod.fst
  · exact record.of_keys (by rw [store_keys,if_pos present])
  · rw [store_fresh present]
    refine ⟨?_,?_⟩
    · intro member listed
      rcases List.mem_append.mp listed with old | new
      · exact record.named member old
      · obtain rfl := List.mem_singleton.mp new
        exact ⟨name,rfl⟩
    · rw [List.map_append,List.nodup_append]
      refine ⟨record.distinct,by simp,?_⟩
      intro key old other new
      simp only [List.map_cons,List.map_nil,List.mem_singleton] at new
      rintro rfl
      exact present (new ▸ old)

theorem update_fresh (dict changes : Dict) (distinct : ((dict ++ changes).map Prod.fst).Nodup) :
    Dict.update dict changes = dict ++ changes := by
  induction changes generalizing dict with
  | nil => simp [Dict.update]
  | cons head rest ih =>
    obtain ⟨key,value⟩ := head
    have fresh : key ∉ dict.map Prod.fst := by
      intro present
      simp only [List.map_append,List.map_cons,List.nodup_append] at distinct
      exact distinct.2.2 key present key (by simp) rfl
    have step := ih (dict ++ [(key,value)]) (by simpa using distinct)
    simpa [Dict.update,store_fresh fresh] using step

theorem fromMembers_record (strings : StrKeys dict) (made : membersJson false dict = some members)
    (named_ : nameKeys members = some named) : (fromMembers named).map Prod.fst = dict.map Prod.fst ∧
      ∀ key, lookup key (fromMembers named) = (lookup key dict).bind jsonCopy := by
  induction dict generalizing members named with
  | nil =>
    obtain rfl : [] = members := by simpa [membersJson] using made
    obtain rfl : [] = named := by simpa [nameKeys] using named_
    simp [fromMembers,lookup]
  | cons head rest ih =>
    obtain ⟨k,value⟩ := head
    obtain ⟨name,rfl⟩ := strings _ List.mem_cons_self
    simp only [membersJson,Option.bind_eq_some_iff,Option.map_eq_some_iff] at made
    obtain ⟨first,hf,later,hl,rfl⟩ := made
    simp only [nameKeys,keyText,Option.bind_some,Option.map_eq_some_iff] at named_
    obtain ⟨tail,ht,rfl⟩ := named_
    obtain ⟨keys,values⟩ := ih (fun member present => strings member (List.mem_cons_of_mem _ present)) hl ht
    refine ⟨by simp [fromMembers,keys],?_⟩
    intro key
    by_cases same : Key.str name = key
    · simp [fromMembers,lookup,same,jsonCopy,hf]
    · simp [fromMembers,lookup,same,values key]

@[simp] theorem jsonCopy_str (s : String) : jsonCopy (.str s) = some (.str s) := rfl
@[simp] theorem jsonCopy_none : jsonCopy .none = some .none := rfl

def Recordable (value : Value) : Prop := (toJson true value).isSome = true

theorem membersJson_isSome (sort : Bool) (dict : Dict) :
    (membersJson sort dict).isSome = true ↔ ∀ member ∈ dict, (toJson sort member.2).isSome = true := by
  induction dict with
  | nil => simp [membersJson]
  | cons head rest ih =>
    obtain ⟨key,value⟩ := head
    cases made : toJson sort value <;> simp [membersJson,made,ih]

theorem itemsJson_isSome (sort : Bool) (items : List Value) :
    (itemsJson sort items).isSome = true ↔ ∀ item ∈ items, (toJson sort item).isSome = true := by
  induction items with
  | nil => simp [itemsJson]
  | cons head rest ih => cases made : toJson sort head <;> simp [itemsJson,made,ih]

theorem jsonCopy_fields (record : Record dict) (copied : jsonCopy (.dict dict) = some copy) :
    ∃ fields, copy = .dict fields ∧ ∀ key, lookup key fields = (lookup key dict).bind jsonCopy := by
  obtain ⟨json,made,rfl⟩ := Option.map_eq_some_iff.mp copied
  simp only [toJson,Bool.false_eq_true,if_false,Option.bind_some,Option.bind_eq_some_iff,Option.map_eq_some_iff] at made
  obtain ⟨members,hm,named,hn,rfl⟩ := made
  obtain ⟨keys,values⟩ := fromMembers_record record.named hm hn
  have plain : Dict.update [] (fromMembers named) = fromMembers named := by
    simpa using update_fresh [] (fromMembers named) (by simpa [keys] using record.distinct)
  exact ⟨fromMembers named,by simp [fromJson,plain],values⟩

theorem copied_member (copied : jsonCopy (.dict dict) = some copy) (found : lookup key dict = some value) :
    ∃ part, jsonCopy value = some part := by
  obtain ⟨json,made,rfl⟩ := Option.map_eq_some_iff.mp copied
  simp only [toJson,Bool.false_eq_true,if_false,Option.bind_some,Option.bind_eq_some_iff,Option.map_eq_some_iff] at made
  obtain ⟨members,hm,_⟩ := made
  have written := (membersJson_isSome false dict).mp (by simp [hm]) _ (lookup_mem found)
  exact Option.isSome_iff_exists.mp (by simpa [jsonCopy] using written)

theorem jsonCopy_record (record : Record dict) (copied : jsonCopy (.dict dict) = some copy) : ∃ fields, copy = .dict fields ∧
      ∀ key value, lookup key dict = some value → ∃ part, jsonCopy value = some part ∧ lookup key fields = some part := by
  obtain ⟨fields,same,values⟩ := jsonCopy_fields record copied
  refine ⟨fields,same,fun key value found => ?_⟩
  obtain ⟨part,copies⟩ := copied_member copied found
  exact ⟨part,copies,by rw [values,found,Option.bind_some,copies]⟩

theorem membersJson_keys (made : membersJson sort dict = some named) : named.map Prod.fst = dict.map Prod.fst := by
  induction dict generalizing named with
  | nil =>
    obtain rfl : [] = named := by simpa [membersJson] using made
    rfl
  | cons head rest ih =>
    obtain ⟨key,value⟩ := head
    simp only [membersJson,Option.bind_eq_some_iff,Option.map_eq_some_iff] at made
    obtain ⟨_,_,later,hl,rfl⟩ := made
    simp [ih hl]

theorem nameKeys_isSome (members : List (Key × Json)) :
    (nameKeys members).isSome = true ↔ ∀ key ∈ members.map Prod.fst, (keyText key).isSome = true := by
  induction members with
  | nil => simp [nameKeys]
  | cons head rest ih =>
    obtain ⟨key,value⟩ := head
    cases made : keyText key <;> simp_all [nameKeys]

-- Keys that json writes, and that compare when they are sorted.
def KeysEncodable (sort : Bool) (keys : List Key) : Prop :=
  (∀ key ∈ keys, (keyText key).isSome = true) ∧
    (sort = true → keys.length ≤ 1 ∨ (∀ key ∈ keys, key.isStr = true) ∨ ∀ key ∈ keys, (keyNumber key).isSome = true)

theorem sortMembers_isSome (members : List (Key × Json)) :
    (sortMembers members).isSome = true ↔ (members.map Prod.fst).length ≤ 1 ∨ (∀ key ∈ members.map Prod.fst, key.isStr = true) ∨
      ∀ key ∈ members.map Prod.fst, (keyNumber key).isSome = true := by
  unfold sortMembers
  split
  · simp_all
  · rename_i many
    split
    · rename_i comparable
      simp only [Bool.or_eq_true,List.all_eq_true] at comparable
      simp_all
    · rename_i mixed
      simp only [Bool.or_eq_true,List.all_eq_true] at mixed
      simp_all

theorem dict_isSome (sort : Bool) (dict : Dict) : (toJson sort (.dict dict)).isSome = true ↔
      (∀ member ∈ dict, (toJson sort member.2).isSome = true) ∧ KeysEncodable sort (dict.map Prod.fst) := by
  rw [← membersJson_isSome]
  cases made : membersJson sort dict with
  | none => simp [toJson,made]
  | some members =>
    rw [← membersJson_keys made,KeysEncodable,← nameKeys_isSome,← sortMembers_isSome]
    cases sort with
    | false => simp [toJson,made]
    | true =>
      cases ordered : sortMembers members with
      | none => simp [toJson,made,ordered]
      | some sorted =>
        have names : (nameKeys sorted).isSome = true ↔ (nameKeys members).isSome = true := by
          rw [nameKeys_isSome,nameKeys_isSome]
          simp only [((sortMembers_perm ordered).map Prod.fst).mem_iff]
        simpa [toJson,made,ordered] using names

theorem strKeys_encodable (named : StrKeys dict) (sort : Bool) : KeysEncodable sort (dict.map Prod.fst) := by
  have names : ∀ key ∈ dict.map Prod.fst, ∃ name, key = .str name := by
    intro key listed
    obtain ⟨member,there,rfl⟩ := List.mem_map.mp listed
    exact named member there
  refine ⟨fun key listed => ?_,fun _ => .inr (.inl fun key listed => ?_)⟩
  · obtain ⟨name,rfl⟩ := names key listed
    rfl
  · obtain ⟨name,rfl⟩ := names key listed
    rfl

theorem recordable_dict (named : StrKeys dict) : Recordable (.dict dict) ↔ ∀ member ∈ dict, Recordable member.2 := by
  unfold Recordable
  rw [dict_isSome]
  exact and_iff_left (strKeys_encodable named true)

theorem recordable_member (whole : Recordable (.dict dict)) (listed : member ∈ dict) :
    Recordable member.2 := ((dict_isSome true dict).mp whole).1 member listed

theorem list_isSome (sort : Bool) (items : List Value) :
    (toJson sort (.list items)).isSome = true ↔ ∀ item ∈ items, (toJson sort item).isSome = true := by
  rw [← itemsJson_isSome]
  simp [toJson]

theorem tuple_isSome (sort : Bool) (items : List Value) :
    (toJson sort (.tuple items)).isSome = true ↔ ∀ item ∈ items, (toJson sort item).isSome = true := by
  rw [← itemsJson_isSome]
  simp [toJson]

theorem recordable_list : Recordable (.list items) ↔ ∀ item ∈ items, Recordable item := list_isSome true items

theorem unsorted_isSome (value : Value) : Recordable value → (toJson false value).isSome = true := by
  intro written
  induction value using Value.induction with
  | leaf value notList notTuple notDict => cases value <;> simp_all [Recordable,toJson]
  | list items inside =>
    have each := (list_isSome true items).mp written
    exact (list_isSome false items).mpr fun item listed => inside item listed (each item listed)
  | tuple items inside =>
    have each := (tuple_isSome true items).mp written
    exact (tuple_isSome false items).mpr fun item listed => inside item listed (each item listed)
  | dict members inside =>
    obtain ⟨each,keys⟩ := (dict_isSome true members).mp written
    exact (dict_isSome false members).mpr ⟨fun member listed => inside member listed (each member listed),keys.1,by simp⟩

@[simp] theorem recordable_none : Recordable .none := rfl
@[simp] theorem recordable_bool (b : Bool) : Recordable (.bool b) := rfl
@[simp] theorem recordable_str (s : String) : Recordable (.str s) := rfl

theorem canonical_recordable (value : Value) : (canonicalJsonDumps value).isSome = true ↔ Recordable value := by
  unfold canonicalJsonDumps Recordable
  simp

end VeritasOs
