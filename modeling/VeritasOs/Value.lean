import Mathlib.Data.List.Sort
import VeritasOs.JsonRoundTrip
import VeritasOs.Text

namespace VeritasOs
open JsonText

inductive ExcKind where
  | osError | typeError | valueError | runtimeError | keyError | attributeError | overflowError | other
deriving DecidableEq

structure Exc where
  kind : ExcKind
  text : String
deriving DecidableEq

-- The classes named by `except (OSError, TypeError, ValueError, RuntimeError)`.
def Exc.handled (e : Exc) : Bool :=
  match e.kind with
  | .osError | .typeError | .valueError | .runtimeError => true
  | _ => false

theorem bind_ok {ε : Type} {first : Except ε α} {f : α → Except ε β} {result : β} :
    (first >>= f) = .ok result ↔ ∃ value, first = .ok value ∧ f value = .ok result := by
  cases first with
  | error error => simp [bind,Except.bind]
  | ok value => simp [bind,Except.bind]

theorem except_then_ok {ε : Type} {first : Except ε Unit} {next : Except ε β} {result : β} :
    (first >>= fun _ => next) = .ok result ↔ first = .ok () ∧ next = .ok result := by
  rw [bind_ok]
  constructor
  · rintro ⟨_,passed,done⟩
    exact ⟨passed,done⟩
  · rintro ⟨passed,done⟩
    exact ⟨(),passed,done⟩

theorem toOption_some {ε : Type} {outcome : Except ε α} {value : α} (found : outcome.toOption = some value) : outcome = .ok value := by
  cases outcome with
  | error error => cases found
  | ok other =>
    cases found
    rfl

theorem toOption_shown {outcome : Except Exc α} {view : α → β} {seen : β} (found : outcome.toOption.map view = some seen) :
    ∃ value, outcome = .ok value ∧ view value = seen := by
  obtain ⟨value,answered,shown⟩ := Option.map_eq_some_iff.mp found
  exact ⟨value,toOption_some answered,shown⟩

inductive Key where
  | str (s : String)
  | int (n : Int)
  | bool (b : Bool)
  | float (x : FloatValue)
  | none
  | other (text : String)
deriving DecidableEq

-- A Python object as far as the modelled code looks at it. `object` stands for
-- every instance of a class json cannot encode; only its str form and its truth
-- value are read. Dictionaries keep insertion order.
inductive Value where
  | none
  | bool (b : Bool)
  | int (n : Int)
  | float (x : FloatValue)
  | str (s : String)
  | list (items : List Value)
  | tuple (items : List Value)
  | dict (members : List (Key × Value))
  | object (text : String) (truth : Bool)

abbrev Dict := List (Key × Value)

mutual
def Value.same : Value → Value → Bool
  | .none,.none => true
  | .bool a,.bool b => a == b
  | .int a,.int b => a == b
  | .float a,.float b => a == b
  | .str a,.str b => a == b
  | .list a,.list b => Value.sameList a b
  | .tuple a,.tuple b => Value.sameList a b
  | .dict a,.dict b => Value.sameDict a b
  | .object a x,.object b y => a == b && x == y
  | _,_ => false
def Value.sameList : List Value → List Value → Bool
  | [],[] => true
  | a :: as,b :: bs => Value.same a b && Value.sameList as bs
  | _,_ => false
def Value.sameDict : List (Key × Value) → List (Key × Value) → Bool
  | [],[] => true
  | (k,a) :: as,(l,b) :: bs => k == l && Value.same a b && Value.sameDict as bs
  | _,_ => false
end

mutual
theorem Value.same_exact : (a b : Value) → (Value.same a b = true ↔ a = b)
  | .none,b => by cases b <;> simp [Value.same]
  | .bool _,b => by cases b <;> simp [Value.same]
  | .int _,b => by cases b <;> simp [Value.same]
  | .float _,b => by cases b <;> simp [Value.same]
  | .str _,b => by cases b <;> simp [Value.same]
  | .list items,b => by cases b <;> simp [Value.same,Value.sameList_exact items]
  | .tuple items,b => by cases b <;> simp [Value.same,Value.sameList_exact items]
  | .dict members,b => by cases b <;> simp [Value.same,Value.sameDict_exact members]
  | .object _ _,b => by cases b <;> simp [Value.same]
theorem Value.sameList_exact : (a b : List Value) → (Value.sameList a b = true ↔ a = b)
  | [],b => by cases b <;> simp [Value.sameList]
  | a :: as,b => by cases b <;> simp [Value.sameList,Value.same_exact a,Value.sameList_exact as]
theorem Value.sameDict_exact : (a b : List (Key × Value)) → (Value.sameDict a b = true ↔ a = b)
  | [],b => by cases b <;> simp [Value.sameDict]
  | (k,a) :: as,b => by
    cases b with
    | nil => simp [Value.sameDict]
    | cons pair bs => simp [Value.sameDict,Value.same_exact a,Value.sameDict_exact as,Prod.ext_iff]
end

-- Induction over an object and everything inside it.
theorem Value.induction {holds : Value → Prop}
    (leaf : ∀ value, (∀ items, value ≠ .list items) → (∀ items, value ≠ .tuple items) → (∀ members, value ≠ .dict members) → holds value)
    (list : ∀ items, (∀ item ∈ items, holds item) → holds (.list items))
    (tuple : ∀ items, (∀ item ∈ items, holds item) → holds (.tuple items))
    (dict : ∀ members : List (Key × Value), (∀ member ∈ members, holds member.2) → holds (.dict members)) (value : Value) : holds value :=
  @Value.rec holds (fun items => ∀ item ∈ items, holds item) (fun members => ∀ member ∈ members, holds member.2)
    (fun member => holds member.2) (leaf _ (by simp) (by simp) (by simp)) (fun _ => leaf _ (by simp) (by simp) (by simp))
    (fun _ => leaf _ (by simp) (by simp) (by simp)) (fun _ => leaf _ (by simp) (by simp) (by simp))
    (fun _ => leaf _ (by simp) (by simp) (by simp)) list tuple dict (fun _ _ => leaf _ (by simp) (by simp) (by simp))
    (by simp) (fun _ _ first rest => List.forall_mem_cons.mpr ⟨first,rest⟩)
    (by simp) (fun _ _ first rest => List.forall_mem_cons.mpr ⟨first,rest⟩) (fun _ _ inside => inside) value

instance : DecidableEq Value := fun a b => decidable_of_iff _ (Value.same_exact a b)

-- A literal whose mantissa has no digit but 0 is a zero.
def FloatValue.isZero : FloatValue → Bool
  | .finite literal => (literal.text.toList.takeWhile fun c => !(c == 'e' || c == 'E')).all fun c =>
    c == '0' || c == '.' || c == '-'
  | _ => false

def Value.truthy : Value → Bool
  | .none => false
  | .bool b => b
  | .int n => n != 0
  | .float x => !FloatValue.isZero x
  | .str s => s != ""
  | .list items => !items.isEmpty
  | .tuple items => !items.isEmpty
  | .dict members => !members.isEmpty
  | .object _ truth => truth

def intStr (n : Int) : String := String.ofList (atomText (.int n))

def floatStr : FloatValue → String
  | .finite literal => literal.text
  | .nan => "nan"
  | .infinity false => "inf"
  | .infinity true => "-inf"

-- repr(str): single quotes unless the text holds one and no double quote.
def quoteStr (s : String) : String :=
  let mark := if s.toList.contains '\'' && !s.toList.contains '"' then '"' else '\''
  let show_ := fun c : Char =>
    if c = mark then ['\\',c]
    else if c = '\\' then ['\\','\\']
    else if c = '\n' then ['\\','n']
    else if c = '\r' then ['\\','r']
    else if c = '\t' then ['\\','t']
    else if c.toNat < 32 || c.toNat = 127 then
      ['\\','x',hexText (c.toNat / 16),hexText (c.toNat % 16)]
    else [c]
  String.ofList (mark :: s.toList.flatMap show_ ++ [mark])

def keyRepr : Key → String
  | .str s => quoteStr s
  | .int n => intStr n
  | .bool true => "True"
  | .bool false => "False"
  | .float x => floatStr x
  | .none => "None"
  | .other text => text

mutual
def Value.repr : Value → String
  | .none => "None"
  | .bool true => "True"
  | .bool false => "False"
  | .int n => intStr n
  | .float x => floatStr x
  | .str s => quoteStr s
  | .list items => "[" ++ Value.reprItems items ++ "]"
  | .tuple [item] => "(" ++ Value.repr item ++ ",)"
  | .tuple items => "(" ++ Value.reprItems items ++ ")"
  | .dict members => "\x7b" ++ Value.reprMembers members ++ "\x7d"
  | .object text _ => text
def Value.reprItems : List Value → String
  | [] => ""
  | [item] => Value.repr item
  | item :: rest => Value.repr item ++ ", " ++ Value.reprItems rest
def Value.reprMembers : List (Key × Value) → String
  | [] => ""
  | [(key,value)] => keyRepr key ++ ": " ++ Value.repr value
  | (key,value) :: rest => keyRepr key ++ ": " ++ Value.repr value ++ ", " ++ Value.reprMembers rest
end

def Value.text : Value → String
  | .str s => s
  | value => value.repr

def Value.orStr (value : Value) (default : String) : String := if value.truthy then value.text else default

def Value.asDict? : Value → Option Dict
  | .dict members => some members
  | _ => Option.none

def lookup (key : Key) : Dict → Option Value
  | [] => none
  | (k,value) :: rest => if k = key then some value else lookup key rest

def Dict.get (dict : Dict) (name : String) : Value := (lookup (.str name) dict).getD .none

def Dict.getD (dict : Dict) (name : String) (default : Value) : Value := (lookup (.str name) dict).getD default

def Dict.has (dict : Dict) (name : String) : Bool := (lookup (.str name) dict).isSome

-- mapping[key] = value: an existing key keeps its place.
def store (key : Key) (value : Value) : Dict → Dict
  | [] => [(key,value)]
  | (k,old) :: rest => if k = key then (k,value) :: rest else (k,old) :: store key value rest

def Dict.set (dict : Dict) (name : String) (value : Value) : Dict := store (.str name) value dict

def Dict.update (dict changes : Dict) : Dict := changes.foldl (fun kept change => store change.1 change.2 kept) dict

def Dict.sub (dict : Dict) (name : String) : Option Dict :=
  let found := dict.get name
  if found.truthy then found.asDict? else some []

theorem lookup_store (key wanted : Key) (value : Value) (dict : Dict) :
    lookup wanted (store key value dict) = if key = wanted then some value else lookup wanted dict := by
  induction dict with
  | nil => simp [store,lookup]
  | cons head rest ih =>
    obtain ⟨k,old⟩ := head
    by_cases same : k = key
    · subst k
      by_cases found : key = wanted <;> simp [store,lookup,found]
    · by_cases found : k = wanted
      · subst k
        simp [store,lookup,same,Ne.symm same]
      · simp [store,lookup,same,found,ih]

theorem get_set_other {members : Dict} {name wanted : String} {value : Value} (other : wanted ≠ name) :
    (members.set name value).get wanted = members.get wanted := by
  unfold Dict.get Dict.set
  rw [lookup_store,if_neg fun same => other (Key.str.inj same).symm]

theorem get_set {members : Dict} {name : String} {value : Value} : (members.set name value).get name = value := by
  unfold Dict.get Dict.set
  rw [lookup_store,if_pos rfl,Option.getD_some]

theorem lookup_append (wanted : Key) (first second : Dict) :
    lookup wanted (first ++ second) = (lookup wanted first).or (lookup wanted second) := by
  induction first with
  | nil => simp [lookup]
  | cons head rest ih =>
    obtain ⟨k,value⟩ := head
    by_cases found : k = wanted <;> simp [lookup,found,ih]

theorem lookup_mem (found : lookup wanted dict = some value) : (wanted,value) ∈ dict := by
  induction dict with
  | nil => simp [lookup] at found
  | cons head rest ih =>
    obtain ⟨k,old⟩ := head
    by_cases same : k = wanted
    · simp only [lookup,same,if_true,Option.some.injEq] at found
      simp [same,found]
    · simp only [lookup,same,if_false] at found
      exact List.mem_cons_of_mem _ (ih found)

theorem lookup_map (transform : Key → Value → Value) (wanted : Key) (dict : Dict) :
    lookup wanted (dict.map fun member => (member.1,transform member.1 member.2)) = (lookup wanted dict).map (transform wanted) := by
  induction dict with
  | nil => simp [lookup]
  | cons head rest ih =>
    obtain ⟨k,value⟩ := head
    by_cases same : k = wanted <;> simp [lookup,same,ih]

theorem lookup_update (distinct : (changes.map Prod.fst).Nodup) (key : Key) (dict : Dict) :
    lookup key (dict.update changes) = (lookup key changes).or (lookup key dict) := by
  induction changes generalizing dict with
  | nil => simp [Dict.update,lookup]
  | cons head rest ih =>
    obtain ⟨k,value⟩ := head
    rw [List.map_cons,List.nodup_cons] at distinct
    have step : dict.update ((k,value) :: rest) = Dict.update (store k value dict) rest := rfl
    rw [step,ih distinct.2,lookup_store,lookup]
    by_cases same : k = key
    · subst k
      have absent : lookup key rest = none := by
        cases found : lookup key rest with
        | none => rfl
        | some other => exact absurd (List.mem_map.mpr ⟨_,lookup_mem found,rfl⟩) distinct.1
      simp [absent]
    · simp [same]

end VeritasOs
