import VeritasOs.ValueJson

namespace VeritasOs
open JsonText

theorem charsLe_total (a b : List Char) : charsLe a b = true ∨ charsLe b a = true := by
  induction a generalizing b with
  | nil => exact .inl rfl
  | cons x xs ih =>
    cases b with
    | nil => exact .inr rfl
    | cons y ys =>
      by_cases same : x = y
      · subst y
        simpa [charsLe] using ih ys
      · simp only [charsLe,same,Ne.symm same,if_false,decide_eq_true_eq]
        omega

theorem charsLe_antisymm (le : charsLe a b = true) (ge : charsLe b a = true) : a = b := by
  induction a generalizing b with
  | nil =>
    cases b with
    | nil => rfl
    | cons y ys => cases ge
  | cons x xs ih =>
    cases b with
    | nil => cases le
    | cons y ys =>
      by_cases same : x = y
      · subst y
        simp only [charsLe,if_true] at le ge
        rw [ih le ge]
      · simp only [charsLe,same,Ne.symm same,if_false,decide_eq_true_eq] at le ge
        exact absurd (Char.toNat_inj.mp (Nat.le_antisymm le ge)) same

theorem charsLe_trans (first : charsLe a b = true) (second : charsLe b c = true) : charsLe a c = true := by
  induction a generalizing b c with
  | nil => rfl
  | cons x xs ih =>
    cases b with
    | nil => cases first
    | cons y ys =>
      cases c with
      | nil => cases second
      | cons z zs =>
        unfold charsLe at first second ⊢
        by_cases xy : x = y
        · subst y
          by_cases xz : x = z
          · subst z
            simp only [if_true] at first second ⊢
            exact ih first second
          · simpa [xz] using second
        · by_cases yz : y = z
          · subst z
            simpa [xy] using first
          · simp only [xy,yz,if_false,decide_eq_true_eq] at first second
            have between : x ≠ z := by
              rintro rfl
              exact xy (Char.toNat_inj.mp (Nat.le_antisymm first second))
            simp only [between,if_false,decide_eq_true_eq]
            omega

instance : Std.Total fun a b : String => textLe a b = true := ⟨fun a b => charsLe_total a.toList b.toList⟩

instance : IsTrans String fun a b => textLe a b = true := ⟨fun _ _ _ first second => charsLe_trans first second⟩

def textLt (a b : String) : Bool := textLe a b && a != b

theorem textLt_asymm (lt : textLt a b = true) (gt : textLt b a = true) : False := by
  simp only [textLt,Bool.and_eq_true,bne_iff_ne] at lt gt
  exact lt.2 (String.toList_inj.mp (charsLe_antisymm lt.1 gt.1))

-- A key is sorted as the object it is and written as its text.
def sortedTexts (keys : List Key) : List String :=
  (keys.insertionSort fun a b => keyLe a b = true).map fun key => (keyText key).getD ""

def keysInOrder (keys : List Key) : Bool := decide ((sortedTexts keys).Pairwise fun a b => textLt a b = true)

-- Every dictionary inside has its keys in the order of their texts, without repetition.
mutual
def orderly : Value → Bool
  | .list items => orderlyItems items
  | .tuple items => orderlyItems items
  | .dict members => keysInOrder (members.map Prod.fst) && orderlyMembers members
  | _ => true
def orderlyItems : List Value → Bool
  | [] => true
  | item :: rest => orderly item && orderlyItems rest
def orderlyMembers : List (Key × Value) → Bool
  | [] => true
  | (_,value) :: rest => orderly value && orderlyMembers rest
end

theorem orderlyItems_iff (items : List Value) : orderlyItems items = true ↔ ∀ item ∈ items, orderly item = true := by
  induction items with
  | nil => simp [orderlyItems]
  | cons head rest ih => simp [orderlyItems,ih]

theorem orderlyMembers_iff (members : Dict) : orderlyMembers members = true ↔ ∀ member ∈ members, orderly member.2 = true := by
  induction members with
  | nil => simp [orderlyMembers]
  | cons head rest ih => simp [orderlyMembers,ih]

theorem orderly_dict (members : Dict) :
    orderly (.dict members) = true ↔ keysInOrder (members.map Prod.fst) = true ∧ ∀ member ∈ members, orderly member.2 = true := by
  rw [orderly,Bool.and_eq_true,orderlyMembers_iff]

theorem sortMembers_sorted (made : sortMembers members = some sorted) : sorted = members.insertionSort fun a b => keyLe a.1 b.1 = true := by
  unfold sortMembers at made
  split at made
  · rename_i short
    cases made
    match members,short with
    | [],_ => rfl
    | [_],_ => rfl
  · split at made
    · exact (Option.some.inj made).symm
    · cases made

theorem nameKeys_texts (made : nameKeys members = some named) :
    named.map Prod.fst = members.map fun member => (keyText member.1).getD "" := by
  induction members generalizing named with
  | nil =>
    obtain rfl : [] = named := by simpa [nameKeys] using made
    rfl
  | cons head rest ih =>
    obtain ⟨key,value⟩ := head
    simp only [nameKeys,Option.bind_eq_some_iff,Option.map_eq_some_iff] at made
    obtain ⟨text,found,later,made,rfl⟩ := made
    simp [found,ih made]

theorem dict_names (made : toJson sort (.dict dict) = some (.obj named)) :
    named.map Prod.fst = if sort then sortedTexts (dict.map Prod.fst) else dict.map fun member => (keyText member.1).getD "" := by
  simp only [toJson,Option.bind_eq_some_iff,Option.map_eq_some_iff,Json.obj.injEq] at made
  obtain ⟨unsorted,hu,_,⟨ordered,ho,hn⟩,rfl⟩ := made
  rw [nameKeys_texts hn]
  cases sort with
  | false =>
    simp only [Bool.false_eq_true,if_false,Option.some.injEq] at ho ⊢
    have texts := congrArg (List.map fun key => (keyText key).getD "") (membersJson_keys hu)
    simpa only [← ho,List.map_map,Function.comp_def] using texts
  | true =>
    rw [if_pos rfl] at ho ⊢
    have keys := List.map_insertionSort (fun a b : Key × Json => keyLe a.1 b.1 = true) (fun a b => keyLe a b = true) Prod.fst unsorted
      fun _ _ _ _ => Iff.rfl
    rw [sortMembers_sorted ho,sortedTexts,← membersJson_keys hu,← keys,List.map_map]
    rfl

theorem sortedTexts_perm (keys : List Key) : (sortedTexts keys).Perm (keys.map fun key => (keyText key).getD "") :=
  (List.perm_insertionSort _ keys).map _

theorem sortedTexts_record (record : Record dict) : (sortedTexts (dict.map Prod.fst)).Pairwise fun a b => textLt a b = true := by
  have names : ∀ key ∈ dict.map Prod.fst, ∃ name, key = .str name := by
    intro key listed
    obtain ⟨member,there,rfl⟩ := List.mem_map.mp listed
    exact record.named member there
  have texts : sortedTexts (dict.map Prod.fst) =
      ((dict.map Prod.fst).map fun key => (keyText key).getD "").insertionSort fun a b => textLe a b = true := by
    refine List.map_insertionSort _ _ _ _ fun a first b second => ?_
    obtain ⟨x,rfl⟩ := names a first
    obtain ⟨y,rfl⟩ := names b second
    rfl
  have distinct : ((dict.map Prod.fst).map fun key => (keyText key).getD "").Nodup := by
    refine List.Nodup.map_on ?_ record.distinct
    intro a first b second same
    obtain ⟨x,rfl⟩ := names a first
    obtain ⟨y,rfl⟩ := names b second
    exact congrArg Key.str same
  rw [texts]
  refine (List.pairwise_insertionSort (fun a b => textLe a b = true) _).imp₂ ?_
    ((List.perm_insertionSort (fun a b => textLe a b = true) _).nodup_iff.mpr distinct)
  intro a b le ne
  simp [textLt,le,ne]

def NameLt (a b : String × Json) : Prop := textLt a.1 b.1 = true

theorem named_ordered {named : List (String × Json)} :
    named.Pairwise NameLt ↔ (named.map Prod.fst).Pairwise fun a b => textLt a b = true := by
  rw [List.pairwise_map]
  rfl

theorem named_unique {left right : List (String × Json)} (first : left.Pairwise NameLt) (second : right.Pairwise NameLt)
    (same : ∀ member, member ∈ left ↔ member ∈ right) : left = right := by
  have antisymm : Std.Antisymm NameLt := ⟨fun a b lt gt => (textLt_asymm lt gt).elim⟩
  have irrefl : Std.Irrefl NameLt := ⟨fun a lt => textLt_asymm lt lt⟩
  exact first.eq_of_mem_iff second same

theorem record_ordered (record : Record dict) (made : toJson true (.dict dict) = some (.obj named)) : named.Pairwise NameLt := by
  rw [named_ordered,dict_names made]
  exact sortedTexts_record record

theorem canonical_perm {left right : Dict} (record : Record left) (perm : left.Perm right) :
    canonicalJsonDumps (.dict left) = canonicalJsonDumps (.dict right) := by
  have other : Record right := ⟨fun member listed => record.named member (perm.mem_iff.mpr listed),(perm.map _).nodup_iff.mp record.distinct⟩
  have same : Recordable (.dict left) ↔ Recordable (.dict right) := by
    rw [recordable_dict record.named,recordable_dict other.named]
    simp only [perm.mem_iff]
  unfold Recordable at same
  unfold canonicalJsonDumps
  congr 1
  cases first : toJson true (.dict left) with
  | none =>
    rw [first] at same
    cases second : toJson true (.dict right) with
    | none => rfl
    | some json =>
      rw [second] at same
      cases same.mpr rfl
  | some json =>
    rw [first] at same
    obtain ⟨json',second⟩ := Option.isSome_iff_exists.mp (same.mp rfl)
    obtain ⟨named,rfl⟩ := toJson_dict_obj first
    obtain ⟨named',rfl⟩ := toJson_dict_obj second
    have members : named = named' := named_unique (record_ordered record first) (record_ordered other second) fun member => by
      rw [toJson_dict_mem first,toJson_dict_mem second]
      simp only [perm.mem_iff]
    rw [second,members]

theorem ordered_distinct (ordered : keysInOrder keys = true) : (keys.map fun key => (keyText key).getD "").Nodup := by
  have strict := of_decide_eq_true ordered
  refine (sortedTexts_perm keys).nodup_iff.mp (strict.imp fun lt => ?_)
  rintro rfl
  exact textLt_asymm lt lt

theorem update_record (changes : Dict) (named : StrKeys changes) : Record (Dict.update [] changes) := by
  have step : ∀ dict : Dict, Record dict → Record (Dict.update dict changes) := by
    induction changes with
    | nil => exact fun dict record => record
    | cons head rest ih =>
      intro dict record
      obtain ⟨key,value⟩ := head
      obtain ⟨name,rfl⟩ := named _ List.mem_cons_self
      exact ih (fun member later => named member (List.mem_cons_of_mem _ later)) _ (record.set name value)
  exact step [] ⟨by simp [StrKeys],List.nodup_nil⟩

theorem fromMembers_mem (named : List (String × Json)) (member : Key × Value) :
    member ∈ fromMembers named ↔ ∃ name json, (name,json) ∈ named ∧ member = (.str name,fromJson json) := by
  induction named with
  | nil => simp [fromMembers]
  | cons head rest ih =>
    obtain ⟨name,json⟩ := head
    simp only [fromMembers,List.mem_cons,ih]
    constructor
    · rintro (rfl | ⟨other,value,listed,rfl⟩)
      · exact ⟨name,json,.inl rfl,rfl⟩
      · exact ⟨other,value,.inr listed,rfl⟩
    · rintro ⟨other,value,same | listed,rfl⟩
      · cases same
        exact .inl rfl
      · exact .inr ⟨other,value,listed,rfl⟩

theorem fromMembers_named (named : List (String × Json)) : StrKeys (fromMembers named) := by
  intro member listed
  obtain ⟨name,json,_,rfl⟩ := (fromMembers_mem named member).mp listed
  exact ⟨name,rfl⟩

theorem fromMembers_keys (named : List (String × Json)) : (fromMembers named).map Prod.fst = (named.map Prod.fst).map Key.str := by
  induction named with
  | nil => rfl
  | cons head rest ih => simp [fromMembers,ih]

section Dict
variable {sort : Bool} {members : Dict} {json sorted : List (String × Json)}
  (written : toJson sort (.dict members) = some (.obj json)) (ordered : toJson true (.dict members) = some (.obj sorted))
include written

theorem names_perm : (json.map Prod.fst).Perm (members.map fun member => (keyText member.1).getD "") := by
  rw [dict_names written]
  cases sort with
  | false => exact .refl _
  | true =>
    rw [if_pos rfl]
    simpa only [List.map_map,Function.comp_def] using sortedTexts_perm (members.map Prod.fst)

theorem fromMembers_fresh (distinct : (members.map fun member => (keyText member.1).getD "").Nodup) :
    ((fromMembers json).map Prod.fst).Nodup := by
  rw [fromMembers_keys]
  exact List.Nodup.map (fun _ _ => Key.str.inj) ((names_perm written).nodup_iff.mpr distinct)

include ordered

theorem reread_dict (inside : ∀ member ∈ members, ∀ {plain sorted}, toJson sort member.2 = some plain → toJson true member.2 = some sorted →
      (toJson true (fromJson plain) = some sorted ↔ orderly member.2 = true)) :
    toJson true (fromJson (.obj json)) = some (.obj sorted) ↔ orderly (.dict members) = true := by
  rw [orderly_dict,fromJson]
  have names := dict_names ordered
  rw [if_pos rfl] at names
  constructor
  · intro reread
    have strict := record_ordered (update_record _ (fromMembers_named json)) reread
    have inOrder : keysInOrder (members.map Prod.fst) = true := by
      rw [named_ordered,names] at strict
      exact decide_eq_true strict
    refine ⟨inOrder,fun member listed => ?_⟩
    obtain ⟨key,value⟩ := member
    -- The member is found again under its text, which no other member has.
    obtain ⟨encodable,keys⟩ := (dict_isSome true members).mp (by rw [ordered]; rfl)
    obtain ⟨text,texted⟩ := Option.isSome_iff_exists.mp (keys.1 key (List.mem_map.mpr ⟨_,listed,rfl⟩))
    obtain ⟨part,made⟩ := Option.isSome_iff_exists.mp (encodable _ listed)
    have there := (toJson_dict_mem ordered text part).mpr ⟨key,value,texted,listed,made⟩
    obtain ⟨again,found,named,present,remade⟩ := (toJson_dict_mem reread text part).mp there
    have source : (again,found) ∈ fromMembers json :=
      update_forall (· ∈ fromMembers json) (by simp) (fun _ listed => listed) _ present
    obtain ⟨name,plain,origin,same⟩ := (fromMembers_mem json _).mp source
    cases same
    obtain rfl : name = text := by simpa [keyText] using named
    obtain ⟨key₂,value₂,texted₂,listed₂,plainMade⟩ := (toJson_dict_mem written name plain).mp origin
    have distinct := ordered_distinct inOrder
    rw [List.map_map] at distinct
    have one := List.inj_on_of_nodup_map distinct listed listed₂ (by simp [texted,texted₂])
    cases one
    exact (inside _ listed plainMade made).mp remade
  · rintro ⟨inOrder,each⟩
    have distinct := ordered_distinct inOrder
    rw [List.map_map] at distinct
    have fresh := fromMembers_fresh written distinct
    have whole : Dict.update [] (fromMembers json) = fromMembers json := by
      simpa using update_fresh [] (fromMembers json) (by simpa using fresh)
    have again : ∀ key value, (key,value) ∈ members → ∀ plain, toJson sort value = some plain →
        toJson true (fromJson plain) = toJson true value := by
      intro key value listed plain made
      obtain ⟨part,sortedMade⟩ := Option.isSome_iff_exists.mp (((dict_isSome true members).mp (by rw [ordered]; rfl)).1 _ listed)
      rw [sortedMade]
      exact (inside _ listed made sortedMade).mpr (each _ listed)
    have record : Record (fromMembers json) := ⟨fromMembers_named json,fresh⟩
    have encodable : Recordable (.dict (fromMembers json)) := by
      rw [recordable_dict record.named]
      intro member listed
      obtain ⟨name,plain,origin,rfl⟩ := (fromMembers_mem json member).mp listed
      obtain ⟨key,value,_,there,made⟩ := (toJson_dict_mem written name plain).mp origin
      rw [Recordable,again key value there plain made]
      exact ((dict_isSome true members).mp (by rw [ordered]; rfl)).1 _ there
    obtain ⟨document,made⟩ := Option.isSome_iff_exists.mp encodable
    obtain ⟨named,rfl⟩ := toJson_dict_obj made
    rw [whole,made]
    have strict : sorted.Pairwise NameLt := by
      rw [named_ordered,names]
      exact of_decide_eq_true inOrder
    congr 2
    refine named_unique (record_ordered record made) strict fun member => ?_
    obtain ⟨name,part⟩ := member
    rw [toJson_dict_mem made,toJson_dict_mem ordered]
    constructor
    · rintro ⟨_,found,texted,present,remade⟩
      obtain ⟨text,plain,origin,same⟩ := (fromMembers_mem json _).mp present
      cases same
      obtain rfl : text = name := by simpa [keyText] using texted
      obtain ⟨key,value,texted,listed,plainMade⟩ := (toJson_dict_mem written text plain).mp origin
      exact ⟨key,value,texted,listed,(again key value listed plain plainMade).symm.trans remade⟩
    · rintro ⟨key,value,texted,listed,sortedMade⟩
      obtain ⟨plain,plainMade⟩ := Option.isSome_iff_exists.mp (((dict_isSome sort members).mp (by rw [written]; rfl)).1 _ listed)
      have origin := (toJson_dict_mem written name plain).mpr ⟨key,value,texted,listed,plainMade⟩
      exact ⟨.str name,fromJson plain,rfl,(fromMembers_mem json _).mpr ⟨name,plain,origin,rfl⟩,
        (again key value listed plain plainMade).trans sortedMade⟩

end Dict

theorem reread_items (written : itemsJson sort items = some json) (ordered : itemsJson true items = some sorted)
    (inside : ∀ item ∈ items, ∀ {plain sorted}, toJson sort item = some plain → toJson true item = some sorted →
      (toJson true (fromJson plain) = some sorted ↔ orderly item = true)) :
    itemsJson true (fromItems json) = some sorted ↔ orderlyItems items = true := by
  induction items generalizing json sorted with
  | nil =>
    cases written
    cases ordered
    simp [fromItems,itemsJson,orderlyItems]
  | cons head rest ih =>
    simp only [itemsJson,Option.bind_eq_some_iff,Option.map_eq_some_iff] at written ordered
    obtain ⟨plain,hp,later,hl,rfl⟩ := written
    obtain ⟨part,hs,tail,ht,rfl⟩ := ordered
    have first := inside head List.mem_cons_self hp hs
    have others := ih hl ht fun item listed => inside item (List.mem_cons_of_mem _ listed)
    simp only [fromItems,itemsJson,orderlyItems,Bool.and_eq_true,Option.bind_eq_some_iff,Option.map_eq_some_iff,← first,← others,
      List.cons.injEq]
    constructor
    · rintro ⟨found,remade,more,made,rfl,rfl⟩
      exact ⟨remade,made⟩
    · rintro ⟨remade,made⟩
      exact ⟨part,remade,tail,made,rfl,rfl⟩

-- Read back, an object has the canonical document it had before exactly when its
-- keys are in the order of their texts.
theorem reread_exact (value : Value) : ∀ {plain sorted : Json}, toJson sort value = some plain → toJson true value = some sorted →
    (toJson true (fromJson plain) = some sorted ↔ orderly value = true) := by
  induction value using Value.induction with
  | leaf value notList notTuple notDict =>
    intro plain sorted written ordered
    cases value with
    | list items => exact absurd rfl (notList items)
    | tuple items => exact absurd rfl (notTuple items)
    | dict members => exact absurd rfl (notDict members)
    | object text truth => cases written
    | _ =>
      cases written
      cases ordered
      simp [fromJson,toJson,orderly]
  | list items inside =>
    intro plain sorted written ordered
    obtain ⟨json,hj,rfl⟩ := Option.map_eq_some_iff.mp written
    obtain ⟨parts,hs,rfl⟩ := Option.map_eq_some_iff.mp ordered
    rw [orderly,← reread_items hj hs inside]
    simp [fromJson,toJson]
  | tuple items inside =>
    intro plain sorted written ordered
    obtain ⟨json,hj,rfl⟩ := Option.map_eq_some_iff.mp written
    obtain ⟨parts,hs,rfl⟩ := Option.map_eq_some_iff.mp ordered
    rw [orderly,← reread_items hj hs inside]
    simp [fromJson,toJson]
  | dict members inside =>
    intro plain sorted written ordered
    obtain ⟨json,rfl⟩ := toJson_dict_obj written
    obtain ⟨parts,rfl⟩ := toJson_dict_obj ordered
    exact reread_dict written ordered inside

theorem reread_field (record : Record dict)
    (written : toJson sort (.dict dict) = some (.obj json)) (held : lookup (.str name) dict = some value) :
    ∃ part, toJson sort value = some part ∧ lookup (.str name) (Dict.update [] (fromMembers json)) = some (fromJson part) := by
  have distinct := ordered_distinct (decide_eq_true (sortedTexts_record record))
  rw [List.map_map] at distinct
  have fresh := fromMembers_fresh written distinct
  have whole : Dict.update [] (fromMembers json) = fromMembers json := by
    simpa using update_fresh [] (fromMembers json) (by simpa using fresh)
  obtain ⟨part,made⟩ := Option.isSome_iff_exists.mp (((dict_isSome sort dict).mp (by rw [written]; rfl)).1 _ (lookup_mem held))
  have listed := (toJson_dict_mem written name part).mpr ⟨.str name,value,rfl,lookup_mem held,made⟩
  refine ⟨part,made,?_⟩
  rw [whole]
  exact lookup_of_mem fresh ((fromMembers_mem json _).mpr ⟨name,part,listed,rfl⟩)

theorem reread_item (written : itemsJson sort items = some json) (value : Value) :
    value ∈ fromItems json ↔ ∃ item ∈ items, ∃ part, toJson sort item = some part ∧ value = fromJson part := by
  induction items generalizing json with
  | nil =>
    cases written
    simp [fromItems]
  | cons head rest ih =>
    simp only [itemsJson,Option.bind_eq_some_iff,Option.map_eq_some_iff] at written
    obtain ⟨first,made,later,others,rfl⟩ := written
    rw [fromItems,List.mem_cons,ih others]
    constructor
    · rintro (rfl | ⟨item,listed,found⟩)
      · exact ⟨head,List.mem_cons_self,first,made,rfl⟩
      · exact ⟨item,List.mem_cons_of_mem _ listed,found⟩
    · rintro ⟨item,listed,part,remade,rfl⟩
      rcases List.mem_cons.mp listed with rfl | there
      · cases made.symm.trans remade
        exact .inl rfl
      · exact .inr ⟨item,there,part,remade,rfl⟩

section Parsed
set_option linter.unusedSectionVars false
variable (holds : Value → Prop) (atom : ∀ a, holds (fromJson (.atom a))) (str : ∀ s, holds (.str s))
  (list : ∀ items, (∀ item ∈ items, holds item) → holds (.list items))
  (dict : ∀ members : Dict, Record members → (∀ member ∈ members, holds member.2) → holds (.dict members))
include atom str list dict

mutual
theorem fromJson_induction : (json : Json) → holds (fromJson json)
  | .atom a => atom a
  | .str s => str s
  | .arr items => by
    rw [fromJson]
    exact list _ (fromItems_induction items)
  | .obj members => by
    rw [fromJson]
    exact dict _ (update_record _ (fromMembers_named members))
      (update_forall (fun member => holds member.2) (by simp) (fromMembers_induction members))
theorem fromItems_induction : (items : List Json) → ∀ item ∈ fromItems items, holds item
  | [] => by simp [fromItems]
  | first :: rest => by
    rw [fromItems,List.forall_mem_cons]
    exact ⟨fromJson_induction first,fromItems_induction rest⟩
theorem fromMembers_induction : (members : List (String × Json)) → ∀ member ∈ fromMembers members, holds member.2
  | [] => by simp [fromMembers]
  | (_,first) :: rest => by
    rw [fromMembers,List.forall_mem_cons]
    exact ⟨fromJson_induction first,fromMembers_induction rest⟩
end

end Parsed

theorem fromJson_recordable (json : Json) : Recordable (fromJson json) := by
  refine fromJson_induction Recordable ?_ recordable_str (fun items each => recordable_list.mpr each)
    (fun members record each => (recordable_dict record.named).mpr each) json
  intro a
  cases a <;> rfl

end VeritasOs
