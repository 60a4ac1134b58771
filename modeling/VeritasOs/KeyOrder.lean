import Mathlib.Data.List.Perm.Basic
import VeritasOs.JsonReread

namespace VeritasOs.KeyOrder

instance : Std.Antisymm fun a b : String => textLe a b = true :=
  ⟨fun _ _ first second => String.toList_inj.mp (charsLe_antisymm first second)⟩

variable {α β γ : Type} (r : β → β → Prop) [DecidableRel r]

def sortBy (key : α → β) (items : List α) : List α := items.insertionSort fun a b => r (key a) (key b)

theorem sortBy_perm : (sortBy r key items).Perm items := List.perm_insertionSort _ items

theorem sortBy_keys : (sortBy r key items).map key = (items.map key).insertionSort r :=
  List.map_insertionSort (fun a b => r (key a) (key b)) r key items fun _ _ _ _ => Iff.rfl

section Unique
variable [Std.Total r] [IsTrans β r] [Std.Antisymm r]

-- An order without ties leaves a sorted list no choice.
theorem sort_perm {xs ys : List β} (same : xs.Perm ys) : xs.insertionSort r = ys.insertionSort r := by
  refine List.Perm.eq_of_pairwise' (List.pairwise_insertionSort r xs) (List.pairwise_insertionSort r ys) ?_
  exact ((List.perm_insertionSort r xs).trans same).trans (List.perm_insertionSort r ys).symm

theorem sort_members {xs ys : List β} (first : xs.Nodup) (second : ys.Nodup) (same : ∀ x, x ∈ xs ↔ x ∈ ys) :
    xs.insertionSort r = ys.insertionSort r :=
  sort_perm r ((List.perm_ext_iff_of_nodup first second).mpr same)

theorem sortBy_shown {key : α → β} {f : α → γ} {xs ys : List α} (same : (xs.map key).Perm (ys.map key))
    (told : ∀ a ∈ xs, ∀ b ∈ ys, key a = key b → f a = f b) : (sortBy r key xs).map f = (sortBy r key ys).map f := by
  have keys : (sortBy r key xs).map key = (sortBy r key ys).map key := by
    rw [sortBy_keys,sortBy_keys]
    exact sort_perm r same
  refine List.ext_getElem? fun i => ?_
  have agree := congrArg (·[i]?) keys
  simp only [List.getElem?_map] at agree ⊢
  cases first : (sortBy r key xs)[i]? with
  | none =>
    cases second : (sortBy r key ys)[i]? with
    | none => rfl
    | some b => simp [first,second] at agree
  | some a =>
    cases second : (sortBy r key ys)[i]? with
    | none => simp [first,second] at agree
    | some b =>
      simp only [first,second,Option.map_some,Option.some.injEq] at agree ⊢
      have left := (sortBy_perm r).mem_iff.mp (List.mem_of_getElem? first)
      have right := (sortBy_perm r).mem_iff.mp (List.mem_of_getElem? second)
      exact told a left b right agree

end Unique

theorem partners {α β : Type} {related : α → β → Prop} {holds : α → Prop} {gives : β → Prop} {xs : List α} {ys : List β}
    (pairs : List.Forall₂ related xs ys) (each : ∀ a ∈ xs, holds a) (step : ∀ a b, related a b → holds a → gives b) : ∀ b ∈ ys, gives b := by
  induction pairs with
  | nil => exact fun _ listed => absurd listed List.not_mem_nil
  | cons pair rest ih =>
    obtain ⟨first,others⟩ := List.forall_mem_cons.mp each
    exact List.forall_mem_cons.mpr ⟨step _ _ pair first,ih others⟩

section Unordered
variable {α β γ δ : Type} {related : α → β → Prop} {xs : List α} {ys : List β}

def Unordered (related : α → β → Prop) (xs : List α) (ys : List β) : Prop := ∃ zs, xs.Perm zs ∧ List.Forall₂ related zs ys

theorem Unordered.keys (unordered : Unordered related xs ys) (agree : ∀ a b, related a b → f a = g b) : (xs.map f).Perm (ys.map g) := by
  obtain ⟨zs,reordered,pairs⟩ := unordered
  have same : zs.map f = ys.map g := by
    induction pairs generalizing xs with
    | nil => rfl
    | @cons a b as bs pair rest ih => rw [List.map_cons,List.map_cons,agree a b pair,ih (.refl as)]
  exact same ▸ reordered.map f

theorem Unordered.through (unordered : Unordered related xs ys) (first : List.Forall₂ made xs us) (second : List.Forall₂ remade ys vs)
    (agree : ∀ a b c d, related a b → made a c → remade b d → alike c d) : Unordered alike us vs := by
  obtain ⟨zs,reordered,pairs⟩ := unordered
  obtain ⟨ws,moved,perm⟩ := List.perm_comp_forall₂ reordered.symm first
  refine ⟨ws,perm.symm,?_⟩
  clear reordered first perm
  induction pairs generalizing ws vs with
  | nil =>
    cases moved
    cases second
    exact .nil
  | cons pair rest ih =>
    cases moved with
    | cons left lefts =>
      cases second with
      | cons right rights => exact .cons (agree _ _ _ _ pair left right) (ih rights _ lefts)

end Unordered

section Pairs
variable {α β : Type} [DecidableEq α] {r : α → α → Prop} {s : β → β → Prop}

def pairLe (r : α → α → Prop) (s : β → β → Prop) (p q : α × β) : Prop := (p.1 ≠ q.1 ∧ r p.1 q.1) ∨ (p.1 = q.1 ∧ s p.2 q.2)

instance [DecidableRel r] [DecidableRel s] : DecidableRel (pairLe r s) := fun p q => by
  unfold pairLe
  infer_instance

instance [Std.Total r] [Std.Total s] : Std.Total (pairLe r s) := ⟨by
  intro p q
  by_cases same : p.1 = q.1
  · rcases Std.Total.total (r := s) p.2 q.2 with le | ge
    · exact .inl (.inr ⟨same,le⟩)
    · exact .inr (.inr ⟨same.symm,ge⟩)
  · rcases Std.Total.total (r := r) p.1 q.1 with le | ge
    · exact .inl (.inl ⟨same,le⟩)
    · exact .inr (.inl ⟨Ne.symm same,ge⟩)⟩

instance [Std.Antisymm r] [Std.Antisymm s] : Std.Antisymm (pairLe r s) := ⟨by
  rintro ⟨a,b⟩ ⟨c,d⟩ (⟨apart,le⟩ | ⟨same,le⟩) (⟨_,ge⟩ | ⟨back,ge⟩)
  · exact absurd (antisymm_of r le ge) apart
  · exact absurd back.symm apart
  · exact absurd (same : a = c) (Ne.symm ‹_›)
  · exact Prod.ext same (antisymm_of s le ge)⟩

instance [IsTrans α r] [Std.Antisymm r] [IsTrans β s] : IsTrans (α × β) (pairLe r s) := ⟨by
  rintro ⟨a,b⟩ ⟨c,d⟩ ⟨e,f⟩ (⟨apart,le⟩ | ⟨same,le⟩) (⟨further,more⟩ | ⟨equal,more⟩)
  · refine .inl ⟨fun back => ?_,trans_of r le more⟩
    obtain rfl : a = e := back
    exact apart (antisymm_of r le more)
  · obtain rfl : c = e := equal
    exact .inl ⟨apart,le⟩
  · obtain rfl : a = c := same
    exact .inl ⟨further,more⟩
  · exact .inr ⟨same.trans equal,trans_of s le more⟩⟩

end Pairs

end VeritasOs.KeyOrder
