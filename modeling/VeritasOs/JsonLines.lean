import VeritasOs.TextLines

namespace VeritasOs.JsonText
open TextLines

-- A layout that puts no line break between the tokens.
structure Layout.Flat (layout : Layout) : Prop where
  comma : ∀ c ∈ layout.afterComma, 32 ≤ c.toNat
  colon : ∀ c ∈ layout.afterColon, 32 ≤ c.toNat
  line : ∀ depth, layout.line depth = []

theorem spaced_flat : spaced.Flat := ⟨by simp [spaced],by simp [spaced],fun _ => rfl⟩

-- No control characters.
def Visible (text : List Char) : Prop := ∀ c ∈ text, 32 ≤ c.toNat

@[simp] theorem visible_nil : Visible [] := fun _ listed => absurd listed List.not_mem_nil

@[simp] theorem visible_cons : Visible (c :: rest) ↔ 32 ≤ c.toNat ∧ Visible rest := List.forall_mem_cons

@[simp] theorem visible_append : Visible (first ++ second) ↔ Visible first ∧ Visible second :=
  List.forall_mem_append

theorem atomChar_visible (atom : isAtomChar c = true) : 32 ≤ c.toNat := by
  by_contra control
  have small : c.toNat < 32 := by omega
  rw [← Char.ofNat_toNat c] at atom
  interval_cases c.toNat <;> revert atom <;> decide

theorem atomText_visible (a : Atom) : Visible (atomText a) := fun c listed => atomChar_visible (atomText_chars a c listed)

theorem hexText_visible (small : n < 16) : 32 ≤ (hexText n).toNat := by
  interval_cases n <;> decide

theorem escape_visible (c : Char) : Visible (escape c) := by
  unfold escape
  repeat' split
  all_goals try (simp; done)
  · have high := hexText_visible (n := c.toNat / 16) (by omega)
    have low := hexText_visible (n := c.toNat % 16) (by omega)
    simp [high,low]
  · simp only [visible_cons,visible_nil,and_true]
    omega

theorem strText_visible (s : String) : Visible (strText s) := by
  have inner : Visible (s.toList.flatMap escape) := by
    intro c listed
    obtain ⟨d,_,inside⟩ := List.mem_flatMap.mp listed
    exact escape_visible d c inside
  simp [strText,inner]

section Print
variable {layout : Layout}

mutual
theorem print_visible (flat : layout.Flat) (depth : Nat) : (json : Json) → Visible (print layout depth json)
  | .atom a => atomText_visible a
  | .str s => strText_visible s
  | .arr [] => by simp [print]
  | .arr (item :: rest) => by simp [print,flat.line,print_visible flat (depth + 1) item,items_visible flat (depth + 1) rest]
  | .obj [] => by simp [print]
  | .obj ((key,value) :: rest) => by
    have colon : Visible layout.afterColon := flat.colon
    simp [print,flat.line,strText_visible,colon,print_visible flat (depth + 1) value,members_visible flat (depth + 1) rest]
theorem items_visible (flat : layout.Flat) (depth : Nat) : (items : List Json) → Visible (printItems layout depth items)
  | [] => visible_nil
  | item :: rest => by
    have comma : Visible layout.afterComma := flat.comma
    simp [printItems,flat.line,comma,print_visible flat depth item,items_visible flat depth rest]
theorem members_visible (flat : layout.Flat) (depth : Nat) : (members : List (String × Json)) → Visible (printMembers layout depth members)
  | [] => visible_nil
  | (key,value) :: rest => by
    have comma : Visible layout.afterComma := flat.comma
    have colon : Visible layout.afterColon := flat.colon
    simp [printMembers,flat.line,comma,colon,strText_visible,print_visible flat depth value,members_visible flat depth rest]
end

end Print

theorem Visible.unbroken (visible : Visible text) : '\n' ∉ text :=
  fun listed => absurd (visible _ listed) (by decide)

theorem newlines_unreturned (plain : '\r' ∉ text) : newlines text = text := by
  induction text using newlines.induct with
  | case1 rest ih => exact absurd List.mem_cons_self plain
  | case2 rest _ ih => exact absurd List.mem_cons_self plain
  | case3 c rest notPair notReturn ih =>
    rw [newlines,ih fun listed => plain (List.mem_cons_of_mem _ listed)]
    · exact notPair
    · exact notReturn
  | case4 => rfl

theorem byteLines_file (visible : ∀ line ∈ whole, Visible line) (end_ : Visible torn) :
    byteLines (file whole torn) = whole ++ tail torn := by
  have plain : '\r' ∉ file whole torn := by
    intro listed
    rcases List.mem_append.mp listed with among | last
    · obtain ⟨line,held,inside⟩ := List.mem_flatMap.mp among
      rcases List.mem_append.mp inside with here | break_
      · exact absurd (visible line held _ here) (by decide)
      · exact absurd (List.mem_singleton.mp break_) (by decide)
    · exact absurd (end_ _ last) (by decide)
  rw [byteLines,newlines_unreturned plain,splitLines_file (fun line listed => (visible line listed).unbroken) end_.unbroken]

end VeritasOs.JsonText
