import Mathlib.Data.List.Nodup

namespace VeritasOs.KeyedTable

-- A table with a unique key, filled item by item: an item whose key is held already is
-- left out, and so is one the table does not take. Nothing held is changed.
variable {α κ : Type} [DecidableEq κ] (key : α → κ) (takes : α → Bool)

def deposit (held : List α) (item : α) : List α :=
  if takes item = true ∧ key item ∉ held.map key then held ++ [item] else held

def depositAll (held items : List α) : List α := items.foldl (deposit key takes) held

theorem depositAll_kept (held items : List α) : ∃ kept, depositAll key takes held items = held ++ kept ∧ kept.Sublist items := by
  induction items generalizing held with
  | nil => exact ⟨[],(List.append_nil held).symm,.slnil⟩
  | cons item items ih =>
    obtain ⟨kept,same,part⟩ := ih (deposit key takes held item)
    by_cases both : takes item = true ∧ key item ∉ held.map key
    · refine ⟨item :: kept,?_,part.cons_cons item⟩
      rw [depositAll,List.foldl_cons,←depositAll,same,deposit,if_pos both]
      simp
    · refine ⟨kept,?_,part.cons item⟩
      rw [depositAll,List.foldl_cons,←depositAll,same,deposit,if_neg both]

variable {key takes} {held items : List α} {item : α}

theorem deposit_new (taken : takes item = true) (new : key item ∉ held.map key) : deposit key takes held item = held ++ [item] :=
  if_pos ⟨taken,new⟩

theorem deposit_known (known : key item ∈ held.map key) : deposit key takes held item = held :=
  if_neg fun both => both.2 known

theorem deposit_refused (refused : takes item = false) : deposit key takes held item = held :=
  if_neg fun both => by simp [refused] at both

theorem depositAll_holds (listed : item ∈ held) : item ∈ depositAll key takes held items := by
  obtain ⟨kept,same,_⟩ := depositAll_kept key takes held items
  rw [same]
  exact List.mem_append_left kept listed

-- Every item is kept exactly when the table takes each and no key comes twice.
theorem depositAll_exact : depositAll key takes held items = held ++ items ↔
    (∀ item ∈ items, takes item = true ∧ key item ∉ held.map key) ∧ (items.map key).Nodup := by
  induction items generalizing held with
  | nil => simp [depositAll]
  | cons item items ih =>
    rw [depositAll,List.foldl_cons,←depositAll]
    by_cases both : takes item = true ∧ key item ∉ held.map key
    · rw [deposit_new both.1 both.2,List.append_cons held item items,ih]
      constructor
      · intro given
        obtain ⟨later,distinct⟩ := given
        refine ⟨List.forall_mem_cons.mpr ⟨both,fun other listed => ⟨(later other listed).1,fun known => ?_⟩⟩,?_⟩
        · exact (later other listed).2 (by simp [List.mem_map.mp known])
        · rw [List.map_cons,List.nodup_cons]
          refine ⟨fun repeated => ?_,distinct⟩
          obtain ⟨other,listed,same⟩ := List.mem_map.mp repeated
          exact (later other listed).2 (by simp [same])
      · intro given
        obtain ⟨each,distinct⟩ := given
        rw [List.map_cons,List.nodup_cons] at distinct
        refine ⟨fun other listed => ⟨(each other (.tail item listed)).1,fun known => ?_⟩,distinct.2⟩
        rw [List.map_append,List.mem_append] at known
        rcases known with before | now
        · exact (each other (.tail item listed)).2 before
        · rw [List.map_singleton,List.mem_singleton] at now
          exact distinct.1 (now ▸ List.mem_map_of_mem listed)
    · constructor
      · intro same
        -- An item is missing, so the table is too short.
        rw [deposit,if_neg both] at same
        obtain ⟨kept,split,part⟩ := depositAll_kept key takes held items
        rw [split] at same
        have long := congrArg List.length (List.append_cancel_left same)
        have short := part.length_le
        rw [List.length_cons] at long
        omega
      · intro given
        exact absurd (given.1 item (.head items)) both

theorem depositAll_keys (listed : item ∈ items) (taken : takes item = true) : key item ∈ (depositAll key takes held items).map key := by
  induction items generalizing held with
  | nil => cases listed
  | cons first rest ih =>
    rw [depositAll,List.foldl_cons,←depositAll]
    cases listed with
    | tail _ later => exact ih later
    | head =>
      by_cases known : key item ∈ held.map key
      · rw [deposit_known known]
        obtain ⟨other,there,same⟩ := List.mem_map.mp known
        exact List.mem_map.mpr ⟨other,depositAll_holds there,same⟩
      · rw [deposit_new taken known]
        exact List.mem_map_of_mem (depositAll_holds (by simp))

end VeritasOs.KeyedTable
