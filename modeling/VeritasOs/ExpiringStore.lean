import Mathlib.Data.List.Nodup
import Mathlib.Order.Lattice

namespace VeritasOs.ExpiringStore

-- Keys that are remembered until a time, the oldest first. The store is of bounded size:
-- what has expired is dropped first, then what is oldest.

abbrev Store (κ T : Type) := List (κ × T)

section Operations
variable {κ T : Type} [DecidableEq κ] [LinearOrder T]

def keys (store : Store κ T) : List κ := store.map Prod.fst

def expire (now : T) (store : Store κ T) : Store κ T := store.filter fun entry => decide (now ≤ entry.2)

def evict (most : Nat) (store : Store κ T) : Store κ T := store.drop (store.length - most)

def clean (most : Nat) (now : T) (store : Store κ T) : Store κ T := evict most (expire now store)

def register (most : Nat) (now until_ : T) (key : κ) (store : Store κ T) : Bool × Store κ T :=
  if key ∈ keys (clean most now store) then (false,clean most now store)
  else (true,clean most now store ++ [(key,until_)])

variable {most : Nat} {now until_ : T} {key : κ} {store : Store κ T}

omit [DecidableEq κ] in
theorem clean_within (room : store.length ≤ most) : clean most now store = expire now store := by
  have few : (expire now store).length ≤ most := Nat.le_trans (List.length_filter_le _ _) room
  rw [clean,evict,Nat.sub_eq_zero_of_le few,List.drop_zero]

omit [DecidableEq κ] in
theorem clean_keeps (room : store.length ≤ most) (listed : (key,until_) ∈ store) (early : now ≤ until_) :
    (key,until_) ∈ clean most now store := by
  rw [clean_within room]
  exact List.mem_filter.mpr ⟨listed,decide_eq_true early⟩

theorem register_keeps (room : store.length ≤ most) (listed : (key,until_) ∈ store) (early : now ≤ until_) :
    (key,until_) ∈ (register most now later other store).2 := by
  have kept := clean_keeps room listed early
  unfold register
  split
  · exact kept
  · exact List.mem_append_left _ kept

theorem register_known (room : store.length ≤ most) (listed : (key,until_) ∈ store) (early : now ≤ until_) :
    (register most now later key store).1 = false := by
  have known : key ∈ keys (clean most now store) := List.mem_map_of_mem (clean_keeps room listed early)
  rw [register,if_pos known]

theorem register_new (registered : (register most now until_ key store).1 = true) :
    key ∉ keys (clean most now store) ∧ (register most now until_ key store).2 = clean most now store ++ [(key,until_)] := by
  unfold register at registered ⊢
  split at registered
  · cases registered
  · rename_i fresh
    rw [if_neg fresh]
    exact ⟨fresh,rfl⟩

theorem register_listed (registered : (register most now until_ key store).1 = true) :
    (key,until_) ∈ (register most now until_ key store).2 := by
  rw [(register_new registered).2]
  exact List.mem_append_right _ (List.mem_singleton_self _)

theorem register_again (registered : (register most now until_ key store).1 = true)
    (room : (register most now until_ key store).2.length ≤ most) (ended : until_ < later) :
    (register most later last key (register most now until_ key store).2).1 = true := by
  obtain ⟨fresh,made⟩ := register_new registered
  have gone : key ∉ keys (clean most later (register most now until_ key store).2) := by
    rw [clean_within room,made,expire,List.filter_append,keys,List.map_append,List.mem_append]
    rintro (old | new)
    · exact fresh (((List.filter_sublist).map Prod.fst).subset old)
    · simp [ended] at new
  rw [register,if_neg gone]

end Operations

end VeritasOs.ExpiringStore
