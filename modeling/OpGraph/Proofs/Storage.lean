import Mathlib.Data.List.Basic
import OpGraph.Store

namespace OpGraph.Store

/-! Sound stores.  The free indices of a store are data of their own, redundant with its slots; what
an insertion does is known only as long as the two agree. -/

variable {α : Type u} {store : Store α} {index : Nat}

/-- The free indices are exactly those of the emptied slots. -/
def Sound (store : Store α) : Prop :=
  ∀ index, index ∈ store.free ↔ index < store.slots.size ∧ store.get? index = none

theorem sound_empty : (empty : Store α).Sound := by
  intro index
  simp [empty]

theorem contains_eq_false_iff : store.contains index = false ↔ store.get? index = none := by
  simp [contains]

theorem contains_of_get? {element : α} (found : store.get? index = some element) :
    store.contains index = true := by
  simp [contains, found]

theorem mem_free_of_lowestFree? (lowest : store.lowestFree? = some index) :
    index ∈ store.free :=
  Std.ExtTreeSet.mem_toList.mp (List.mem_of_mem_head? lowest)

theorem not_mem_free_of_lowestFree? (lowest : store.lowestFree? = none) : index ∉ store.free := by
  intro isFree
  have listed := Std.ExtTreeSet.mem_toList.mpr isFree
  rw [List.head?_eq_none_iff.mp lowest] at listed
  cases listed

theorem get?_of_size_le (outside : store.slots.size ≤ index) : store.get? index = none := by
  simp [get?, Array.getElem?_eq_none outside]

theorem Sound.lowestFree?_lt (sound : store.Sound) (lowest : store.lowestFree? = some index) :
    index < store.slots.size :=
  ((sound index).mp (mem_free_of_lowestFree? lowest)).1

theorem Sound.nextIndex_le (sound : store.Sound) : store.nextIndex ≤ store.slots.size := by
  unfold nextIndex
  cases lowest : store.lowestFree? with
  | none => exact Nat.le_refl _
  | some index => exact Nat.le_of_lt (sound.lowestFree?_lt lowest)

theorem Sound.get?_nextIndex (sound : store.Sound) : store.get? store.nextIndex = none := by
  cases lowest : store.lowestFree? with
  | none =>
      have behind : store.nextIndex = store.slots.size := by simp [nextIndex, lowest]
      exact get?_of_size_le (Nat.le_of_eq behind.symm)
  | some index =>
      have reused : store.nextIndex = index := by simp [nextIndex, lowest]
      rw [reused]
      exact ((sound index).mp (mem_free_of_lowestFree? lowest)).2

theorem Sound.get?_insert (sound : store.Sound) (element : α) (index : Nat) :
    (store.insert element).get? index =
      if index = store.nextIndex then some element else store.get? index := by
  cases lowest : store.lowestFree? with
  | none =>
      simp only [insert, nextIndex, lowest, Option.getD_none, get?, Array.getElem?_push]
      split <;> rfl
  | some free =>
      have inBounds := sound.lowestFree?_lt lowest
      simp only [insert, nextIndex, lowest, Option.getD_some, get?]
      by_cases same : index = free
      · subst same
        simp [inBounds]
      · simp [same, Ne.symm same]

theorem Sound.insert (sound : store.Sound) (element : α) : (store.insert element).Sound := by
  intro index
  rw [sound.get?_insert]
  cases lowest : store.lowestFree? with
  | none =>
      have behind : store.nextIndex = store.slots.size := by simp [nextIndex, lowest]
      simp only [Store.insert, lowest, Array.size_push, sound index]
      by_cases same : index = store.nextIndex
      · simp [same, behind]
      · rw [if_neg same]
        refine and_congr_left fun _ => ?_
        omega
  | some free =>
      have reused : store.nextIndex = free := by simp [nextIndex, lowest]
      simp only [Store.insert, lowest, Array.size_setIfInBounds, Std.ExtTreeSet.mem_erase,
        sound index, reused]
      by_cases same : index = free
      · simp [same]
      · simp [same, Ne.symm same]

theorem pairwise_entries (store : Store α) :
    store.entries.Pairwise fun first second => first.1 < second.1 := by
  have ascending : store.slots.toList.zipIdx.Pairwise fun first second => first.2 < second.2 := by
    rw [← List.pairwise_map (R := (· < ·)), List.zipIdx_map_snd]
    exact List.pairwise_lt_range'
  apply List.pairwise_filterMap.mpr (ascending.imp _)
  intro first second before _ found _ otherFound
  obtain ⟨_, _, rfl⟩ := Option.map_eq_some_iff.mp found
  obtain ⟨_, _, rfl⟩ := Option.map_eq_some_iff.mp otherFound
  exact before

theorem pairwise_indices (store : Store α) : store.indices.Pairwise (· < ·) :=
  List.pairwise_map.mpr store.pairwise_entries

theorem nodup_indices (store : Store α) : store.indices.Nodup :=
  store.pairwise_indices.imp Nat.ne_of_lt

theorem indices_eq_of_contains {first second : Store α}
    (agree : ∀ index, first.contains index = second.contains index) :
    first.indices = second.indices := by
  apply List.Perm.eq_of_pairwise _ first.pairwise_indices second.pairwise_indices
  · apply (List.perm_ext_iff_of_nodup first.nodup_indices second.nodup_indices).mpr
    intro index
    rw [mem_indices, mem_indices, agree]
  · intro index other _ _ before after
    omega

theorem entries_eq_of_get? {first second : Store α}
    (agree : ∀ index, first.get? index = second.get? index) : first.entries = second.entries := by
  have once : ∀ store : Store α, store.entries.Nodup := by
    intro store
    apply store.pairwise_entries.imp
    intro first second before same
    exact Nat.ne_of_lt before (congrArg Prod.fst same)
  apply List.Perm.eq_of_pairwise _ first.pairwise_entries second.pairwise_entries
  · apply (List.perm_ext_iff_of_nodup (once first) (once second)).mpr
    rintro ⟨index, element⟩
    rw [mem_entries, mem_entries, agree]
  · intro entry other _ _ before after
    omega

theorem Sound.contains_of_lt_nextIndex (sound : store.Sound) (below : index < store.nextIndex) :
    store.contains index := by
  by_contra absent
  have unused : store.get? index = none := contains_eq_false_iff.mp (by simpa using absent)
  cases lowest : store.lowestFree? with
  | none =>
      have behind : store.nextIndex = store.slots.size := by simp [nextIndex, lowest]
      exact absurd ((sound index).mpr ⟨by omega, unused⟩) (not_mem_free_of_lowestFree? lowest)
  | some free =>
      have reused : store.nextIndex = free := by simp [nextIndex, lowest]
      have inBounds := sound.lowestFree?_lt lowest
      have isFree := (sound index).mpr ⟨by omega, unused⟩
      have listed := Std.ExtTreeSet.mem_toList.mpr isFree
      have ordered := Std.ExtTreeSet.ordered_toList (t := store.free)
      obtain ⟨rest, split⟩ := List.head?_eq_some_iff.mp lowest
      rw [split] at listed ordered
      rcases List.mem_cons.mp listed with same | later
      · omega
      · have above := List.rel_of_pairwise_cons ordered later
        rw [Nat.compare_eq_lt] at above
        omega

theorem Sound.perm_free (sound : store.Sound) :
    store.free.toList.Perm ((List.range store.slots.size).filter (! store.contains ·)) := by
  have once : store.free.toList.Nodup := by
    simpa [List.Nodup] using Std.ExtTreeSet.distinct_toList (t := store.free)
  apply (List.perm_ext_iff_of_nodup once (List.nodup_range.filter _)).mpr
  intro index
  simp [sound index, ← contains_eq_false_iff]

theorem perm_indices (store : Store α) :
    store.indices.Perm ((List.range store.slots.size).filter store.contains) := by
  apply (List.perm_ext_iff_of_nodup store.nodup_indices (List.nodup_range.filter _)).mpr
  intro index
  simpa [mem_indices] using lt_size_of_contains

theorem Sound.size_free_le (sound : store.Sound) : store.free.size ≤ store.slots.size := by
  have bounded := List.length_filter_le (! store.contains ·) (List.range store.slots.size)
  rw [← sound.perm_free.length_eq] at bounded
  simpa using bounded

theorem Sound.size_eq (sound : store.Sound) : store.size = store.indices.length := by
  have parts := List.length_eq_length_filter_add (l := List.range store.slots.size) store.contains
  rw [← store.perm_indices.length_eq, ← sound.perm_free.length_eq, List.length_range,
    Std.ExtTreeSet.length_toList] at parts
  unfold size
  omega

theorem Sound.size_insert (sound : store.Sound) (element : α) :
    (store.insert element).size = store.size + 1 := by
  have bounded := sound.size_free_le
  cases lowest : store.lowestFree? with
  | none =>
      simp only [Store.insert, Store.size, lowest, Array.size_push]
      omega
  | some free =>
      have isFree : store.free.contains free = true := mem_free_of_lowestFree? lowest
      have occupied : store.free.size ≠ 0 := by
        intro none
        have empty : store.free.toList = [] :=
          List.length_eq_zero_iff.mp (Std.ExtTreeSet.length_toList.trans none)
        simp [lowestFree?, empty] at lowest
      simp only [Store.insert, Store.size, lowest, Array.size_setIfInBounds,
        Std.ExtTreeSet.size_erase, isFree, if_true]
      omega

theorem Sound.replace (sound : store.Sound) (index : Nat) (element : α) :
    (store.replace index element).Sound := by
  intro other
  rw [get?_replace]
  unfold Store.replace
  split
  · next stored =>
      have used : store.get? index ≠ none := by
        simpa [contains, Option.isSome_iff_ne_none] using stored
      by_cases same : other = index
      · simp [same, sound index, used, stored]
      · simp [same, sound other]
  · next absent => simpa [absent] using sound other

theorem Sound.erase (sound : store.Sound) (index : Nat) : (store.erase index).Sound := by
  intro other
  rw [get?_erase]
  unfold Store.erase
  split
  · next stored =>
      have inBounds := lt_size_of_contains stored
      by_cases same : other = index
      · simp [same, inBounds]
      · simp [same, Ne.symm same, sound other]
  · next absent =>
      have unused : store.get? index = none := contains_eq_false_iff.mp (by simpa using absent)
      by_cases same : other = index
      · simp [same, sound index, unused]
      · simp [same, sound other]

theorem Sound.size_erase (sound : store.Sound) (stored : store.contains index) :
    (store.erase index).size + 1 = store.size := by
  have bounded := (sound.erase index).size_free_le
  have used : store.get? index ≠ none := by
    simpa [contains, Option.isSome_iff_ne_none] using stored
  have isNew : store.free.contains index = false := by
    refine Bool.eq_false_iff.mpr fun isFree => used ?_
    exact ((sound index).mp isFree).2
  simp only [Store.erase, stored, if_true, Store.size, Array.size_setIfInBounds,
    Std.ExtTreeSet.size_insert, isNew, Bool.false_eq_true, if_false] at bounded ⊢
  omega

theorem free_replace (store : Store α) (index : Nat) (element : α) :
    (store.replace index element).free = store.free := by
  unfold replace
  split <;> rfl

theorem size_slots_replace (store : Store α) (index : Nat) (element : α) :
    (store.replace index element).slots.size = store.slots.size := by
  unfold replace
  split <;> simp

theorem size_slots_erase (store : Store α) (index : Nat) :
    (store.erase index).slots.size = store.slots.size := by
  unfold erase
  split <;> simp

theorem size_slots_insert_eq_iff (store : Store α) (element : α) :
    (store.insert element).slots.size = store.slots.size ↔ ∃ index, index ∈ store.free := by
  cases lowest : store.lowestFree? with
  | none =>
      have full : ¬ ∃ index, index ∈ store.free := fun ⟨_, isFree⟩ =>
        not_mem_free_of_lowestFree? lowest isFree
      simp only [insert, lowest, Array.size_push, full, iff_false]
      omega
  | some index =>
      simp only [insert, lowest, Array.size_setIfInBounds, true_iff]
      exact ⟨index, mem_free_of_lowestFree? lowest⟩

theorem get?_eq_getElem {index : Nat} (inBounds : index < store.slots.size) :
    store.get? index = store.slots[index] := by
  simp [get?, inBounds]

end OpGraph.Store
