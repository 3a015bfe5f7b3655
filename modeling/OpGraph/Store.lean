import Std.Data.ExtTreeSet

namespace OpGraph

/-! Index-stable storage.  An element keeps its index for as long as it is stored; the index of an
erased element is given out again, the lowest one first. -/

/-- Slots with the stored elements, and the indices of the slots that were emptied.  Two stores are
equal only if they also agree on their empty slots, the trailing ones included. -/
structure Store (α : Type u) where
  slots : Array (Option α)
  free : Std.ExtTreeSet Nat
deriving DecidableEq

namespace Store

variable {α : Type u}

def empty : Store α := ⟨#[], ∅⟩

instance : Inhabited (Store α) := ⟨empty⟩

def get? (store : Store α) (index : Nat) : Option α :=
  store.slots[index]?.join

def contains (store : Store α) (index : Nat) : Bool :=
  (store.get? index).isSome

/-- The number of stored elements: all slots but the emptied ones. -/
def size (store : Store α) : Nat :=
  store.slots.size - store.free.size

def entries (store : Store α) : List (Nat × α) :=
  store.slots.toList.zipIdx.filterMap fun (slot, index) => slot.map (index, ·)

def indices (store : Store α) : List Nat :=
  store.entries.map (·.1)

def lowestFree? (store : Store α) : Option Nat :=
  store.free.toList.head?

/-- The index that the next element gets: the lowest emptied slot, or else a slot of its own behind
all others. -/
def nextIndex (store : Store α) : Nat :=
  store.lowestFree?.getD store.slots.size

def insert (store : Store α) (element : α) : Store α :=
  match store.lowestFree? with
  | some index =>
      { slots := store.slots.setIfInBounds index (some element)
        free := store.free.erase index }
  | none => { store with slots := store.slots.push (some element) }

def replace (store : Store α) (index : Nat) (element : α) : Store α :=
  if store.contains index then
    { store with slots := store.slots.setIfInBounds index (some element) }
  else store

def erase (store : Store α) (index : Nat) : Store α :=
  if store.contains index then
    { slots := store.slots.setIfInBounds index none, free := store.free.insert index }
  else store

def live (store : Store α) : Nat :=
  store.slots.countP Option.isSome

theorem lt_size_of_contains {store : Store α} {index : Nat} (stored : store.contains index) :
    index < store.slots.size := by
  refine Decidable.byContradiction fun outside => ?_
  simp [contains, get?, Array.getElem?_eq_none (Nat.le_of_not_lt outside)] at stored

theorem get?_replace (store : Store α) (index other : Nat) (element : α) :
    (store.replace index element).get? other =
      if other = index ∧ store.contains index then some element else store.get? other := by
  unfold replace
  split
  · next stored =>
      have inBounds := lt_size_of_contains stored
      by_cases same : index = other
      · simp [get?, ← same, stored, inBounds]
      · simp [get?, same, Ne.symm same]
  · next absent => simp [absent]

theorem get?_erase (store : Store α) (index other : Nat) :
    (store.erase index).get? other = if other = index then none else store.get? other := by
  unfold erase
  split
  · next stored =>
      have inBounds := lt_size_of_contains stored
      by_cases same : index = other
      · simp [get?, ← same, inBounds]
      · simp [get?, same, Ne.symm same]
  · next absent =>
      by_cases same : other = index
      · simpa [same, contains] using absent
      · simp [same]

theorem mem_entries {store : Store α} {index : Nat} {element : α} :
    (index, element) ∈ store.entries ↔ store.get? index = some element := by
  simp [entries, get?, List.mem_zipIdx_iff_getElem?, Option.join_eq_some_iff]

theorem mem_indices {store : Store α} {index : Nat} :
    index ∈ store.indices ↔ store.contains index := by
  simp [indices, mem_entries, contains, Option.isSome_iff_exists]

theorem live_erase {store : Store α} {index : Nat} (stored : store.contains index) :
    (store.erase index).live + 1 = store.live := by
  have inBounds := lt_size_of_contains stored
  have used : store.slots[index].isSome := by
    simpa [contains, get?, Array.getElem?_eq_getElem inBounds] using stored
  have positive : 0 < store.slots.countP Option.isSome :=
    Array.countP_pos_iff.mpr ⟨_, Array.getElem_mem inBounds, used⟩
  simp only [erase, stored, if_true, live, Array.setIfInBounds_def, inBounds, dite_true,
    Array.countP_set, used, Option.isSome_none]
  simp
  omega

end Store

end OpGraph
