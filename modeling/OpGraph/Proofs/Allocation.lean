import Mathlib.Data.Finmap
import Mathlib.Order.Bounds.Defs
import OpGraph.Proofs.Storage

namespace OpGraph.Store

/-! Stores as finite maps.  What a store answers, call after call, is what a finite map answers that
gives out the least index it does not use.  The slots and the free indices say the same of every
index, so that nothing is left of them that a call could tell from the map. -/

variable {α : Type u}

inductive Call (α : Type u) where
  | insert (element : α)
  | erase (index : Nat)

inductive Reply (α : Type u) where
  | index (index : Nat)
  | element (found : Option α)
deriving DecidableEq

/-- An insertion replies with the index that it gives out, an erasure with the element that it takes
out, if there is one. -/
def perform (store : Store α) : Call α → Reply α × Store α
  | .insert element => (.index store.nextIndex, store.insert element)
  | .erase index => (.element (store.get? index), store.erase index)

def performAll (store : Store α) : List (Call α) → List (Reply α) × Store α
  | [] => ([], store)
  | call :: rest =>
      let (reply, next) := store.perform call
      let (replies, last) := next.performAll rest
      (reply :: replies, last)

/-- The elements by their indices. -/
abbrev Contents (α : Type u) := Finmap fun _ : Nat => α

namespace Contents

/-- What a finite map replies to a call, and what becomes of it. -/
inductive Performs (map : Contents α) : Call α → Reply α → Contents α → Prop where
  | insert {element : α} {index : Nat} (least : IsLeast {index | index ∉ map} index) :
      Performs map (.insert element) (.index index) (map.insert index element)
  | erase {element : α} {index : Nat} (stored : map.lookup index = some element) :
      Performs map (.erase index) (.element (some element)) (map.erase index)
  | pass {index : Nat} (unused : index ∉ map) : Performs map (.erase index) (.element none) map

inductive PerformsAll : Contents α → List (Call α) → List (Reply α) → Contents α → Prop where
  | nil {map : Contents α} : PerformsAll map [] [] map
  | cons {map next last : Contents α} {call : Call α} {reply : Reply α} {calls : List (Call α)}
      {replies : List (Reply α)} (first : map.Performs call reply next)
      (later : PerformsAll next calls replies last) :
      PerformsAll map (call :: calls) (reply :: replies) last

end Contents

/-- A sound store with the elements of a finite map. -/
structure Represents (store : Store α) (map : Contents α) : Prop where
  sound : store.Sound
  get?_eq : ∀ index, store.get? index = map.lookup index

variable {store : Store α} {map : Contents α} {index : Nat}

theorem represents_empty : (empty : Store α).Represents ∅ :=
  ⟨sound_empty, fun _ => rfl⟩

theorem erase_of_get? (unused : store.get? index = none) : store.erase index = store := by
  have absent : store.contains index = false := contains_eq_false_iff.mpr unused
  simp [erase, absent]

namespace Represents

theorem get?_eq_none_iff (represents : store.Represents map) :
    store.get? index = none ↔ index ∉ map := by
  rw [represents.get?_eq, Finmap.lookup_eq_none]

theorem contains_iff (represents : store.Represents map) : store.contains index ↔ index ∈ map := by
  rw [contains, represents.get?_eq, Finmap.lookup_isSome]

theorem mem_indices (represents : store.Represents map) : index ∈ store.indices ↔ index ∈ map :=
  Store.mem_indices.trans represents.contains_iff

theorem isLeast_nextIndex (represents : store.Represents map) :
    IsLeast {index | index ∉ map} store.nextIndex := by
  refine ⟨represents.get?_eq_none_iff.mp represents.sound.get?_nextIndex, fun index unused => ?_⟩
  refine Nat.le_of_not_lt fun below => unused ?_
  exact represents.contains_iff.mp (represents.sound.contains_of_lt_nextIndex below)

theorem size_eq (represents : store.Represents map) : store.size = map.keys.card := by
  have same : store.indices.toFinset = map.keys := by
    ext index
    rw [List.mem_toFinset, represents.mem_indices, Finmap.mem_keys]
  rw [represents.sound.size_eq, ← same, List.toFinset_card_of_nodup store.nodup_indices]

theorem insert (represents : store.Represents map) (element : α) :
    (store.insert element).Represents (map.insert store.nextIndex element) where
  sound := represents.sound.insert element
  get?_eq := by
    intro index
    rw [represents.sound.get?_insert]
    by_cases given : index = store.nextIndex
    · rw [if_pos given, given, Finmap.lookup_insert]
    · rw [if_neg given, Finmap.lookup_insert_of_ne _ given, represents.get?_eq]

theorem erase (represents : store.Represents map) (index : Nat) :
    (store.erase index).Represents (map.erase index) where
  sound := represents.sound.erase index
  get?_eq := by
    intro other
    rw [get?_erase]
    by_cases same : other = index
    · rw [if_pos same, same, Finmap.lookup_erase]
    · rw [if_neg same, Finmap.lookup_erase_ne same, represents.get?_eq]

theorem perform (represents : store.Represents map) (call : Call α) :
    ∃ next, map.Performs call (store.perform call).1 next ∧
      (store.perform call).2.Represents next := by
  cases call with
  | insert element =>
      exact ⟨_, .insert represents.isLeast_nextIndex, represents.insert element⟩
  | erase index =>
      cases found : store.get? index with
      | none =>
          have unused : index ∉ map := represents.get?_eq_none_iff.mp found
          rw [Store.perform, found, erase_of_get? found]
          exact ⟨map, .pass unused, represents⟩
      | some element =>
          refine ⟨map.erase index, ?_, represents.erase index⟩
          rw [Store.perform, found]
          exact .erase ((represents.get?_eq index).symm.trans found)

theorem performAll (represents : store.Represents map) (calls : List (Call α)) :
    ∃ last, map.PerformsAll calls (store.performAll calls).1 last ∧
      (store.performAll calls).2.Represents last := by
  induction calls generalizing store map with
  | nil => exact ⟨map, .nil, represents⟩
  | cons call rest ih =>
      obtain ⟨next, first, representsNext⟩ := represents.perform call
      obtain ⟨last, later, representsLast⟩ := ih representsNext
      exact ⟨last, .cons first later, representsLast⟩

end Represents

/-- Whatever calls were made of an empty store, it has replied as a finite map does, it is of that
map's size, lists its indices in ascending order, and has as free ones those of its empty slots.
The next call is again one to that map, and the erasure of an index that is not in use changes
nothing of the store. -/
theorem performAll_refines (calls : List (Call α)) :
    let store := ((empty : Store α).performAll calls).2
    ∃ map, Contents.PerformsAll ∅ calls ((empty : Store α).performAll calls).1 map ∧
      (∀ index, store.get? index = map.lookup index) ∧
      (∀ index, index ∈ store.free ↔
        index < store.slots.size ∧ store.get? index = none) ∧
      store.size = map.keys.card ∧
      store.indices.Pairwise (· < ·) ∧ (∀ index, index ∈ store.indices ↔ index ∈ map) ∧
      (∀ call, ∃ next, map.Performs call (store.perform call).1 next ∧
        ∀ index, (store.perform call).2.get? index = next.lookup index) ∧
      ∀ index, index ∉ map → store.erase index = store := by
  obtain ⟨map, performed, represents⟩ := represents_empty.performAll calls
  refine ⟨map, performed, represents.get?_eq, represents.sound, represents.size_eq,
    pairwise_indices _, fun _ => represents.mem_indices, fun call => ?_, fun index unused => ?_⟩
  · obtain ⟨next, performs, representsNext⟩ := represents.perform call
    exact ⟨next, performs, representsNext.get?_eq⟩
  · exact erase_of_get? (represents.get?_eq_none_iff.mpr unused)

example : (empty.performAll [.insert "a", .insert "b", .insert "c", .erase 1, .erase 1, .erase 7,
    .insert "d"]).1 = [.index 0, .index 1, .index 2, .element (some "b"), .element none,
      .element none, .index 1] := by
  decide +kernel

end OpGraph.Store
