import OpGraph.Proofs.Traversal
import OpGraph.Session

namespace OpGraph

/-! Graphs that differ in free slots only.  Such graphs have the same next index, since it is the
lowest that is not in use, and the same reads, since their index is determined by the nodes.  So
they give the same answers. -/

namespace Store

/-- Two sound stores of the same elements. -/
structure Alike (store other : Store α) : Prop where
  sound : store.Sound
  otherSound : other.Sound
  get?_eq : ∀ index, store.get? index = other.get? index

namespace Alike

variable {store other : Store α}

theorem contains_eq (alike : store.Alike other) (index : Nat) :
    store.contains index = other.contains index := by
  rw [contains, contains, alike.get?_eq]

theorem nextIndex_eq (alike : store.Alike other) : store.nextIndex = other.nextIndex := by
  have unused := contains_eq_false_iff.mpr alike.sound.get?_nextIndex
  have otherUnused := contains_eq_false_iff.mpr alike.otherSound.get?_nextIndex
  apply Nat.le_antisymm
  · apply Nat.le_of_not_lt
    intro below
    have used := alike.sound.contains_of_lt_nextIndex below
    cases otherUnused.symm.trans ((alike.contains_eq _).symm.trans used)
  · apply Nat.le_of_not_lt
    intro below
    have used := alike.otherSound.contains_of_lt_nextIndex below
    cases unused.symm.trans ((alike.contains_eq _).trans used)

theorem entries_eq (alike : store.Alike other) : store.entries = other.entries :=
  entries_eq_of_get? alike.get?_eq

theorem indices_eq (alike : store.Alike other) : store.indices = other.indices :=
  congrArg (List.map Prod.fst) alike.entries_eq

theorem size_eq (alike : store.Alike other) : store.size = other.size := by
  rw [alike.sound.size_eq, alike.otherSound.size_eq, alike.indices_eq]

theorem eq_iff (alike : store.Alike other) :
    store = other ↔ store.slots.size = other.slots.size := by
  refine ⟨fun same => same ▸ rfl, fun sameSize => ?_⟩
  have slots : store.slots = other.slots := by
    refine Array.ext sameSize fun index inBounds otherInBounds => ?_
    rw [← get?_eq_getElem inBounds, ← get?_eq_getElem otherInBounds, alike.get?_eq]
  have free : store.free = other.free := by
    refine Std.ExtTreeSet.ext_mem fun index => ?_
    rw [alike.sound index, alike.otherSound index, sameSize, alike.get?_eq]
  obtain ⟨storeSlots, storeFree⟩ := store
  exact congrArg₂ Store.mk slots free

theorem insert (alike : store.Alike other) (element : α) :
    (store.insert element).Alike (other.insert element) where
  sound := alike.sound.insert element
  otherSound := alike.otherSound.insert element
  get?_eq := by
    intro index
    rw [alike.sound.get?_insert, alike.otherSound.get?_insert, alike.nextIndex_eq, alike.get?_eq]

theorem replace (alike : store.Alike other) (index : Nat) (element : α) :
    (store.replace index element).Alike (other.replace index element) where
  sound := alike.sound.replace index element
  otherSound := alike.otherSound.replace index element
  get?_eq := by
    intro place
    rw [get?_replace, get?_replace, alike.contains_eq, alike.get?_eq]

theorem erase (alike : store.Alike other) (index : Nat) :
    (store.erase index).Alike (other.erase index) where
  sound := alike.sound.erase index
  otherSound := alike.otherSound.erase index
  get?_eq := by
    intro place
    rw [get?_erase, get?_erase, alike.get?_eq]

end Alike

end Store

namespace Graph

/-- Two graphs of the same nodes, which may differ in the free slots of their storage. -/
structure Alike (graph other : Graph) : Prop where
  nodes : graph.nodes.Alike other.nodes
  uses : graph.uses = other.uses

variable {graph other : Graph}

theorem WellFormed.alike (wellFormed : graph.WellFormed) (otherFormed : other.WellFormed)
    (agree : ∀ id, graph.entry? id = other.entry? id) : graph.Alike other where
  nodes := ⟨wellFormed.storage, otherFormed.storage, agree⟩
  uses := by
    apply wellFormed.tight.ext otherFormed.tight
    intro read
    rw [wellFormed.indexed, otherFormed.indexed]
    simp only [Makes, agree]

namespace Alike

theorem eq_iff (alike : graph.Alike other) :
    graph = other ↔ graph.nodes.slots.size = other.nodes.slots.size := by
  rw [← alike.nodes.eq_iff]
  refine ⟨congrArg Graph.nodes, fun sameNodes => ?_⟩
  obtain ⟨nodes, uses⟩ := graph
  exact congrArg₂ Graph.mk sameNodes alike.uses

theorem entry?_eq (alike : graph.Alike other) : graph.entry? = other.entry? :=
  funext alike.nodes.get?_eq

theorem node?_eq (alike : graph.Alike other) : graph.node? = other.node? := by
  funext id
  rw [node?, node?, alike.entry?_eq]

theorem name?_eq (alike : graph.Alike other) : graph.name? = other.name? := by
  funext id
  rw [name?, name?, alike.entry?_eq]

theorem type?_eq (alike : graph.Alike other) : graph.type? = other.type? := by
  funext value
  rw [type?, type?, alike.entry?_eq]

theorem contains_eq (alike : graph.Alike other) : graph.contains = other.contains :=
  funext alike.nodes.contains_eq

theorem sources_eq (alike : graph.Alike other) : graph.sources = other.sources := by
  funext id
  rw [sources, sources, alike.node?_eq]

theorem users_eq (alike : graph.Alike other) : graph.users = other.users := by
  funext value
  rw [users, users, alike.uses]

theorem useCount_eq (alike : graph.Alike other) : graph.useCount = other.useCount := by
  funext value
  rw [useCount, useCount, alike.users_eq]

theorem hasUses_eq (alike : graph.Alike other) : graph.hasUses = other.hasUses := by
  funext id
  rw [hasUses, hasUses, alike.uses]

theorem ids_eq (alike : graph.Alike other) : graph.ids = other.ids :=
  alike.nodes.indices_eq

theorem size_eq (alike : graph.Alike other) : graph.size = other.size :=
  alike.nodes.size_eq

theorem nodesNamed_eq (alike : graph.Alike other) : graph.nodesNamed = other.nodesNamed := by
  funext name
  rw [nodesNamed, nodesNamed, alike.nodes.entries_eq]

theorem dot_eq (alike : graph.Alike other) : graph.dot = other.dot := by
  rw [dot, dot, alike.nodes.entries_eq]

theorem flaw?_eq (alike : graph.Alike other) : graph.flaw? = other.flaw? := by
  have entryFlaws : graph.entryFlaw? = other.entryFlaw? := by
    funext id entry
    simp only [entryFlaw?, alike.type?_eq]
  have reads : graph.allReads = other.allReads := by
    rw [allReads, allReads, alike.nodes.entries_eq]
  have indexFlaws : graph.indexFlaw? = other.indexFlaw? := by
    rw [indexFlaw?, indexFlaw?, alike.uses, reads]
  rw [flaw?, flaw?, entryFlaws, indexFlaws, alike.nodes.entries_eq]

theorem step?_eq (alike : graph.Alike other) (search : Traversal) :
    search.step? graph = search.step? other := by
  simp only [Traversal.step?, Traversal.marksOf, alike.contains_eq, alike.sources_eq]

theorem finish_eq (alike : graph.Alike other) (search : Traversal) :
    search.finish graph = search.finish other := by
  fun_induction Traversal.finish graph search with
  | case1 search ended =>
      rw [alike.step?_eq] at ended
      rw [Traversal.finish_of_done ended]
  | case2 search next stepped ih =>
      rw [alike.step?_eq] at stepped
      rw [ih, Traversal.finish_of_step? stepped]

theorem topologicalOrder_eq (alike : graph.Alike other) :
    graph.topologicalOrder = other.topologicalOrder := by
  have searches : Traversal.searchFrom graph = Traversal.searchFrom other := by
    funext search root
    exact alike.finish_eq _
  rw [topologicalOrder, topologicalOrder, searches, alike.ids_eq]

theorem answer_eq (alike : graph.Alike other) (query : Query) :
    query.answer graph = query.answer other := by
  cases query <;>
    simp only [Query.answer, isEmpty, alike.size_eq, alike.ids_eq, alike.node?_eq,
      alike.contains_eq, alike.hasUses_eq, alike.name?_eq, alike.nodesNamed_eq, alike.type?_eq,
      alike.users_eq, alike.useCount_eq, alike.topologicalOrder_eq, alike.dot_eq]

theorem insert (alike : graph.Alike other) (entry : Entry) :
    (graph.insert entry).Alike (other.insert entry) where
  nodes := alike.nodes.insert entry
  uses := by simp only [Graph.insert, alike.uses, alike.nodes.nextIndex_eq]

theorem erase (alike : graph.Alike other) (id : NodeId) :
    (graph.erase id).Alike (other.erase id) := by
  unfold Graph.erase
  rw [alike.node?_eq]
  split
  · exact alike
  · exact ⟨alike.nodes.erase id, by rw [alike.uses]⟩

end Alike

end Graph

end OpGraph
