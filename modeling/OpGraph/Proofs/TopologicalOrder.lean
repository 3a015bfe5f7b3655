import OpGraph.Proofs.Acyclicity
import OpGraph.Proofs.Reachable
import OpGraph.Proofs.Traversal

namespace OpGraph

/-! In an acyclic graph the topological order lists every node after the nodes that it reads.  The
marks to leave form a chain of reads, so that a node that is read and was entered, but not emitted
yet, would close a cycle. -/

/-- The node that is to be entered or left. -/
def Mark.node : Mark → NodeId
  | .enter id => id
  | .leave id => id

namespace Traversal

variable {graph : Graph} {search next : Traversal} {id root source : NodeId} {rest : List Mark}

/-- What waits above a mark to leave is read by its node, directly or through others; what a node
reads is entered before the node is left, and emitted before it. -/
structure Nested (graph : Graph) (search : Traversal) : Prop where
  chained : search.pending.Pairwise fun upper lower =>
    ∀ id, lower = .leave id → Relation.TransGen graph.Reads id upper.node
  awaited : ∀ user source, .leave user ∈ search.pending → graph.Reads user source →
    source ∈ search.visited ∨ [.enter source, .leave user].Sublist search.pending
  settled : ∀ user source, user ∈ search.emitted → graph.Reads user source →
    [user, source].Sublist search.emitted

theorem nested_start (graph : Graph) : start.Nested graph :=
  ⟨.nil, by simp [start], by simp [start]⟩

theorem mem_marksOf {visited : Std.ExtTreeSet NodeId} {mark : Mark}
    (member : mark ∈ marksOf graph visited id) :
    (∃ source, graph.Reads id source ∧ mark = .enter source) ∨ mark = .leave id := by
  rcases List.mem_append.mp member with enters | leaves
  · obtain ⟨source, listed, rfl⟩ := List.mem_map.mp enters
    have reads : source ∈ graph.sources id :=
      (List.mem_filter.mp (List.mem_reverse.mp listed)).1
    exact .inl ⟨source, reads, rfl⟩
  · exact .inr (List.mem_singleton.mp leaves)

theorem chained_marksOf (graph : Graph) (visited : Std.ExtTreeSet NodeId) (id : NodeId) :
    (marksOf graph visited id).Pairwise fun upper lower =>
      ∀ user, lower = .leave user → Relation.TransGen graph.Reads user upper.node := by
  refine List.pairwise_append.mpr ⟨?_, List.pairwise_singleton _ _, ?_⟩
  · refine List.pairwise_of_forall_mem_list fun upper _ lower enters user leaves => ?_
    obtain ⟨source, _, rfl⟩ := List.mem_map.mp enters
    cases leaves
  · intro upper enters lower leaves user same
    obtain ⟨source, listed, rfl⟩ := List.mem_map.mp enters
    cases (List.mem_singleton.mp leaves).symm.trans same
    exact .single (List.mem_filter.mp (List.mem_reverse.mp listed)).1

theorem sublist_marksOf {visited : Std.ExtTreeSet NodeId}
    (reads : graph.Reads id source) (fresh : source ∉ visited) :
    [.enter source, .leave id].Sublist (marksOf graph visited id) := by
  have listed : source ∈ (graph.sources id).filter (· ∉ visited) :=
    List.mem_filter.mpr ⟨reads, by simpa using fresh⟩
  have enters : Mark.enter source ∈
      ((graph.sources id).filter (· ∉ visited)).reverse.map .enter :=
    List.mem_map_of_mem (List.mem_reverse.mpr listed)
  exact (List.singleton_sublist.mpr enters).append (.refl _)

namespace Nested

theorem path_to_top {mark : Mark} {user : NodeId} (nested : search.Nested graph)
    (pending : search.pending = mark :: rest) (below : .leave user ∈ rest) :
    Relation.TransGen graph.Reads user mark.node := by
  have chained := nested.chained
  rw [pending] at chained
  exact (List.pairwise_cons.mp chained).1 _ below user rfl

/-- In an acyclic graph a node is left only after all that it reads was emitted. -/
theorem sources_emitted (nested : search.Nested graph) (sound : search.Sound graph)
    (acyclic : graph.Acyclic) (pending : search.pending = .leave id :: rest)
    (reads : graph.Reads id source) : source ∈ search.emitted := by
  have visited : source ∈ search.visited := by
    refine (nested.awaited id source (by simp [pending]) reads).resolve_right fun waits => ?_
    rw [pending, List.sublist_cons_iff] at waits
    rcases waits with below | ⟨_, same, _⟩
    · exact acyclic id (nested.path_to_top pending (below.subset (by simp)))
    · cases same
  rcases List.mem_append.mp ((sound.mem_visited source).mp visited) with emitted | waits
  · exact emitted
  · have leaves : .leave source ∈ search.pending := by
      obtain ⟨mark, listed, left⟩ := List.mem_filterMap.mp waits
      cases mark <;> cases left
      exact listed
    rw [pending, List.mem_cons, Mark.leave.injEq] at leaves
    rcases leaves with rfl | below
    · exact absurd (.single reads) (acyclic source)
    · exact absurd ((nested.path_to_top pending below).tail reads) (acyclic source)

theorem step? (nested : search.Nested graph) (sound : search.Sound graph)
    (wellFormed : graph.WellFormed) (acyclic : graph.Acyclic)
    (stepped : search.step? graph = some next) : next.Nested graph := by
  have waits_rest : ∀ {mark rest user source}, search.pending = mark :: rest →
      .leave user ∈ rest → graph.Reads user source → source ∈ search.visited ∨
        mark = .enter source ∨ [.enter source, .leave user].Sublist rest := by
    intro mark rest user source pending member reads
    refine (nested.awaited user source (by simp [pending, member]) reads).imp_right fun waits => ?_
    rw [pending, List.sublist_cons_iff] at waits
    rcases waits with below | ⟨_, same, _⟩
    · exact .inr below
    · cases same
      exact .inl rfl
  rcases step?_cases stepped with ⟨id, rest, pending, rfl⟩ |
    ⟨id, rest, pending, stored, fresh, rfl⟩ | ⟨id, rest, pending, passes, rfl⟩
  · refine ⟨(pending ▸ nested.chained).of_cons, fun user source member reads => ?_,
      fun user source emitted reads => ?_⟩
    · exact (waits_rest pending member reads).imp_right (·.resolve_left nofun)
    · rcases List.mem_cons.mp emitted with rfl | earlier
      · have before := nested.sources_emitted sound acyclic pending reads
        exact (List.singleton_sublist.mpr before).cons_cons user
      · exact (nested.settled user source earlier reads).cons id
  · refine ⟨?_, fun user source member reads => ?_, nested.settled⟩
    · refine List.pairwise_append.mpr
        ⟨chained_marksOf graph _ id, (pending ▸ nested.chained).of_cons, ?_⟩
      intro upper added lower below user leaves
      have path := nested.path_to_top pending (leaves ▸ below)
      rcases mem_marksOf added with ⟨source, reads, rfl⟩ | rfl
      · exact path.tail reads
      · exact path
    · rcases List.mem_append.mp member with added | below
      · obtain rfl : user = id := by
          rcases mem_marksOf added with ⟨_, _, same⟩ | same <;> cases same
          rfl
        by_cases visited : source ∈ search.visited.insert user
        · exact .inl visited
        · exact .inr ((sublist_marksOf reads visited).trans (List.sublist_append_left _ _))
      · rcases waits_rest pending below reads with visited | same | waits
        · exact .inl (Std.ExtTreeSet.mem_insert.mpr (.inr visited))
        · cases same
          exact .inl Std.ExtTreeSet.mem_insert_self
        · exact .inr (waits.trans (List.sublist_append_right _ _))
  · refine ⟨(pending ▸ nested.chained).of_cons, fun user source member reads => ?_,
      nested.settled⟩
    rcases waits_rest pending member reads with visited | same | waits
    · exact .inl visited
    · cases same
      exact .inl (passes (wellFormed.contains_of_reads reads))
    · exact .inr waits

theorem searchFrom (nested : search.Nested graph) (sound : search.Sound graph)
    (idle : search.pending = []) (wellFormed : graph.WellFormed) (acyclic : graph.Acyclic)
    (root : NodeId) : (searchFrom graph search root).Nested graph := by
  have restarted : Nested graph { search with pending := [.enter root] } :=
    ⟨List.pairwise_singleton _ _, by simp, nested.settled⟩
  refine (finish_keeps (fun search => search.Sound graph ∧ search.Nested graph) _
    (fun search next stepped kept => ?_) ⟨sound.restart idle root, restarted⟩).2
  exact ⟨kept.1.step? stepped, kept.2.step? kept.1 wellFormed acyclic stepped⟩

theorem foldl_searchFrom (nested : search.Nested graph) (sound : search.Sound graph)
    (idle : search.pending = []) (wellFormed : graph.WellFormed) (acyclic : graph.Acyclic)
    (roots : List NodeId) : (roots.foldl (Traversal.searchFrom graph) search).Nested graph := by
  induction roots generalizing search with
  | nil => exact nested
  | cons root rest ih =>
      exact ih (nested.searchFrom sound idle wellFormed acyclic root) (sound.searchFrom idle root)
        (pending_finish _)

end Nested

end Traversal

theorem Graph.WellFormed.sublist_topologicalOrder {graph : Graph} {user source : NodeId}
    (wellFormed : graph.WellFormed) (acyclic : graph.Acyclic) (reads : graph.Reads user source) :
    [source, user].Sublist graph.topologicalOrder := by
  have nested := (Traversal.nested_start graph).foldl_searchFrom (Traversal.sound_start graph) rfl
    wellFormed acyclic graph.ids
  have listed : user ∈ graph.topologicalOrder := graph.mem_topologicalOrder.mpr reads.contains
  exact (nested.settled user source (List.mem_reverse.mp listed) reads).reverse

theorem idxOf_lt_of_sublist {ids : List NodeId} {first second : NodeId} (once : ids.Nodup)
    (before : [first, second].Sublist ids) : ids.idxOf first < ids.idxOf second := by
  induction ids with
  | nil => cases before
  | cons id rest ih =>
      obtain ⟨fresh, onceBelow⟩ := List.nodup_cons.mp once
      rcases List.sublist_cons_iff.mp before with below | ⟨_, same, below⟩
      · have firstBelow : first ≠ id := fun same => fresh (same ▸ below.subset (by simp))
        have secondBelow : second ≠ id := fun same => fresh (same ▸ below.subset (by simp))
        rw [List.idxOf_cons_ne _ firstBelow.symm, List.idxOf_cons_ne _ secondBelow.symm]
        exact Nat.succ_lt_succ (ih onceBelow below)
      · cases same
        have secondBelow : second ≠ first := fun same => fresh (same ▸ below.subset (by simp))
        rw [List.idxOf_cons_self, List.idxOf_cons_ne _ secondBelow.symm]
        exact Nat.succ_pos _

/-- The topological order of a graph that a session can lead to lists every node once, on cycles as
well, and nothing else.  It lists all nodes after those that they read exactly if no node is read on
a cycle: the positions of an order that does are a rank. -/
theorem Reachable.listed_once_and_sorted {graph : Graph} (reachable : Reachable graph) :
    (∀ id, graph.topologicalOrder.count id = if graph.contains id then 1 else 0) ∧
      (graph.Acyclic ↔ ∀ user source, graph.Reads user source →
        graph.topologicalOrder.idxOf source < graph.topologicalOrder.idxOf user) := by
  refine ⟨fun id => ?_, fun acyclic user source reads => ?_, graph.acyclic_of_rank _⟩
  · simp only [graph.nodup_topologicalOrder.count, graph.mem_topologicalOrder]
  · exact idxOf_lt_of_sublist graph.nodup_topologicalOrder
      (reachable.wellFormed.sublist_topologicalOrder acyclic reads)

namespace Session

/-- A product that takes the index of a removed node and reads a sum of a higher index. -/
def reusedIndex : List Command :=
  [.createInput "x" scalar, .createInput "unused" scalar,
    .createArithmetic "sum" ⟨0, 0⟩ ⟨0, 0⟩ .add, .remove 1,
    .createArithmetic "product" ⟨2, 0⟩ ⟨0, 0⟩ .mul]

/-- The product is listed after the sum.  Of a product and a gradient that read each other one comes
first, and both are listed. -/
theorem reusedIndex_sorted :
    let graph := run .empty reusedIndex
    let cyclic := run .empty cyclicGradient
    graph.Reads 1 2 ∧ graph.Acyclic ∧
      graph.topologicalOrder.idxOf 2 < graph.topologicalOrder.idxOf 1 ∧
        ¬ cyclic.Acyclic ∧ cyclic.topologicalOrder.count 3 = 1 ∧
          cyclic.topologicalOrder.count 4 = 1 := by
  have ordered := Reachable.listed_once_and_sorted (reachable_run .empty reusedIndex)
  have cyclicOrdered := Reachable.listed_once_and_sorted (reachable_run .empty cyclicGradient)
  have reads : 2 ∈ (run .empty reusedIndex).sources 1 := by decide +kernel
  have ranked : ∀ id ∈ (run .empty reusedIndex).ids, ∀ source ∈ (run .empty reusedIndex).sources id,
      [0, 2, 1].idxOf source < [0, 2, 1].idxOf id := by
    decide +kernel
  have acyclic : (run .empty reusedIndex).Acyclic := Graph.acyclic_of_rank _
    fun user source reads => ranked user (Store.mem_indices.mpr reads.contains) source reads
  have forth : 4 ∈ (run .empty cyclicGradient).sources 3 := by decide +kernel
  have back : 3 ∈ (run .empty cyclicGradient).sources 4 := by decide +kernel
  have cycle : ¬ (run .empty cyclicGradient).Acyclic := fun acyclic =>
    acyclic 3 (.tail (.single forth) back)
  have first : (run .empty cyclicGradient).contains 3 := by decide +kernel
  have second : (run .empty cyclicGradient).contains 4 := by decide +kernel
  exact ⟨reads, acyclic, ordered.2.mp acyclic 1 2 reads, cycle,
    (cyclicOrdered.1 3).trans (if_pos first), (cyclicOrdered.1 4).trans (if_pos second)⟩

end Session

end OpGraph
