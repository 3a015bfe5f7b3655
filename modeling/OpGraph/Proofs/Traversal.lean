import OpGraph.Graph.Traversal
import OpGraph.Proofs.WellFormed

namespace OpGraph

/-! The topological order lists every node once, also when nodes read each other in a cycle: a node
is entered once, and what was entered is emitted when its mark to leave is met. -/

namespace Traversal

variable {graph : Graph} {search next : Traversal} {id root : NodeId}

/-- The node that is emitted when a mark is met. -/
def leaving? : Mark → Option NodeId
  | .enter _ => none
  | .leave id => some id

/-- The nodes that were entered, those already emitted first. -/
def entered (search : Traversal) : List NodeId :=
  search.emitted ++ search.pending.filterMap leaving?

/-- The visited nodes are those that were entered; each of them exists and was entered once. -/
structure Sound (graph : Graph) (search : Traversal) : Prop where
  mem_visited : ∀ id, id ∈ search.visited ↔ id ∈ search.entered
  once : search.entered.Nodup
  present : ∀ id ∈ search.visited, graph.contains id

theorem sound_start (graph : Graph) : start.Sound graph :=
  ⟨by simp [start, entered], .nil, by simp [start]⟩

theorem filterMap_marksOf (graph : Graph) (visited : Std.ExtTreeSet NodeId) (id : NodeId) :
    (marksOf graph visited id).filterMap leaving? = [id] := by
  simp [marksOf, List.filterMap_append, List.filterMap_map, Function.comp_def, leaving?]

/-- A step leaves a node, enters a node that exists and was not entered before, or does nothing
but drop a mark. -/
theorem step?_cases (stepped : search.step? graph = some next) :
    (∃ id rest, search.pending = .leave id :: rest ∧
      next = ⟨rest, search.visited, id :: search.emitted⟩) ∨
    (∃ id rest, search.pending = .enter id :: rest ∧ graph.contains id ∧ id ∉ search.visited ∧
      next = ⟨marksOf graph (search.visited.insert id) id ++ rest, search.visited.insert id,
        search.emitted⟩) ∨
    (∃ id rest, search.pending = .enter id :: rest ∧ (graph.contains id → id ∈ search.visited) ∧
      next = ⟨rest, search.visited, search.emitted⟩) := by
  unfold step? at stepped
  split at stepped
  · cases stepped
  · next id rest pending =>
      cases stepped
      exact .inl ⟨id, rest, pending, rfl⟩
  · next id rest pending =>
      split at stepped
      · next enters =>
          cases stepped
          exact .inr (.inl ⟨id, rest, pending, enters.1, enters.2, rfl⟩)
      · next passes =>
          cases stepped
          refine .inr (.inr ⟨id, rest, pending, fun stored => ?_, rfl⟩)
          exact Decidable.byContradiction fun fresh => passes ⟨stored, fresh⟩

theorem Sound.step? (sound : search.Sound graph) (stepped : search.step? graph = some next) :
    next.Sound graph := by
  obtain ⟨member, once, present⟩ := sound
  rcases step?_cases stepped with ⟨id, rest, pending, rfl⟩ |
    ⟨id, rest, pending, stored, fresh, rfl⟩ | ⟨id, rest, pending, _, rfl⟩
  · have moved : List.Perm (entered ⟨rest, search.visited, id :: search.emitted⟩)
        search.entered := by
      simpa [entered, pending, List.filterMap_cons, leaving?] using List.perm_middle.symm
    exact ⟨fun other => (member other).trans moved.mem_iff.symm, moved.nodup_iff.mpr once, present⟩
  · have added : List.Perm (entered ⟨marksOf graph (search.visited.insert id) id ++ rest,
        search.visited.insert id, search.emitted⟩) (id :: search.entered) := by
      simp only [entered, pending, List.filterMap_append, filterMap_marksOf, List.filterMap_cons,
        leaving?]
      exact List.perm_middle
    refine ⟨fun other => ?_, ?_, fun other visited => ?_⟩
    · rw [added.mem_iff, List.mem_cons, ← member]
      simp [@eq_comm _ id]
    · rw [added.nodup_iff, List.nodup_cons, ← member]
      exact ⟨fresh, once⟩
    · rcases Std.ExtTreeSet.mem_insert.mp visited with same | visited
      · exact Std.LawfulEqOrd.eq_of_compare same ▸ stored
      · exact present other visited
  · have same : entered ⟨rest, search.visited, search.emitted⟩ = search.entered := by
      simp [entered, pending, List.filterMap_cons, leaving?]
    exact ⟨fun other => by rw [same, ← member], same ▸ once, present⟩

/-- A node that was visited stays visited, and one that is to be entered is entered in the end. -/
def Reaches (search : Traversal) (root : NodeId) : Prop :=
  root ∈ search.visited ∨ .enter root ∈ search.pending

theorem Reaches.step? (reaches : search.Reaches root) (stored : graph.contains root)
    (stepped : search.step? graph = some next) : next.Reaches root := by
  rcases step?_cases stepped with ⟨id, rest, pending, rfl⟩ |
    ⟨id, rest, pending, _, fresh, rfl⟩ | ⟨id, rest, pending, visited, rfl⟩
  · simpa [Reaches, pending] using reaches
  · rcases reaches with visited | waits
    · exact .inl (Std.ExtTreeSet.mem_insert.mpr (.inr visited))
    · rw [pending, List.mem_cons, Mark.enter.injEq] at waits
      rcases waits with rfl | waits
      · exact .inl Std.ExtTreeSet.mem_insert_self
      · exact .inr (List.mem_append_right _ waits)
  · rcases reaches with visited | waits
    · exact .inl visited
    · rw [pending, List.mem_cons, Mark.enter.injEq] at waits
      rcases waits with rfl | waits
      · exact .inl (visited stored)
      · exact .inr waits

theorem finish_of_done (ended : search.step? graph = none) : search.finish graph = search := by
  rw [finish]
  split
  · rfl
  · next stepped => cases ended.symm.trans stepped

theorem finish_of_step? (stepped : search.step? graph = some next) :
    search.finish graph = next.finish graph := by
  rw [finish]
  split
  · next ended => cases stepped.symm.trans ended
  · next later again => rw [Option.some.inj (stepped.symm.trans again)]

theorem finish_keeps (holds : Traversal → Prop) (search : Traversal)
    (step : ∀ search next, search.step? graph = some next → holds search → holds next)
    (initial : holds search) : holds (search.finish graph) := by
  fun_induction finish graph search with
  | case1 search ended => exact initial
  | case2 search next stepped ih => exact ih (step search next stepped initial)

theorem pending_of_ended (ended : search.step? graph = none) : search.pending = [] := by
  unfold step? at ended
  split at ended
  · assumption
  · cases ended
  · split at ended <;> cases ended

theorem pending_finish (search : Traversal) : (search.finish graph).pending = [] := by
  fun_induction finish graph search with
  | case1 search ended => exact pending_of_ended ended
  | case2 search next stepped ih => exact ih

theorem Sound.restart (sound : search.Sound graph) (idle : search.pending = []) (root : NodeId) :
    Sound graph { search with pending := [.enter root] } := by
  have restarted : entered { search with pending := [.enter root] } = search.entered := by
    simp [entered, idle, List.filterMap_cons, leaving?]
  exact ⟨fun id => by rw [restarted, ← sound.mem_visited], restarted ▸ sound.once, sound.present⟩

theorem Sound.searchFrom (sound : search.Sound graph) (idle : search.pending = [])
    (root : NodeId) : (searchFrom graph search root).Sound graph :=
  finish_keeps (Sound graph) _ (fun _ _ stepped sound => sound.step? stepped)
    (sound.restart idle root)

theorem visited_searchFrom (search : Traversal) (stored : graph.contains root) :
    root ∈ (searchFrom graph search root).visited := by
  have reached : (searchFrom graph search root).Reaches root :=
    finish_keeps (Reaches · root) _
      (fun _ _ stepped reaches => Reaches.step? reaches stored stepped) (.inr (by simp))
  rcases reached with visited | waits
  · exact visited
  · simp [Traversal.searchFrom, pending_finish] at waits

theorem visited_mono (search : Traversal) (visited : id ∈ search.visited) :
    id ∈ (searchFrom graph search root).visited := by
  refine finish_keeps (fun search => id ∈ search.visited) _
    (fun search next stepped visited => ?_) visited
  rcases step?_cases stepped with ⟨_, _, _, rfl⟩ | ⟨_, _, _, _, _, rfl⟩ | ⟨_, _, _, _, rfl⟩
  · exact visited
  · exact Std.ExtTreeSet.mem_insert.mpr (.inr visited)
  · exact visited

theorem foldl_searchFrom (roots : List NodeId) (sound : search.Sound graph)
    (idle : search.pending = []) (stored : ∀ root ∈ roots, graph.contains root) :
    let last := roots.foldl (searchFrom graph) search
    last.Sound graph ∧ last.pending = [] ∧
      ∀ id, id ∈ search.visited ∨ id ∈ roots → id ∈ last.visited := by
  induction roots generalizing search with
  | nil => exact ⟨sound, idle, fun id visited => visited.resolve_right (by simp)⟩
  | cons root rest ih =>
      obtain ⟨lastSound, lastIdle, visited⟩ := ih (sound.searchFrom idle root)
        (pending_finish _) fun other member => stored other (by simp [member])
      refine ⟨lastSound, lastIdle, fun id reached => visited id ?_⟩
      rcases reached with earlier | member
      · exact .inl (visited_mono search earlier)
      · rcases List.mem_cons.mp member with rfl | later
        · exact .inl (visited_searchFrom search (stored id (by simp)))
        · exact .inr later

end Traversal

namespace Graph

variable (graph : Graph)

theorem topologicalOrder_eq : ∃ last : Traversal, last.Sound graph ∧ last.pending = [] ∧
    (∀ id ∈ graph.ids, id ∈ last.visited) ∧ graph.topologicalOrder = last.emitted.reverse := by
  obtain ⟨sound, idle, visited⟩ := Traversal.foldl_searchFrom graph.ids
    (Traversal.sound_start graph) rfl fun root member => Store.mem_indices.mp member
  exact ⟨_, sound, idle, fun id member => visited id (.inr member), rfl⟩

theorem nodup_topologicalOrder : graph.topologicalOrder.Nodup := by
  obtain ⟨last, sound, idle, _, order⟩ := graph.topologicalOrder_eq
  have once : last.emitted.Nodup := by
    simpa [Traversal.entered, idle] using sound.once
  exact order ▸ (List.reverse_perm _).nodup_iff.mpr once

theorem mem_topologicalOrder {id : NodeId} :
    id ∈ graph.topologicalOrder ↔ graph.contains id := by
  obtain ⟨last, sound, idle, visited, order⟩ := graph.topologicalOrder_eq
  have emitted : id ∈ graph.topologicalOrder ↔ id ∈ last.visited := by
    simp [order, sound.mem_visited, Traversal.entered, idle]
  rw [emitted]
  exact ⟨sound.present id, fun stored => visited id (Store.mem_indices.mpr stored)⟩

theorem topologicalOrder_perm : graph.topologicalOrder.Perm graph.ids :=
  (List.perm_ext_iff_of_nodup graph.nodup_topologicalOrder graph.nodes.nodup_indices).mpr fun _ =>
    graph.mem_topologicalOrder.trans Store.mem_indices.symm

end Graph

end OpGraph
