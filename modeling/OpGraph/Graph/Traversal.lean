import OpGraph.Graph.Basic

namespace OpGraph

/-! Topological order by depth-first search with a stack of pending marks.

A node is entered once, when its first mark to enter is met, and emitted when its mark to leave is
met, after everything that the marks above that one lead to. -/

/-- What is still to be done with a node. -/
inductive Mark where
  | enter (id : NodeId)
  | leave (id : NodeId)
deriving DecidableEq

/-- A search that is under way: the pending marks with the next one first, the nodes entered so
far, and the nodes emitted so far with the latest one first. -/
structure Traversal where
  pending : List Mark
  visited : Std.ExtTreeSet NodeId
  emitted : List NodeId
deriving DecidableEq

namespace Traversal

def start : Traversal := ⟨[], ∅, []⟩

/-- The marks that entering a node adds: one for every node that it reads and that was not entered
yet, the last operand first, and below them the mark to leave. -/
def marksOf (graph : Graph) (visited : Std.ExtTreeSet NodeId) (id : NodeId) : List Mark :=
  ((graph.sources id).filter (· ∉ visited)).reverse.map .enter ++ [.leave id]

/-- Handles the next mark; none when no mark is left. -/
def step? (graph : Graph) (search : Traversal) : Option Traversal :=
  match search.pending with
  | [] => none
  | .leave id :: rest =>
      some { search with pending := rest, emitted := id :: search.emitted }
  | .enter id :: rest =>
      if graph.contains id ∧ id ∉ search.visited then
        let visited := search.visited.insert id
        some { search with pending := marksOf graph visited id ++ rest, visited := visited }
      else
        some { search with pending := rest }

def unvisited (graph : Graph) (search : Traversal) : List NodeId :=
  graph.ids.filter (· ∉ search.visited)

/-- Entering a node takes it from the unvisited ones and adds at most five marks for the one that
was met, handling any other mark takes one mark away; so this number always decreases. -/
def remaining (graph : Graph) (search : Traversal) : Nat :=
  5 * (search.unvisited graph).length + search.pending.length

theorem length_marksOf_le (graph : Graph) (visited : Std.ExtTreeSet NodeId) (id : NodeId) :
    (marksOf graph visited id).length ≤ (graph.sources id).length + 1 := by
  have filtered := List.length_filter_le (· ∉ visited) (graph.sources id)
  simp only [marksOf, List.length_append, List.length_map, List.length_reverse,
    List.length_singleton]
  omega

theorem unvisited_insert {graph : Graph} {search : Traversal} (id : NodeId) (pending : List Mark) :
    unvisited graph ⟨pending, search.visited.insert id, search.emitted⟩ =
      (search.unvisited graph).filter (· != id) := by
  simp only [unvisited, List.filter_filter]
  congr 1
  funext other
  by_cases same : other = id
  · simp [same]
  · simp [same, Ne.symm same]

theorem mem_unvisited {graph : Graph} {search : Traversal} {id : NodeId} :
    id ∈ search.unvisited graph ↔ graph.contains id ∧ id ∉ search.visited := by
  simp [unvisited, Graph.ids, Store.mem_indices, Graph.contains]

theorem length_unvisited_insert {graph : Graph} {search : Traversal} {id : NodeId}
    (present : graph.contains id) (fresh : id ∉ search.visited) (pending : List Mark) :
    (unvisited graph ⟨pending, search.visited.insert id, search.emitted⟩).length <
      (search.unvisited graph).length := by
  rw [unvisited_insert]
  exact List.length_filter_lt_length_iff_exists.mpr
    ⟨id, mem_unvisited.mpr ⟨present, fresh⟩, by simp⟩

theorem remaining_step? {graph : Graph} {search next : Traversal}
    (stepped : search.step? graph = some next) :
    next.remaining graph < search.remaining graph := by
  unfold step? at stepped
  split at stepped
  · contradiction
  · next id rest pending =>
      obtain rfl := Option.some.inj stepped
      simp [remaining, unvisited, pending]
  · next id rest pending =>
      split at stepped
      · next entered =>
          obtain rfl := Option.some.inj stepped
          have fewer := length_unvisited_insert entered.1 entered.2
            (marksOf graph (search.visited.insert id) id ++ rest)
          have marks := length_marksOf_le graph (search.visited.insert id) id
          have operands := graph.length_sources_le id
          simp only [remaining, pending, List.length_append, List.length_cons]
          omega
      · obtain rfl := Option.some.inj stepped
        simp [remaining, unvisited, pending]

def finish (graph : Graph) (search : Traversal) : Traversal :=
  match _stepped : search.step? graph with
  | none => search
  | some next => finish graph next
termination_by search.remaining graph
decreasing_by exact remaining_step? _stepped

def searchFrom (graph : Graph) (search : Traversal) (root : NodeId) : Traversal :=
  finish graph { search with pending := [.enter root] }

end Traversal

namespace Graph

/-- All nodes, each after the nodes that it reads unless they read each other in a cycle. -/
def topologicalOrder (graph : Graph) : List NodeId :=
  (graph.ids.foldl (Traversal.searchFrom graph) Traversal.start).emitted.reverse

end Graph

end OpGraph
