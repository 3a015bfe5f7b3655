import OpGraph.Proofs.Storage
import OpGraph.Proofs.Traversal

namespace OpGraph

/-! The search with a stack of pending marks is the recursive depth-first search.  A mark to enter
stands for a call, the mark to leave below the marks of a node's operands for the return from them.

The stack leaves out the operands that were visited when their node was entered.  The recursion
comes to each operand and passes over those that are visited by then, which are at least as
many. -/

/-- What a recursive search has visited, and the nodes that it has emitted, the latest one last. -/
structure DepthFirst where
  visited : Std.ExtTreeSet NodeId
  order : List NodeId

namespace DepthFirst

def start : DepthFirst := ⟨∅, []⟩

def enter (search : DepthFirst) (id : NodeId) : DepthFirst :=
  { search with visited := search.visited.insert id }

def emit (search : DepthFirst) (id : NodeId) : DepthFirst :=
  { search with order := search.order ++ [id] }

def Extends (after search : DepthFirst) : Prop :=
  ∀ id ∈ search.visited, id ∈ after.visited

/-- The search on the stack that stands where this one does, with some marks still pending. -/
def onStack (search : DepthFirst) (pending : List Mark) : Traversal :=
  ⟨pending, search.visited, search.order.reverse⟩

def remaining (graph : Graph) (search : DepthFirst) : Nat :=
  ((search.onStack []).unvisited graph).length

variable {graph : Graph} {search after : DepthFirst} {id : NodeId}

theorem extends_enter : (search.enter id).Extends search :=
  fun _ visited => Std.ExtTreeSet.mem_insert.mpr (.inr visited)

theorem Extends.remaining_le (extended : after.Extends search) :
    after.remaining graph ≤ search.remaining graph := by
  apply List.Sublist.length_le
  apply List.monotone_filter_right
  intro id unvisited
  have fresh : id ∉ after.visited := of_decide_eq_true unvisited
  exact decide_eq_true fun visited => fresh (extended id visited)

theorem remaining_enter_lt (stored : graph.contains id) (fresh : id ∉ search.visited) :
    (search.enter id).remaining graph < search.remaining graph := by
  have onStack : id ∉ (search.onStack []).visited := fresh
  exact Traversal.length_unvisited_insert stored onStack []

/-- Visits nodes one after the other.  A node that exists and was not visited is marked, then the
nodes that it reads are visited, the last operand first, then it is emitted. -/
def visitAll (graph : Graph) (search : DepthFirst) :
    List NodeId → { after : DepthFirst // after.Extends search }
  | [] => ⟨search, fun _ visited => visited⟩
  | id :: rest =>
      if _enters : graph.contains id ∧ id ∉ search.visited then
        let operands := visitAll graph (search.enter id) (graph.sources id).reverse
        let last := visitAll graph (operands.1.emit id) rest
        ⟨last.1, fun other visited =>
          last.2 other (operands.2 other (extends_enter other visited))⟩
      else
        visitAll graph search rest
termination_by ids => (search.remaining graph, ids.length)
decreasing_by
  · exact .left _ _ (remaining_enter_lt _enters.1 _enters.2)
  · have entered := remaining_enter_lt _enters.1 _enters.2
    exact .left _ _ (Nat.lt_of_le_of_lt operands.2.remaining_le entered)
  · exact .right _ (Nat.lt_succ_self _)

def visit (graph : Graph) (search : DepthFirst) (id : NodeId) : DepthFirst :=
  (visitAll graph search [id]).1

theorem visitAll_nil : (visitAll graph search []).1 = search := by
  rw [visitAll]

theorem visitAll_of_fresh (stored : graph.contains id) (fresh : id ∉ search.visited)
    (rest : List NodeId) :
    (visitAll graph search (id :: rest)).1 = (visitAll graph
      ((visitAll graph (search.enter id) (graph.sources id).reverse).1.emit id) rest).1 := by
  rw [visitAll, dif_pos ⟨stored, fresh⟩]

theorem visitAll_of_passed (passed : ¬(graph.contains id ∧ id ∉ search.visited))
    (rest : List NodeId) :
    (visitAll graph search (id :: rest)).1 = (visitAll graph search rest).1 := by
  rw [visitAll, dif_neg passed]

theorem visitAll_eq_foldl (ids : List NodeId) :
    (visitAll graph search ids).1 = ids.foldl (visit graph) search := by
  induction ids generalizing search with
  | nil => exact visitAll_nil
  | cons id rest ih =>
      rw [List.foldl_cons, ← ih, visit]
      by_cases enters : graph.contains id ∧ id ∉ search.visited
      · rw [visitAll_of_fresh enters.1 enters.2, visitAll_of_fresh enters.1 enters.2, visitAll_nil]
      · rw [visitAll_of_passed enters, visitAll_of_passed enters, visitAll_nil]

theorem visit_eq (graph : Graph) (search : DepthFirst) (id : NodeId) :
    visit graph search id =
      if graph.contains id ∧ id ∉ search.visited then
        ((graph.sources id).reverse.foldl (visit graph) (search.enter id)).emit id
      else
        search := by
  split
  · next enters =>
      rw [visit, visitAll_of_fresh enters.1 enters.2, visitAll_nil, visitAll_eq_foldl]
  · next passed => rw [visit, visitAll_of_passed passed, visitAll_nil]

theorem finish_onStack_nil (search : DepthFirst) :
    (search.onStack []).finish graph = search.onStack [] :=
  Traversal.finish_of_done rfl

theorem finish_of_fresh (stored : graph.contains id) (fresh : id ∉ search.visited)
    (rest : List Mark) :
    (search.onStack (.enter id :: rest)).finish graph =
      ((search.enter id).onStack
        (Traversal.marksOf graph (search.enter id).visited id ++ rest)).finish graph :=
  Traversal.finish_of_step? (if_pos ⟨stored, fresh⟩)

theorem finish_of_passed (passed : ¬(graph.contains id ∧ id ∉ search.visited))
    (rest : List Mark) :
    (search.onStack (.enter id :: rest)).finish graph = (search.onStack rest).finish graph :=
  Traversal.finish_of_step? (if_neg passed)

theorem finish_leave (search : DepthFirst) (id : NodeId) (rest : List Mark) :
    (search.onStack (.leave id :: rest)).finish graph =
      ((search.emit id).onStack rest).finish graph := by
  apply Traversal.finish_of_step?
  simp [Traversal.step?, onStack, emit]

/-- The marks to enter some nodes do what visiting these nodes does, whatever is pending below them,
also where marks of nodes are left out that were visited before. -/
theorem finish_marks (ids : List NodeId) (left : Std.ExtTreeSet NodeId) (rest : List Mark)
    (leftVisited : ∀ id ∈ left, id ∈ search.visited) :
    (search.onStack ((ids.filter (· ∉ left)).map .enter ++ rest)).finish graph =
      ((visitAll graph search ids).1.onStack rest).finish graph := by
  fun_induction visitAll graph search ids generalizing left rest with
  | case1 search => rfl
  | case2 search id later enters operands last operandsIH laterIH =>
      have marked : id ∉ left := fun member => enters.2 (leftVisited id member)
      have operandsLeave := operandsIH (search.enter id).visited
        (.leave id :: ((later.filter (· ∉ left)).map .enter ++ rest)) fun _ visited => visited
      have laterFinish := laterIH left rest fun other member =>
        operands.2 other (extends_enter other (leftVisited other member))
      rw [List.filter_cons_of_pos (by simpa using marked), List.map_cons, List.cons_append,
        finish_of_fresh enters.1 enters.2, ← laterFinish, ← finish_leave, ← operandsLeave,
        Traversal.marksOf, List.filter_reverse, List.append_assoc, List.singleton_append]
  | case3 search id later passed laterIH =>
      by_cases member : id ∈ left
      · rw [List.filter_cons_of_neg (by simpa using member)]
        exact laterIH left rest leftVisited
      · rw [List.filter_cons_of_pos (by simpa using member), List.map_cons, List.cons_append,
          finish_of_passed passed]
        exact laterIH left rest leftVisited

theorem searchFrom_onStack (search : DepthFirst) (root : NodeId) :
    Traversal.searchFrom graph (search.onStack []) root = (visit graph search root).onStack [] := by
  have noneLeft : ∀ id ∈ (∅ : Std.ExtTreeSet NodeId), id ∈ search.visited := by simp
  exact (finish_marks [root] ∅ [] noneLeft).trans (finish_onStack_nil _)

theorem foldl_searchFrom_onStack (search : DepthFirst) (roots : List NodeId) :
    roots.foldl (Traversal.searchFrom graph) (search.onStack []) =
      (roots.foldl (visit graph) search).onStack [] := by
  induction roots generalizing search with
  | nil => rfl
  | cons root rest ih => rw [List.foldl_cons, List.foldl_cons, searchFrom_onStack, ih]

end DepthFirst

namespace Graph

/-- The nodes in the order in which a recursive depth-first search emits them that comes to every
node, the lowest index first. -/
def postorder (graph : Graph) : List NodeId :=
  (graph.ids.foldl (DepthFirst.visit graph) .start).order

theorem topologicalOrder_eq_postorder (graph : Graph) :
    graph.ids.Pairwise (· < ·) ∧ (∀ id, id ∈ graph.ids ↔ graph.contains id) ∧
      (∀ search id, DepthFirst.visit graph search id =
        if graph.contains id ∧ id ∉ search.visited then
          ((graph.sources id).reverse.foldl (DepthFirst.visit graph) (search.enter id)).emit id
        else
          search) ∧
      graph.topologicalOrder = graph.postorder := by
  refine ⟨Store.pairwise_indices _, fun _ => Store.mem_indices, DepthFirst.visit_eq graph, ?_⟩
  have finished : graph.ids.foldl (Traversal.searchFrom graph) .start =
      (graph.ids.foldl (DepthFirst.visit graph) .start).onStack [] :=
    DepthFirst.start.foldl_searchFrom_onStack graph.ids
  rw [topologicalOrder, finished, postorder, DepthFirst.onStack, List.reverse_reverse]

end Graph

end OpGraph
