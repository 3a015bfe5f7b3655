import OpGraph.Proofs.Reachable
import OpGraph.Proofs.Traversal

namespace OpGraph

/-! The two loops over pending work end, on cyclic graphs as well: the search for an order and dead
code elimination.  Both may put more on their list than they take from it, the same node several
times, and nodes that they are done with, so that the length of the list says nothing.  What does is
the length together with the reads that can still add to it: those of the nodes that were not
entered yet, and those of the nodes that are still there. -/

/-- A loop makes a number of steps, one after the other, and then there is none to make. -/
inductive EndsAfter {State : Type} (step? : State → Option State) : Nat → State → State → Prop where
  | done {state : State} (ended : step? state = none) : EndsAfter step? 0 state state
  | step {state next last : State} {count : Nat} (stepped : step? state = some next)
      (later : EndsAfter step? count next last) : EndsAfter step? (count + 1) state last

namespace EndsAfter

variable {State : Type} {step? : State → Option State} {state last : State} {count : Nat}
  {work : State → Nat}

/-- A loop ends if every step leaves less work than there was. -/
theorem exists_of_lowers (work : State → Nat)
    (lowers : ∀ {state next}, step? state = some next → work next < work state) (state : State) :
    ∃ count last, EndsAfter step? count state last := by
  induction state using (measure work).wf.induction with
  | h state ih =>
      cases stepped : step? state with
      | none => exact ⟨0, state, .done stepped⟩
      | some next =>
          obtain ⟨count, last, later⟩ := ih next (lowers stepped)
          exact ⟨count + 1, last, .step stepped later⟩

theorem ended (ends : EndsAfter step? count state last) : step? last = none := by
  induction ends with
  | done ended => exact ended
  | step _ _ ih => exact ih

theorem count_add_work_le (ends : EndsAfter step? count state last)
    (lowers : ∀ {state next}, step? state = some next → work next < work state) :
    count + work last ≤ work state := by
  induction ends with
  | done => exact Nat.le_of_eq (Nat.zero_add _)
  | step stepped _ ih =>
      have lower := lowers stepped
      omega

theorem count_add_work_eq (ends : EndsAfter step? count state last)
    (lowers : ∀ {state next}, step? state = some next → work next + 1 = work state) :
    count + work last = work state := by
  induction ends with
  | done => exact Nat.zero_add _
  | step stepped _ ih =>
      have lower := lowers stepped
      omega

end EndsAfter

theorem Store.perm_indices_erase {α : Type u} (store : Store α) (index : Nat) :
    (store.erase index).indices.Perm (store.indices.erase index) := by
  apply (List.perm_ext_iff_of_nodup (nodup_indices _) (store.nodup_indices.erase index)).mpr
  intro other
  rw [store.nodup_indices.mem_erase_iff, mem_indices, mem_indices, contains, get?_erase]
  by_cases same : other = index <;> simp [same, contains]

namespace Graph

variable {graph : Graph} {id : NodeId} {ids : List NodeId}

/-- All that some nodes read, once for every operand that reads it. -/
def sourcesOf (graph : Graph) (ids : List NodeId) : List NodeId :=
  ids.flatMap graph.sources

theorem length_sourcesOf_erase (graph : Graph) (member : id ∈ ids) :
    (graph.sources id).length + (graph.sourcesOf (ids.erase id)).length =
      (graph.sourcesOf ids).length := by
  have split := ((List.perm_cons_erase member).flatMap_right graph.sources).length_eq
  simpa [sourcesOf] using split.symm

theorem length_sourcesOf_ids (graph : Graph) :
    (graph.sourcesOf graph.ids).length = graph.allReads.length := by
  rw [sourcesOf, Graph.ids, Store.indices, List.flatMap_map, allReads, List.length_flatMap,
    List.length_flatMap]
  refine congrArg List.sum (List.map_congr_left fun entry stored => ?_)
  have found : graph.entry? entry.1 = some entry.2 := Store.mem_entries.mp stored
  simp [sources, node?, found, Node.readsAs]

theorem length_allReads_erase (stored : graph.contains id) :
    (graph.sources id).length + (graph.erase id).allReads.length = graph.allReads.length := by
  have member : id ∈ graph.ids := Store.mem_indices.mpr stored
  have kept : ∀ other ∈ graph.ids.erase id,
      (graph.erase id).sources other = graph.sources other := by
    intro other listed
    have different : other ≠ id := (graph.nodes.nodup_indices.mem_erase_iff.mp listed).1
    simp [sources, node?, WellFormed.entry?_erase, different]
  have left : (graph.erase id).ids.Perm (graph.ids.erase id) := by
    rw [Graph.ids, WellFormed.nodes_erase]
    exact graph.nodes.perm_indices_erase id
  have same : (graph.erase id).allReads.length = (graph.sourcesOf (graph.ids.erase id)).length := by
    rw [← length_sourcesOf_ids, sourcesOf, (left.flatMap_right _).length_eq,
      List.flatMap_congr kept, sourcesOf]
  rw [same, graph.length_sourcesOf_erase member, length_sourcesOf_ids]

end Graph

namespace Sweep

variable {sweep next last : Sweep} {count : Nat}

/-- The nodes to look at, and the reads that may bring back the nodes that are read. -/
def work (sweep : Sweep) : Nat :=
  sweep.pending.length + sweep.graph.allReads.length

/-- A node that is passed over leaves the list; one that is removed puts as many nodes on the list as
it takes reads out of the graph. -/
theorem work_step? (stepped : sweep.step? = some next) : next.work + 1 = sweep.work := by
  obtain ⟨id, rest, pending, ⟨_, rfl⟩ | ⟨entry, removable, rfl⟩⟩ := step?_cases stepped
  · simp only [work, pending, List.length_cons]
    omega
  · obtain ⟨_, found, _⟩ := removable
    have reads := Graph.length_allReads_erase (Store.contains_of_get? found)
    simp only [work, pending, List.length_append, List.length_reverse, List.length_cons]
    omega

theorem endsAfter (sweep : Sweep) :
    ∃ count last, EndsAfter step? count sweep last ∧ last.pending = [] := by
  obtain ⟨count, last, ends⟩ := EndsAfter.exists_of_lowers work
    (fun stepped => Nat.lt_of_succ_le (work_step? stepped).le) sweep
  exact ⟨count, last, ends, pending_of_ended ends.ended⟩

theorem finish_of_endsAfter (ends : EndsAfter step? count sweep last) : sweep.finish = last := by
  induction ends with
  | done ended => exact finish_of_done ended
  | step stepped _ ih => exact (finish_of_step? stepped).trans ih

end Sweep

namespace Traversal

variable {graph : Graph} {search next last : Traversal} {id : NodeId} {roots : List NodeId}
  {count total : Nat}

/-- The most marks that can be added by the nodes that were not entered yet: for each of them one to
leave it, and one to enter for every operand. -/
def ahead (graph : Graph) (search : Traversal) : Nat :=
  (search.unvisited graph).length + (graph.sourcesOf (search.unvisited graph)).length

def work (graph : Graph) (search : Traversal) : Nat :=
  search.pending.length + search.ahead graph

theorem ahead_start (graph : Graph) :
    start.ahead graph = graph.ids.length + graph.allReads.length := by
  have all : start.unvisited graph = graph.ids := by simp [unvisited, start]
  rw [ahead, all, Graph.length_sourcesOf_ids]

theorem ahead_insert (stored : graph.contains id) (fresh : id ∉ search.visited)
    (pending : List Mark) :
    (graph.sources id).length + 1 +
      ahead graph ⟨pending, search.visited.insert id, search.emitted⟩ = search.ahead graph := by
  have member : id ∈ search.unvisited graph := mem_unvisited.mpr ⟨stored, fresh⟩
  have once : (search.unvisited graph).Nodup := graph.nodes.nodup_indices.filter _
  have left : unvisited graph ⟨pending, search.visited.insert id, search.emitted⟩ =
      (search.unvisited graph).erase id := by
    rw [unvisited_insert, once.erase_eq_filter]
  have fewer := List.length_erase_add_one member
  have sources := graph.length_sourcesOf_erase member
  rw [ahead, ahead, left]
  omega

theorem work_step? (stepped : search.step? graph = some next) :
    next.work graph < search.work graph := by
  rcases step?_cases stepped with ⟨id, rest, pending, rfl⟩ |
    ⟨id, rest, pending, stored, fresh, rfl⟩ | ⟨id, rest, pending, _, rfl⟩
  · simp [work, ahead, unvisited, pending]
  · have marks := length_marksOf_le graph (search.visited.insert id) id
    have entered :=
      ahead_insert stored fresh (marksOf graph (search.visited.insert id) id ++ rest)
    simp only [work, pending, List.length_append, List.length_cons]
    omega
  · simp [work, ahead, unvisited, pending]

theorem endsAfter (graph : Graph) (search : Traversal) :
    ∃ count last, EndsAfter (step? graph) count search last ∧ last.pending = [] := by
  obtain ⟨count, last, ends⟩ := EndsAfter.exists_of_lowers (work graph) work_step? search
  exact ⟨count, last, ends, pending_of_ended ends.ended⟩

theorem finish_of_endsAfter (ends : EndsAfter (step? graph) count search last) :
    search.finish graph = last := by
  induction ends with
  | done ended => exact finish_of_done ended
  | step stepped _ ih => exact (finish_of_step? stepped).trans ih

/-- Searches from some roots, one after the other, each from what the ones before it have visited,
and the number of steps that they make together. -/
inductive Searches (graph : Graph) : Nat → Traversal → List NodeId → Traversal → Prop where
  | done (search : Traversal) : Searches graph 0 search [] search
  | root {search next last : Traversal} {root : NodeId} {roots : List NodeId} {count total : Nat}
      (first : EndsAfter (step? graph) count { search with pending := [.enter root] } next)
      (later : Searches graph total next roots last) :
      Searches graph (count + total) search (root :: roots) last

namespace Searches

theorem exists_last (graph : Graph) (search : Traversal) (roots : List NodeId) :
    ∃ total last, Searches graph total search roots last := by
  induction roots generalizing search with
  | nil => exact ⟨0, search, .done search⟩
  | cons root rest ih =>
      obtain ⟨count, next, first, _⟩ := endsAfter graph { search with pending := [.enter root] }
      obtain ⟨total, last, later⟩ := ih next
      exact ⟨count + total, last, .root first later⟩

/-- A root adds one mark, and all others are those of nodes that are entered. -/
theorem total_add_ahead_le (searches : Searches graph total search roots last) :
    total + last.ahead graph ≤ roots.length + search.ahead graph := by
  induction searches with
  | done search => simp
  | @root search next last root roots count total first later ih =>
      have bounded : count + next.work graph ≤ 1 + search.ahead graph :=
        first.count_add_work_le work_step?
      simp only [work, List.length_cons] at bounded ⊢
      omega

theorem foldl_searchFrom_eq (searches : Searches graph total search roots last) :
    roots.foldl (searchFrom graph) search = last := by
  induction searches with
  | done search => rfl
  | root first _ ih => rw [List.foldl_cons, searchFrom, finish_of_endsAfter first, ih]

end Searches

end Traversal

/-- Both loops end, whatever is pending and whatever was done before, and they end with nothing
pending; it does not matter whether nodes read each other in a cycle.  The searches for a
topological order make at most two steps for every node, one to enter and one to leave it, and one
for every read.  Dead code elimination makes one step for every node and one for every read that it
takes out of the graph. -/
theorem Graph.worklists_run_out (graph : Graph) :
    (∀ search : Traversal, ∃ count last,
      EndsAfter (Traversal.step? graph) count search last ∧ last.pending = []) ∧
    (∃ total last, Traversal.Searches graph total .start graph.ids last ∧
      graph.topologicalOrder = last.emitted.reverse ∧
      total ≤ 2 * graph.ids.length + graph.allReads.length) ∧
    (∀ sweep : Sweep, ∃ count last,
      EndsAfter Sweep.step? count sweep last ∧ last.pending = []) ∧
    ∃ count last, EndsAfter Sweep.step? count (.start graph) last ∧
      (∀ verbose, Edit.prune verbose graph =
        ⟨.ok last.removed.length, last.graph, if verbose then last.events else []⟩) ∧
      count + last.graph.allReads.length = graph.ids.length + graph.allReads.length := by
  refine ⟨Traversal.endsAfter graph, ?_, Sweep.endsAfter, ?_⟩
  · obtain ⟨total, last, searches⟩ := Traversal.Searches.exists_last graph .start graph.ids
    have bounded := searches.total_add_ahead_le
    rw [Traversal.ahead_start] at bounded
    refine ⟨total, last, searches, ?_, by omega⟩
    rw [topologicalOrder, searches.foldl_searchFrom_eq]
  · obtain ⟨count, last, ends, nothingPending⟩ := (Sweep.start graph).endsAfter
    have counted := ends.count_add_work_eq Sweep.work_step?
    refine ⟨count, last, ends, fun verbose => ?_, ?_⟩
    · rw [Edit.prune, Sweep.finish_of_endsAfter ends]
    · simpa [Sweep.work, Sweep.start, nothingPending] using counted

/-- A gradient that reads one value four times puts its node on either list four times at once. -/
example :
    let graph := Session.run .empty [.createInput "x" Session.scalar,
      .createGradient "square.grad" ⟨0, 0⟩ ⟨0, 0⟩ ⟨0, 0⟩ ⟨0, 0⟩ .mul]
    (Traversal.step? graph ⟨[.enter 1], ∅, []⟩).map (·.pending) =
        some [.enter 0, .enter 0, .enter 0, .enter 0, .leave 1] ∧
      (Sweep.start graph).step?.map (·.pending) = some [0, 0, 0, 0, 0] := by
  decide +kernel

end OpGraph
