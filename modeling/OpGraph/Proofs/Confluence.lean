import OpGraph.Proofs.Likeness
import OpGraph.Proofs.DeadNodes

namespace OpGraph

/-! The order of removals does not matter.  Nodes may be removed one by one in any order, and as soon
as nothing is left to remove, the graph is the one that dead code elimination leaves.  It has the
same nodes, since those that are gone are the dead ones; the same index, since the nodes determine
it; and the same slots, since a removal empties a slot and drops none. -/

namespace Graph

/-- Nodes are removed by calls that succeed, one after the other, and neither an input nor a save is
among them. -/
inductive RemovedByCalls : Graph → List NodeId → Graph → Prop where
  | none (graph : Graph) : RemovedByCalls graph [] graph
  | call {graph after : Graph} {id : NodeId} {node : Node} {rest : List NodeId}
      (found : graph.node? id = some node) (unwanted : ¬ node.isRoot)
      (succeeds : (Edit.remove id graph).result.isOk)
      (later : RemovedByCalls (Edit.remove id graph).graph rest after) :
      RemovedByCalls graph (id :: rest) after

variable {before middle after other : Graph} {ids laterIds otherIds : List NodeId}

theorem RemovedByCalls.eliminates (removed : before.RemovedByCalls ids after) :
    before.Eliminates ids after := by
  induction removed with
  | none graph => exact .done graph
  | @call graph after id node rest found unwanted succeeds _ ih =>
      have unread : graph.hasUses id = false := by
        have ends : (Edit.remove id graph).Meets (fun _ _ => graph.hasUses id = false)
            (fun _ _ => True) := Edit.remove_meets (fun _ unread => unread) fun _ => trivial
        cases ended : (Edit.remove id graph).result with
        | ok removed => exact ends.of_ok ended
        | error reason => simp [ended, Except.isOk, Except.toBool] at succeeds
      obtain ⟨entry, stored, rfl⟩ := node?_eq_some_iff.mp found
      rw [Edit.remove_of_unread found unread] at ih
      exact .remove ⟨entry, stored, unwanted, unread⟩ ih

namespace Eliminates

theorem append (first : before.Eliminates ids middle)
    (second : middle.Eliminates laterIds after) : before.Eliminates (ids ++ laterIds) after := by
  induction first with
  | done graph => exact second
  | remove removable _ ih => exact .remove removable (ih second)

theorem size_slots_eq (eliminates : before.Eliminates ids after) :
    after.nodes.slots.size = before.nodes.slots.size := by
  induction eliminates with
  | done graph => rfl
  | @remove graph after id rest _ _ ih => rw [ih, WellFormed.nodes_erase, Store.size_slots_erase]

theorem confluent (first : before.Eliminates ids after) (second : before.Eliminates otherIds other)
    (wellFormed : before.WellFormed) (settled : after.Settled) (otherSettled : other.Settled) :
    ids.Perm otherIds ∧ after = other := by
  have formed := (first.pruned wellFormed).wellFormed
  have otherFormed := (second.pruned wellFormed).wellFormed
  have same : ∀ id, id ∈ ids ↔ id ∈ otherIds := fun id =>
    ⟨fun member => second.mem_of_dead otherFormed otherSettled (first.dead wellFormed member),
      fun member => first.mem_of_dead formed settled (second.dead wellFormed member)⟩
  refine ⟨(List.perm_ext_iff_of_nodup first.nodup second.nodup).mpr same, ?_⟩
  have agree : ∀ id, after.entry? id = other.entry? id := by
    intro id
    refine Option.ext fun entry => ?_
    rw [first.entry?_eq_some_iff, second.entry?_eq_some_iff, same]
  have slots := first.size_slots_eq.trans second.size_slots_eq.symm
  exact (formed.alike otherFormed agree).eq_iff.mpr slots

theorem mem_iff (eliminates : before.Eliminates ids after) {id : NodeId} :
    id ∈ ids ↔ before.contains id ∧ ¬ after.contains id := by
  constructor
  · intro member
    refine ⟨eliminates.contains member, fun kept => ?_⟩
    obtain ⟨entry, found⟩ := Option.isSome_iff_exists.mp kept
    exact (eliminates.entry?_eq_some_iff.mp found).2 member
  · rintro ⟨stored, gone⟩
    obtain ⟨entry, found⟩ := Option.isSome_iff_exists.mp stored
    by_contra left
    exact gone (Store.contains_of_get? (eliminates.entry?_eq_some_iff.mpr ⟨found, left⟩))

end Eliminates

theorem settled_of_entries {graph : Graph}
    (needed : ∀ entry ∈ graph.nodes.entries, entry.2.node.isRoot ∨ graph.hasUses entry.1) :
    graph.Settled := by
  rintro id ⟨entry, found, unwanted, unread⟩
  rcases needed (id, entry) (Store.mem_entries.mpr found) with isRoot | used
  · exact unwanted isRoot
  · cases unread.symm.trans used

end Graph

/-- Removals by hand do not lead away from what elimination leaves: afterwards it still leaves the
same graph.  Once they have left nothing to remove, this is that graph, with equal slots and an equal
index, and they have removed the nodes that elimination removes, each once. -/
theorem Reachable.removals_confluent {graph after : Graph} {ids : List NodeId}
    (reachable : Reachable graph) (removed : graph.RemovedByCalls ids after) (verbose : Bool) :
    (Edit.prune verbose after).graph = (Edit.prune verbose graph).graph ∧
      (after.Settled →
        after = (Edit.prune verbose graph).graph ∧
          (Edit.prune verbose graph).result = .ok ids.length ∧ ids.Nodup ∧
            ∀ id, id ∈ ids ↔
              graph.contains id ∧ ¬ (Edit.prune verbose graph).graph.contains id) := by
  have wellFormed := reachable.wellFormed
  have byHand := removed.eliminates
  have formed := (byHand.pruned wellFormed).wellFormed
  obtain ⟨sweptIds, counted, swept⟩ := Edit.prune_eliminates graph verbose
  obtain ⟨restIds, _, rest⟩ := Edit.prune_eliminates after verbose
  constructor
  · exact ((byHand.append rest).confluent swept wellFormed formed.settled_swept
      wellFormed.settled_swept).2
  · intro settled
    obtain ⟨sameNodes, sameGraph⟩ :=
      byHand.confluent swept wellFormed settled wellFormed.settled_swept
    refine ⟨sameGraph, by rw [counted, sameNodes.length_eq], byHand.nodup, fun id => ?_⟩
    rw [sameNodes.mem_iff]
    exact swept.mem_iff

namespace Session

/-- A sum that two nodes read, one of them twice, and that nothing needs. -/
def unreadNodes : List Command :=
  [.createInput "x" scalar, .createZero "zero" scalar,
    .createArithmetic "sum" ⟨0, 0⟩ ⟨1, 0⟩ .add,
    .createGradient "sum.grad" ⟨0, 0⟩ ⟨1, 0⟩ ⟨2, 0⟩ ⟨2, 0⟩ .max,
    .createArithmetic "square" ⟨2, 0⟩ ⟨2, 0⟩ .mul, .createSave "kept" ⟨0, 0⟩]

/-- Elimination looks at the square first; here the gradient goes first. -/
theorem unread_removals_confluent :
    let graph := run .empty unreadNodes
    ∃ after, graph.RemovedByCalls [3, 4, 2, 1] after ∧ after.Settled ∧
      (Edit.prune false after).graph = (Edit.prune false graph).graph ∧
        after = (Edit.prune false graph).graph ∧ (Edit.prune false graph).result = .ok 4 ∧
          ∀ id, id ∈ [3, 4, 2, 1] ↔
            graph.contains id ∧ ¬ (Edit.prune false graph).graph.contains id := by
  let graph := run .empty unreadNodes
  let withoutGradient := (Edit.remove 3 graph).graph
  let withoutSquare := (Edit.remove 4 withoutGradient).graph
  let withoutSum := (Edit.remove 2 withoutSquare).graph
  let after := (Edit.remove 1 withoutSum).graph
  have gradient : graph.node? 3 = some (.gradient ⟨0, 0⟩ ⟨1, 0⟩ ⟨2, 0⟩ ⟨2, 0⟩ .max) := by
    decide +kernel
  have square : withoutGradient.node? 4 = some (.arithmetic ⟨2, 0⟩ ⟨2, 0⟩ .mul) := by
    decide +kernel
  have sum : withoutSquare.node? 2 = some (.arithmetic ⟨0, 0⟩ ⟨1, 0⟩ .add) := by decide +kernel
  have zero : withoutSum.node? 1 = some (.splat (.f32 0) scalar) := by decide +kernel
  have removed : graph.RemovedByCalls [3, 4, 2, 1] after :=
    .call gradient (by decide) (by decide +kernel) <|
      .call square (by decide) (by decide +kernel) <|
        .call sum (by decide) (by decide +kernel) <|
          .call zero (by decide) (by decide +kernel) (.none after)
  have settled : after.Settled := Graph.settled_of_entries (by decide +kernel)
  have confluent := Reachable.removals_confluent (reachable_run .empty unreadNodes) removed false
  obtain ⟨same, counted, _, members⟩ := confluent.2 settled
  exact ⟨after, removed, settled, confluent.1, same, counted, members⟩

end Session

end OpGraph
