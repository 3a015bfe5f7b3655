import OpGraph.Proofs.Likeness
import OpGraph.Proofs.Reachable

namespace OpGraph

/-! Creation of a node and its removal.  A node that was just created is read by nothing, so that it
can be removed at once.  That leaves the nodes and the index as they were, whatever the node reads.
The slot of the node stays: if it was a freed one, the graph is the one from before, and otherwise
it has one slot more. -/

namespace Command

/-- The name and the node that a command creates, if it creates one. -/
def creation? : Command → Option (String × Node)
  | .createInput name type => some (name, .input type)
  | .createSplat name value type => some (name, .splat value type)
  | .createZero name type => some (name, .splat (.zero type.element) type)
  | .createArithmetic name lhs rhs op => some (name, .arithmetic lhs rhs op)
  | .createGradient name lhs rhs result resultGrad op =>
      some (name, .gradient lhs rhs result resultGrad op)
  | .createSave name value => some (name, .save value)
  | .replaceUses _ _ | .remove _ | .verify | .lower _ _ | .prune | .optimize _ _ => none

end Command

def Answer.created? : Answer → Option NodeId
  | .value created => some created.node
  | .id created => some created
  | _ => none

namespace Graph

variable {graph : Graph} {entry : Entry}

/-- A node was created under an id, and its removal takes back all that the creation did, up to the
slot of the node. -/
structure TakenBack (before created : Graph) (id : NodeId) (name : String) (node : Node) : Prop where
  fresh : before.contains id = false
  stored : ∃ types, created.entry? id = some ⟨name, node, types⟩
  removal : (Edit.remove id created).result = .ok node
  ids_eq : (Edit.remove id created).graph.ids = before.ids
  entry?_eq : ∀ other, Graph.entry? (Edit.remove id created).graph other = before.entry? other
  uses_eq : (Edit.remove id created).graph.uses = before.uses
  eq_iff : (Edit.remove id created).graph = before ↔ ∃ slot, slot ∈ before.nodes.free

namespace WellFormed

theorem unread_insert (wellFormed : graph.WellFormed) (formed : (graph.insert entry).WellFormed) :
    (graph.insert entry).hasUses graph.nodes.nextIndex = false := by
  refine Bool.eq_false_iff.mpr fun used => ?_
  obtain ⟨⟨value, use⟩, makes, isNew⟩ := formed.hasUses_iff.mp used
  obtain ⟨reader, found, member⟩ := operand_of_makes makes
  by_cases self : use.user = graph.nodes.nextIndex
  · exact (formed.entries found).noSelfRead value member (isNew.trans self.symm)
  · rw [wellFormed.entry?_insert, if_neg self] at found
    obtain ⟨type, typed⟩ := wellFormed.type?_exists found member
    exact wellFormed.node_ne_nextIndex typed isNew

theorem alike_erase_insert (wellFormed : graph.WellFormed)
    (formed : (graph.insert entry).WellFormed) :
    Graph.Alike ((graph.insert entry).erase graph.nodes.nextIndex) graph := by
  refine (formed.erase (wellFormed.unread_insert formed)).alike wellFormed fun id => ?_
  rw [entry?_erase, wellFormed.entry?_insert]
  by_cases same : id = graph.nodes.nextIndex
  · rw [if_pos same, same, wellFormed.entry?_nextIndex]
  · rw [if_neg same, if_neg same]

theorem takenBack_insert {name : String} {node : Node} {types : List TensorType}
    (wellFormed : graph.WellFormed) (formed : (graph.insert ⟨name, node, types⟩).WellFormed) :
    graph.TakenBack (graph.insert ⟨name, node, types⟩) graph.nodes.nextIndex name node := by
  have stored := wellFormed.entry?_insert_self ⟨name, node, types⟩
  have found := node?_eq_some_iff.mpr ⟨_, stored, rfl⟩
  have removal := Edit.remove_of_unread found (wellFormed.unread_insert formed)
  have left := congrArg Outcome.graph removal
  have alike := wellFormed.alike_erase_insert formed
  exact {
    fresh := Store.contains_eq_false_iff.mpr wellFormed.entry?_nextIndex
    stored := ⟨types, stored⟩
    removal := congrArg Outcome.result removal
    ids_eq := left ▸ alike.ids_eq
    entry?_eq := fun other => left ▸ congrFun alike.entry?_eq other
    uses_eq := left ▸ alike.uses
    eq_iff := by
      rw [left, alike.eq_iff, nodes_erase, Store.size_slots_erase]
      exact graph.nodes.size_slots_insert_eq_iff _ }

end WellFormed

end Graph

/-- A creation that succeeds adds the node under the next index, and nothing else. -/
theorem Command.creation_meets {graph : Graph} {command : Command} {name : String} {node : Node}
    (creates : command.creation? = some (name, node)) :
    (command.edit graph).Meets
      (fun answer after => answer.created? = some graph.nodes.nextIndex ∧
        ∃ types, after = graph.insert ⟨name, node, types⟩)
      (fun _ _ => True) := by
  cases command <;> cases creates <;> rw [Command.edit, Edit.meets_map]
  case createInput type => exact ⟨rfl, [type], rfl⟩
  case createSplat value type =>
    unfold Edit.createSplat
    split
    · exact ⟨rfl, [type], rfl⟩
    · exact trivial
  case createZero type => exact ⟨rfl, [type], rfl⟩
  case createArithmetic lhs rhs op =>
    refine Edit.createArithmetic_meets (fun type _ _ => ?_) fun _ => trivial
    exact ⟨rfl, [type], rfl⟩
  case createGradient lhs rhs result resultGrad op =>
    simp only [Edit.createGradient, Edit.meets_bind, Edit.meets_typeOf, Edit.meets_insert]
    refine ⟨fun type _ => Edit.requireTypes_meets (fun _ => ?_) fun _ => trivial, fun _ => trivial⟩
    exact ⟨rfl, [type, type], rfl⟩
  case createSave value =>
    simp only [Edit.createSave, Edit.meets_bind, Edit.meets_typeOf, Edit.meets_insert]
    exact ⟨fun _ _ => ⟨rfl, [], rfl⟩, fun _ => trivial⟩

/-- A node that was just created was not there before, it can be removed at once, and then nothing
is left of it but its slot, unless there was a freed slot for it. -/
theorem Reachable.creation_takenBack {graph : Graph} {command : Command} {name : String}
    {node : Node} {answer : Answer} (reachable : Reachable graph)
    (creates : command.creation? = some (name, node))
    (succeeds : (command.edit graph).result = .ok answer) :
    ∃ id, answer.created? = some id ∧
      graph.TakenBack (command.edit graph).graph id name node := by
  have formed := command.edit_preserves graph reachable.wellFormed
  obtain ⟨named, types, inserted⟩ := (Command.creation_meets creates).of_ok succeeds
  rw [inserted] at formed ⊢
  exact ⟨graph.nodes.nextIndex, named, reachable.wellFormed.takenBack_insert formed⟩

namespace Session

/-- A sum, and the freed slot of a node that was removed. -/
def sumAndFreedSlot : List Command :=
  [.createInput "x" scalar, .createInput "unused" scalar,
    .createArithmetic "sum" ⟨0, 0⟩ ⟨0, 0⟩ .add, .remove 1]

def repeatedOperands : Command :=
  .createGradient "sum.grad" ⟨0, 0⟩ ⟨0, 0⟩ ⟨2, 0⟩ ⟨0, 0⟩ .add

/-- The gradient is created in the freed slot.  Once that is taken, the next creation and its removal
leave one slot more. -/
theorem repeatedOperands_takenBack :
    let graph := run .empty sumAndFreedSlot
    let filled := (repeatedOperands.edit graph).graph
    let node := Node.gradient ⟨0, 0⟩ ⟨0, 0⟩ ⟨2, 0⟩ ⟨0, 0⟩ .add
    (repeatedOperands.edit graph).result = .ok (.id 1) ∧
      graph.TakenBack filled 1 "sum.grad" node ∧
        (Edit.remove 1 filled).graph = graph ∧
          (repeatedOperands.edit filled).result = .ok (.id 3) ∧
            filled.TakenBack (repeatedOperands.edit filled).graph 3 "sum.grad" node ∧
              (Edit.remove 3 (repeatedOperands.edit filled).graph).graph ≠ filled := by
  have reachable : Reachable (run .empty sumAndFreedSlot) := reachable_run .empty _
  have first : (repeatedOperands.edit (run .empty sumAndFreedSlot)).result = .ok (.id 1) := by
    decide +kernel
  have second :
      (repeatedOperands.edit (repeatedOperands.edit (run .empty sumAndFreedSlot)).graph).result =
        .ok (.id 3) := by
    decide +kernel
  obtain ⟨id, named, takenBack⟩ := Reachable.creation_takenBack reachable rfl first
  obtain rfl : 1 = id := Option.some.inj named
  obtain ⟨id, named, takenBackAgain⟩ :=
    Reachable.creation_takenBack (.step repeatedOperands reachable) rfl second
  obtain rfl : 3 = id := Option.some.inj named
  refine ⟨first, takenBack, takenBack.eq_iff.mpr ⟨1, by decide +kernel⟩, second, takenBackAgain,
    fun same => ?_⟩
  have full : (repeatedOperands.edit (run .empty sumAndFreedSlot)).graph.nodes.free = ∅ := by
    decide +kernel
  obtain ⟨slot, isFree⟩ := takenBackAgain.eq_iff.mp same
  exact Std.ExtTreeSet.not_mem_empty (full ▸ isFree)

end Session

end OpGraph
