import Mathlib.Data.List.Perm.Subperm
import OpGraph.Proofs.Lowering.Failure
import OpGraph.Proofs.Preservation
import OpGraph.Proofs.Redirection

namespace OpGraph

/-! What a lowering pass takes readers from.  Only the gradients that have a rule lose any; and what
gains readers had some before, or was created.  This holds wherever the pass stops, since it holds
of every graph on the way. -/

namespace Graph

/-- Nothing that existed is removed, is renamed or changes a type. -/
structure Keeps (before after : Graph) : Prop where
  contains : ∀ id, before.contains id → after.contains id
  name?_eq : ∀ id, before.contains id → after.name? id = before.name? id
  type?_eq : ∀ value, before.contains value.node → after.type? value = before.type? value

/-- What had no readers has none, and what is no gradient of a sum, a product or a difference is
still read wherever it was. -/
structure KeepsUses (before after : Graph) : Prop extends before.Keeps after where
  unused : ∀ value, before.contains value.node → before.useCount value = 0 →
    after.useCount value = 0
  users_subset : ∀ value, before.contains value.node →
    before.gradientOp? value.node ∉ [some .add, some .mul, some .sub] →
      before.users value ⊆ after.users value
  useCount_le : ∀ value, before.contains value.node →
    before.gradientOp? value.node ∉ [some .add, some .mul, some .sub] →
      before.useCount value ≤ after.useCount value

variable {before after : Graph} {visited : List NodeId} {ledger : Ledger}
  {replaced change : Value → Value} {value : Value} {id : NodeId}

theorem Expanded.keeps (expanded : before.Expanded ledger change after) : before.Keeps after := by
  have kept : ∀ id, before.contains id → ∃ entry,
      before.entry? id = some entry ∧ after.entry? id = some (entry.mapOperands change) := by
    intro id stored
    obtain ⟨entry, found⟩ := Option.isSome_iff_exists.mp stored
    exact ⟨entry, found, expanded.kept found⟩
  constructor
  · intro id stored
    obtain ⟨entry, _, keptEntry⟩ := kept id stored
    exact Store.contains_of_get? keptEntry
  · intro id stored
    obtain ⟨entry, found, keptEntry⟩ := kept id stored
    simp only [name?, found, keptEntry, Option.map_some, Entry.name_mapOperands]
  · intro value stored
    obtain ⟨entry, found, keptEntry⟩ := kept value.node stored
    simp only [type?, found, keptEntry, Option.bind_some, Entry.types_mapOperands]

theorem Lowered.useCount_eq_zero (sound : before.WellFormed)
    (lowered : before.Lowered visited ledger replaced after)
    (stored : before.contains value.node) (unused : before.useCount value = 0) :
    after.useCount value = 0 := by
  rw [useCount_eq_zero_iff lowered.wellFormed]
  intro isRead
  rcases lowered.isRead_before sound isRead with earlier | absent
  · exact (useCount_eq_zero_iff sound).mp unused earlier
  · cases (Store.contains_eq_false_iff.mpr absent).symm.trans stored

theorem Lowered.users_subset (sound : before.WellFormed)
    (lowered : before.Lowered visited ledger replaced after)
    (stays : ¬ before.IsLowerable value.node) : before.users value ⊆ after.users value := by
  intro use member
  obtain ⟨entry, found, reads⟩ := sound.mem_users.mp member
  have readsStill : (entry.mapOperands replaced).node.operands[use.operand]? = some value := by
    rw [Entry.node_mapOperands, Node.operands_mapOperands, List.getElem?_map, reads,
      Option.map_some, lowered.replaced_eq_self stays]
  exact lowered.wellFormed.mem_users.mpr ⟨_, lowered.kept found, readsStill⟩

theorem IsLowerable.gradientOp? (lowerable : before.IsLowerable id) :
    before.gradientOp? id ∈ [some .add, some .mul, some .sub] := by
  obtain ⟨_, _, _, _, op, found, rule⟩ := lowerable
  rw [gradientOp?_of_gradient found]
  cases op with
  | add | mul | sub => simp
  | div | max | min => cases rule

theorem Lowered.keepsUses (sound : before.WellFormed)
    (lowered : before.Lowered visited ledger replaced after) : before.KeepsUses after := by
  have users_subset : ∀ value, before.contains value.node →
      before.gradientOp? value.node ∉ [some .add, some .mul, some .sub] →
        before.users value ⊆ after.users value := by
    intro value _ noRule
    exact lowered.users_subset sound fun lowerable => noRule lowerable.gradientOp?
  refine ⟨lowered.keeps, fun value stored => lowered.useCount_eq_zero sound stored, users_subset,
    fun value stored noRule => ?_⟩
  have once : (before.users value).Nodup := before.uses.nodup_users value
  exact (List.subperm_of_subset once (users_subset value stored noRule)).length_le

end Graph

open OpGraph.Graph

/-- A pass takes readers from no value but the gradients of sums, products and differences, and
gives none to a value that had none, also when the graph is cyclic or the pass fails. -/
theorem Reachable.lower_keeps_uses {graph : Graph} (reachable : Reachable graph) (config : Config)
    (mode : CompilationMode) : graph.KeepsUses (Edit.lower config mode graph).graph := by
  obtain ⟨ledger, replaced, lowered⟩ := reachable.wellFormed.stopped_lower config mode
  exact lowered.keepsUses reachable.wellFormed

/-- A pass that fails in the middle of a rule, when a value has gained a reader. -/
theorem Session.cyclicSum_keeps_uses :
    let graph := run .empty cyclicSum
    let after := (Edit.lower .default .train graph).graph
    (Edit.lower .default .train graph).result = .error (.selfRead ⟨4, 1⟩ ⟨3, 0⟩) ∧
      graph.useCount ⟨3, 0⟩ = 1 ∧ after.useCount ⟨3, 0⟩ = 2 ∧
        Reachable graph ∧ graph.KeepsUses after := by
  have reachable := reachable_run .empty cyclicSum
  refine ⟨by decide +kernel, by decide +kernel, by decide +kernel, reachable, ?_⟩
  exact Reachable.lower_keeps_uses reachable .default .train

end OpGraph
