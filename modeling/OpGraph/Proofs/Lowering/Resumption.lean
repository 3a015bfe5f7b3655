import OpGraph.Proofs.Lowering.Completion
import OpGraph.Proofs.Lowering.Composition
import OpGraph.Proofs.Lowering.Failure
import OpGraph.Proofs.Lowering.Policies
import OpGraph.Proofs.Lowering.Renaming

namespace OpGraph

/-! A pass that was stopped can be resumed.  Over an acyclic graph it stops between two visits, and
a later pass does what was left to do; only the ids of created nodes tell the two passes from
one. -/

namespace Graph

variable {graph after : Graph} {policy : UnsupportedPolicy} {reason : GraphError} {id : NodeId}

theorem Refuses.eq_of_acyclic (acyclic : graph.Acyclic)
    (refuses : graph.Refuses policy id reason after) : after = graph := by
  obtain ⟨op, rfl, _⟩ := refuses.unsupported_of_acyclic acyclic
  apply refuses.unchanged_or_halfLowered.resolve_right
  intro half
  obtain ⟨_, _, _, _, _, other, _⟩ := half
  cases other

/-- However a pass over an acyclic graph ends, all visits that changed anything are complete. -/
theorem WellFormed.arrived_of_acyclic (sound : graph.WellFormed) (acyclic : graph.Acyclic)
    (config : Config) (mode : CompilationMode) :
    ∃ visited, graph.Arrived visited (Edit.lower config mode graph).graph := by
  cases ended : (Edit.lower config mode graph).result with
  | ok stats => exact ⟨_, (Lowering.lower_meets sound config mode).of_ok ended⟩
  | error reason =>
      obtain ⟨done, id, start, stops⟩ := Edit.lower_stopsAt ended
      obtain ⟨arrived, _, _, refuses⟩ := stops.refuses sound
      obtain ⟨ledger, replaced, passed⟩ := arrived
      rw [refuses.eq_of_acyclic (passed.lowered.acyclic sound acyclic)]
      exact ⟨done.reverse, ledger, replaced, passed⟩

end Graph

open OpGraph.Graph

/-- After any pass over an acyclic graph, also one that a gradient without rule has stopped, a
tolerant pass leaves what one tolerant pass would have left, but for the ids of created nodes, and
it lists the same gradients without rule. -/
theorem Reachable.lower_resumes {graph : Graph} {later direct : Config}
    (reachable : Reachable graph) (acyclic : graph.Acyclic)
    (laterTolerates : later.unsupported ≠ .error)
    (directTolerates : direct.unsupported ≠ .error) (first : Config)
    (mode again : CompilationMode) :
    let resumed := Edit.lower later again (Edit.lower first mode graph).graph
    let whole := Edit.lower direct mode graph
    ∃ stats wholeStats rename,
      resumed.result = .ok stats ∧ whole.result = .ok wholeStats ∧
        stats.unsupported.Perm wholeStats.unsupported ∧
          (∀ id, graph.contains id → rename id = id) ∧
            resumed.graph.Renames rename whole.graph := by
  have sound := reachable.wellFormed
  obtain ⟨visited, arrived⟩ := sound.arrived_of_acyclic acyclic first mode
  generalize (Edit.lower first mode graph).graph = middle at arrived ⊢
  have stopped := arrived
  obtain ⟨ledger, replaced, passed⟩ := stopped
  have middleSound := passed.lowered.wellFormed
  have middleAcyclic := passed.lowered.acyclic sound acyclic
  have resumes := middleSound.lower_meets_of_acyclic middleAcyclic later again
  have completes := sound.lower_meets_of_acyclic acyclic direct mode
  obtain ⟨stats, resumed⟩ := (Completes.of_meets resumes).tolerant laterTolerates
  obtain ⟨wholeStats, whole⟩ := (Completes.of_meets completes).tolerant directTolerates
  have resumedArrived := (Lowering.lower_meets middleSound later again).of_ok resumed
  have wholeArrived := (Lowering.lower_meets sound direct mode).of_ok whole
  have summary := ((Lowering.lower_summarizes sound direct mode).of_ok whole).1
  have summaryLater := ((Lowering.lower_summarizes middleSound later again).of_ok resumed).1
  obtain ⟨rename, fixed, renames⟩ :=
    (arrived.trans sound resumedArrived).exists_renames sound acyclic wholeArrived
  exact ⟨stats, wholeStats, rename, resumed, whole,
    passed.lowered.perm_unsupported sound summary summaryLater, fixed, renames⟩

namespace Session

/-- The gradient of a sum is visited first, then that of a quotient, then those of two products;
with the reads of the sum's gradient gone, the two come in the other order. -/
def interrupted : List Command :=
  [.createInput "x" scalar, .createInput "y" scalar, .createInput "early" scalar,
    .createGradient "product.grad" ⟨0, 0⟩ ⟨1, 0⟩ ⟨0, 0⟩ ⟨1, 0⟩ .mul,
    .createGradient "other.grad" ⟨0, 0⟩ ⟨1, 0⟩ ⟨0, 0⟩ ⟨0, 0⟩ .mul, .createInput "late" scalar,
    .createGradient "quotient.grad" ⟨4, 0⟩ ⟨1, 0⟩ ⟨0, 0⟩ ⟨0, 0⟩ .div, .remove 5,
    .createGradient "sum.grad" ⟨6, 0⟩ ⟨3, 0⟩ ⟨3, 0⟩ ⟨1, 0⟩ .add, .remove 2,
    .createArithmetic "reader" ⟨4, 0⟩ ⟨5, 0⟩ .mul, .createSave "kept" ⟨2, 0⟩]

theorem interrupted_acyclic : (run .empty interrupted).Acyclic := by
  let rank (id : NodeId) : Nat := [0, 0, 4, 1, 1, 3, 2, 5].getD id 0
  have descends : ∀ user ∈ (run .empty interrupted).ids,
      ∀ source ∈ (run .empty interrupted).sources user, rank source < rank user := by
    decide +kernel
  apply acyclic_of_rank rank
  exact fun user source reads => descends user (Store.mem_indices.mpr reads.contains) source reads

/-- The created nodes get other ids than in one pass. -/
theorem interrupted_lower_resumes :
    let graph := run .empty interrupted
    let stopped := Edit.lower stopping .train graph
    let resumed := Edit.lower silent .train stopped.graph
    let whole := Edit.lower silent .train graph
    graph.Acyclic ∧ silent.unsupported ≠ .error ∧
      stopped.result = .error (.unsupportedMode 6 .div) ∧ resumed.graph ≠ whole.graph ∧
        ∃ stats wholeStats rename,
          resumed.result = .ok stats ∧ whole.result = .ok wholeStats ∧
            stats.unsupported.Perm wholeStats.unsupported ∧
              (∀ id, graph.contains id → rename id = id) ∧
                resumed.graph.Renames rename whole.graph := by
  have tolerates : silent.unsupported ≠ .error := by decide
  exact ⟨interrupted_acyclic, tolerates, by decide +kernel, by decide +kernel,
    Reachable.lower_resumes (reachable_run .empty interrupted) interrupted_acyclic tolerates
      tolerates stopping .train .train⟩

end Session

end OpGraph
