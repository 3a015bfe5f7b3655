import OpGraph.Proofs.Lowering.Acyclicity
import OpGraph.Proofs.Lowering.Stops
import OpGraph.Proofs.Reachable

namespace OpGraph

/-! What a pass that fails leaves.  The visits before the failure are complete.  The failing visit
has changed nothing, with one exception: the rule for sums redirects twice, and if only the second
redirection is refused, the first one stays.  This takes a cycle through the gradient node. -/

namespace Graph

variable {graph before start after : Graph} {policy : UnsupportedPolicy} {reason : GraphError}
  {id : NodeId} {value : Value}

/-- The readers of the left gradient of a sum were redirected, those of the right one were not: the
node of the result's gradient is one of them. -/
def HalfLowered (start : Graph) (id : NodeId) (reason : GraphError) (after : Graph) : Prop :=
  ∃ lhs rhs result resultGrad,
    start.node? id = some (.gradient lhs rhs result resultGrad .add) ∧
      reason = .selfRead (.gradOfRhs id) resultGrad ∧
        start.ReadBy resultGrad.node (.gradOfRhs id) ∧
          start.Rewired (.gradOfLhs id) resultGrad after

theorem Refuses.unchanged_or_halfLowered (refuses : start.Refuses policy id reason after) :
    after = start ∨ start.HalfLowered id reason after := by
  cases refuses with
  | unsupported isGradient judged strict => exact .inl rfl
  | untouched isGradient passes reads => exact .inl rfl
  | halfDone isGradient reads rewired =>
      exact .inr ⟨_, _, _, _, isGradient, rfl, reads, rewired⟩

theorem HalfLowered.isRead (half : start.HalfLowered id reason after)
    (isRead : after.IsRead value) : start.IsRead value := by
  obtain ⟨lhs, rhs, result, resultGrad, isGradient, _, _, rewired⟩ := half
  rcases rewired.isRead isRead with ⟨earlier, _⟩ | rfl
  · exact earlier
  · exact isRead_of_gradient isGradient (by simp)

end Graph

open OpGraph.Graph

/-- A pass that fails stops at the visit of one node.  The gradients that were visited before are
lowered completely.  The visit itself has changed nothing, or it half-lowered a sum; the latter
happens in cyclic graphs only. -/
theorem Reachable.stops_between_rewrites {graph : Graph} {config : Config} {mode : CompilationMode}
    {reason : GraphError} (reachable : Reachable graph)
    (failed : (Edit.lower config mode graph).result = .error reason) :
    ∃ done id start,
      Edit.StopsAt config graph done id start reason (Edit.lower config mode graph).graph ∧
        (∀ other ∈ done, graph.IsLowerable other →
          (Edit.lower config mode graph).graph.hasUses other = false) ∧
          ((Edit.lower config mode graph).graph = start ∨
            ¬ graph.Acyclic ∧
              start.HalfLowered id reason (Edit.lower config mode graph).graph) := by
  have sound := reachable.wellFormed
  obtain ⟨done, id, start, stops⟩ := Edit.lower_stopsAt failed
  obtain ⟨⟨ledger, replaced, passed⟩, _, _, refuses⟩ := stops.refuses sound
  have ends : (Edit.lower config mode graph).graph = start ∨
      start.HalfLowered id reason (Edit.lower config mode graph).graph :=
    refuses.unchanged_or_halfLowered
  refine ⟨done, id, start, stops, fun other member lowerable => ?_, ends.imp_right fun half => ?_⟩
  · have settled : ∀ value, (Edit.lower config mode graph).graph.IsRead value →
        start.IsRead value := by
      intro value isRead
      rcases ends with same | half
      · exact same ▸ isRead
      · exact half.isRead isRead
    have formed := Edit.lower_preserves config mode graph sound
    refine Bool.eq_false_iff.mpr fun used => ?_
    obtain ⟨value, isRead, rfl⟩ := (hasUses_iff_isRead formed).mp used
    exact passed.settled value (settled value isRead) (List.mem_reverse.mpr member) lowerable
  · refine ⟨fun acyclic => ?_, half⟩
    have startAcyclic := passed.lowered.acyclic sound acyclic
    obtain ⟨op, rfl, _⟩ := refuses.unsupported_of_acyclic startAcyclic
    obtain ⟨_, _, _, _, _, other, _⟩ := half
    cases other

namespace Session

/-- A sum that reads the right gradient of the gradient node that it gives the gradient of the
result to, and a reader of the left gradient. -/
def cyclicSum : List Command :=
  [.createInput "x" scalar, .createInput "y" scalar, .createInput "z" scalar,
    .createArithmetic "sum" ⟨2, 0⟩ ⟨1, 0⟩ .add,
    .createGradient "sum.grad" ⟨0, 0⟩ ⟨1, 0⟩ ⟨0, 0⟩ ⟨3, 0⟩ .add, .createSave "kept" ⟨4, 0⟩,
    .replaceUses ⟨2, 0⟩ ⟨4, 1⟩]

theorem cyclicSum_stops_between_rewrites :
    let graph := run .empty cyclicSum
    let after := (Edit.lower .default .train graph).graph
    (Edit.lower .default .train graph).result = .error (.selfRead ⟨4, 1⟩ ⟨3, 0⟩) ∧
      ∃ done id start,
        Edit.StopsAt .default graph done id start (.selfRead ⟨4, 1⟩ ⟨3, 0⟩) after ∧
          (∀ other ∈ done, graph.IsLowerable other → after.hasUses other = false) ∧
            (after = start ∨
              ¬ graph.Acyclic ∧ start.HalfLowered id (.selfRead ⟨4, 1⟩ ⟨3, 0⟩) after) := by
  have failed : (Edit.lower .default .train (run .empty cyclicSum)).result =
      .error (.selfRead ⟨4, 1⟩ ⟨3, 0⟩) := by decide +kernel
  exact ⟨failed, Reachable.stops_between_rewrites (reachable_run .empty cyclicSum) failed⟩

/-- The pass fails at the gradient node, whose visit began in the graph before the pass, and leaves
the save with another operand. -/
theorem cyclicSum_half_lowered :
    let graph := run .empty cyclicSum
    let after := (Edit.lower .default .train graph).graph
    Reachable graph ∧
      Edit.StopsAt .default graph [5, 3] 4 graph (.selfRead ⟨4, 1⟩ ⟨3, 0⟩) after ∧
        graph.node? 5 = some (.save ⟨4, 0⟩) ∧ after.node? 5 = some (.save ⟨3, 0⟩) ∧
          after ≠ graph := by
  let visited := Lowering.visit .default 4 (run .empty cyclicSum)
  have refused : visited.result = .error (.selfRead ⟨4, 1⟩ ⟨3, 0⟩) := by decide +kernel
  have left : visited.graph = (Edit.lower .default .train (run .empty cyclicSum)).graph := by
    decide +kernel
  have stops : Edit.StopsAt .default (run .empty cyclicSum) [5, 3] 4 (run .empty cyclicSum)
      (.selfRead ⟨4, 1⟩ ⟨3, 0⟩) (Edit.lower .default .train (run .empty cyclicSum)).graph :=
    ⟨⟨[2, 1, 0], by decide +kernel⟩, ⟨.empty, [], rfl⟩, ⟨visited.events, by rw [← refused, ← left]⟩⟩
  exact ⟨reachable_run .empty cyclicSum, stops, by decide +kernel⟩

end Session

end OpGraph
