import OpGraph.Proofs.Lowering.Policies

namespace OpGraph

/-! What is reported, what is verified and for what a graph is compiled has no influence on the
passes.  Reports are all that the bits for them decide; the compilation mode is only reported; and
verification, which could end all passes with an error, accepts every graph that they make of a
well-formed one. -/

namespace Edit

/-- The same graph, and one that satisfies an invariant. -/
def SameWith (invariant : Graph → Prop) (graph other : Graph) : Prop :=
  graph = other ∧ invariant graph

theorem InStep.keep {invariant : Graph → Prop} {first second : Edit α}
    (inStep : InStep Eq first second) (keeps : Preserves invariant first) :
    InStep (SameWith invariant) first second := by
  rintro graph _ ⟨rfl, holds⟩
  obtain ⟨sameResult, sameGraph⟩ := inStep rfl
  exact ⟨sameResult, sameGraph, keeps graph holds⟩

theorem prune_inStep (verbose otherVerbose : Bool) :
    InStep Eq (prune verbose) (prune otherVerbose) := by
  rintro graph _ rfl
  exact ⟨rfl, rfl⟩

theorem pruneReporting_inStep (verbose otherVerbose : Bool) :
    InStep Eq (pruneReporting verbose) (pruneReporting otherVerbose) :=
  (prune_inStep _ _).bind fun _ => .reportWhen _ _ _ _

theorem when_verify_inStep (wanted otherWanted : Bool) :
    InStep (SameWith Graph.WellFormed) (when wanted verify) (when otherWanted verify) := by
  rintro graph _ ⟨rfl, formed⟩
  have accepts : ∀ wanted, when wanted verify graph = ⟨.ok (), graph, []⟩ := by
    intro wanted
    cases wanted with
    | false => rfl
    | true => exact formed.verify_ok
  rw [accepts, accepts]
  exact ⟨rfl, rfl, formed⟩

variable {first second : Config}

theorem lower_inStep (alike : Lowering.Interchangeable first.unsupported second.unsupported)
    (mode other : CompilationMode) : InStep Eq (lower first mode) (lower second other) := by
  rintro graph _ rfl
  exact lower_matches (alike.visitAll graph.topologicalOrder.reverse rfl)

theorem optimize_inStep (alike : Lowering.Interchangeable first.unsupported second.unsupported)
    (samePruning : first.prune = second.prune) (mode other : CompilationMode) :
    InStep (SameWith Graph.WellFormed) (optimize first mode) (optimize second other) := by
  have lowered := (lower_inStep alike mode other).keep (lower_preserves first mode)
  have pruned := (pruneReporting_inStep first.reportsPruning second.reportsPruning).keep
    (pruneReporting_preserves first.reportsPruning)
  unfold optimize
  rw [samePruning]
  exact (InStep.reportWhen _ _ _ _).bind fun _ => lowered.bind fun _ => (pruned.when _).bind fun _ =>
    (InStep.reportWhen _ _ _ _).bind fun _ => (when_verify_inStep _ _).bind fun _ => .pure _

end Edit

/-- Passes under configurations that differ in reports and verification, and in different
compilation modes, give the same answer or fail for the same reason, and leave equal graphs. -/
theorem Reachable.passes_uninfluenced {graph : Graph} (reachable : Reachable graph)
    {first second : Config} (samePolicy : first.unsupported = second.unsupported)
    (mode other : CompilationMode) :
    (Edit.lower first mode graph).Matches Eq (Edit.lower second other graph) ∧
      (first.prune = second.prune →
        (Edit.optimize first mode graph).Matches Eq (Edit.optimize second other graph)) := by
  have alike := Lowering.Interchangeable.of_eq samePolicy
  refine ⟨Edit.lower_inStep alike mode other rfl, fun samePruning => ?_⟩
  obtain ⟨sameResult, sameGraph, _⟩ :=
    Edit.optimize_inStep alike samePruning mode other ⟨rfl, reachable.wellFormed⟩
  exact ⟨sameResult, sameGraph⟩

namespace Session

/-- Everything is reported. -/
def verbose : Config :=
  { Config.default with debug := 7 }

/-- Nothing is reported and nothing is verified. -/
def unchecked : Config :=
  { Config.default with verify := false }

theorem mixed_passes_uninfluenced :
    let graph := run .empty mixedGradients
    verbose.unsupported = unchecked.unsupported ∧ verbose.prune = unchecked.prune ∧
      (Edit.optimize verbose .train graph).events ≠ (Edit.optimize unchecked .infer graph).events ∧
        (Edit.lower verbose .train graph).Matches Eq (Edit.lower unchecked .infer graph) ∧
          (Edit.optimize verbose .train graph).Matches Eq
            (Edit.optimize unchecked .infer graph) := by
  have samePolicy : verbose.unsupported = unchecked.unsupported := rfl
  have samePruning : verbose.prune = unchecked.prune := rfl
  obtain ⟨lowered, optimized⟩ := Reachable.passes_uninfluenced
    (reachable_run .empty mixedGradients) samePolicy .train .infer
  exact ⟨samePolicy, samePruning, by decide +kernel, lowered, optimized samePruning⟩

end Session

end OpGraph
