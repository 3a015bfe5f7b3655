import OpGraph.Proofs.Lowering.Acyclicity
import OpGraph.Proofs.Lowering.Statistics
import OpGraph.Proofs.Lowering.Stops
import OpGraph.Proofs.Preservation

namespace OpGraph

/-! Passes over acyclic graphs run to their end.  All that may stop one is a gradient without rule
that is read, and only where the configuration asks for it; and the graph stays acyclic. -/

namespace Graph

variable {graph : Graph} {policy : UnsupportedPolicy}

/-- How a pass ends that only a gradient without rule can stop. -/
structure Completes (before : Graph) (policy : UnsupportedPolicy) (outcome : Outcome Stats) :
    Prop where
  tolerant : policy ≠ .error → ∃ stats, outcome.result = .ok stats
  strict : policy = .error → (∃ stats, outcome.result = .ok stats) ∨
    ∃ id op, outcome.result = .error (.unsupportedMode id op)
  stops_iff : policy = .error →
    ((∃ id op, outcome.result = .error (.unsupportedMode id op)) ↔
      ∃ id, id ∈ before.readGradients (! ·.isLowered))
  acyclic : outcome.graph.Acyclic

/-- A gradient without rule that is read was an error. -/
def StoppedByMode (before : Graph) (policy : UnsupportedPolicy) (reason : GraphError) : Prop :=
  policy = .error ∧
    ∃ id op, reason = .unsupportedMode id op ∧ id ∈ before.readGradients (! ·.isLowered)

theorem Completes.of_meets {outcome : Outcome Stats}
    (meets : outcome.Meets
      (fun _ after => (policy = .error → graph.readGradients (! ·.isLowered) = []) ∧ after.Acyclic)
      (fun reason after => graph.StoppedByMode policy reason ∧ after.Acyclic)) :
    graph.Completes policy outcome := by
  cases ended : outcome.result with
  | ok stats =>
      obtain ⟨noneRead, acyclic⟩ := meets.of_ok ended
      refine ⟨fun _ => ⟨stats, ended⟩, fun _ => .inl ⟨stats, ended⟩, fun strict => ?_, acyclic⟩
      simp [ended, noneRead strict]
  | error reason =>
      obtain ⟨⟨strict, id, op, rfl, member⟩, acyclic⟩ := meets.of_error ended
      exact ⟨fun tolerant => absurd strict tolerant, fun _ => .inr ⟨id, op, ended⟩,
        fun _ => iff_of_true ⟨id, op, ended⟩ ⟨id, member⟩, acyclic⟩

theorem WellFormed.lower_meets_of_acyclic (sound : graph.WellFormed) (acyclic : graph.Acyclic)
    (config : Config) (mode : CompilationMode) :
    (Edit.lower config mode graph).Meets
      (fun _ after => (config.unsupported = .error → graph.readGradients (! ·.isLowered) = []) ∧
        after.Acyclic)
      (fun reason after => graph.StoppedByMode config.unsupported reason ∧ after.Acyclic) := by
  obtain ⟨ledger, replaced, lowered⟩ := sound.stopped_lower config mode
  have stillAcyclic := lowered.acyclic sound acyclic
  refine Outcome.meets_iff.mpr ⟨fun stats completed => ⟨fun strict => ?_, stillAcyclic⟩,
    fun reason failed => ⟨?_, stillAcyclic⟩⟩
  · exact ((Lowering.lower_summarizes sound config mode).of_ok completed).2 strict
  · obtain ⟨done, id, start, stops⟩ := Edit.lower_stopsAt failed
    obtain ⟨⟨ledger, replaced, passed⟩, fresh, stored, refuses⟩ := stops.refuses sound
    have startAcyclic := passed.lowered.acyclic sound acyclic
    obtain ⟨op, rfl, _, judged, strict⟩ := refuses.unsupported_of_acyclic startAcyclic
    have sameVerdict := (passed.lowered.verdict_eq sound (by simpa using fresh) stored).1
    exact ⟨strict, id, op, rfl, List.mem_filter.mpr
      ⟨Store.mem_indices.mpr stored, verdict_eq_unsupported_iff.mp (sameVerdict ▸ judged)⟩⟩

end Graph

open OpGraph.Graph

/-- On an acyclic graph both passes succeed unless gradients without rule are errors; then they are
stopped by these alone.  However a pass ends, it leaves an acyclic graph. -/
theorem Reachable.passes_complete {graph : Graph} (reachable : Reachable graph)
    (acyclic : graph.Acyclic) (config : Config) (mode : CompilationMode) :
    graph.Completes config.unsupported (Edit.lower config mode graph) ∧
      graph.Completes config.unsupported (Edit.optimize config mode graph) := by
  have sound := reachable.wellFormed
  have lowered := sound.lower_meets_of_acyclic acyclic config mode
  refine ⟨.of_meets lowered, .of_meets (Edit.optimize_meets sound (lowered.mono ?_ ?_))⟩
  · intro stats middle finished after pruned
    exact ⟨finished.1, finished.2.pruned pruned⟩
  · exact fun _ _ stopped => stopped

theorem Session.chained_passes_complete :
    let graph := Session.run .empty Session.chainedGradients
    graph.Acyclic ∧
      (Edit.lower Session.stopping .train graph).result = .error (.unsupportedMode 3 .div) ∧
        graph.Completes .error (Edit.lower Session.stopping .train graph) ∧
          graph.Completes .error (Edit.optimize Session.stopping .train graph) := by
  have acyclic : (Session.run .empty Session.chainedGradients).Acyclic :=
    acyclic_of_ascending (by decide +kernel)
  exact ⟨acyclic, by decide +kernel, Reachable.passes_complete
    (Session.reachable_run .empty Session.chainedGradients) acyclic Session.stopping .train⟩

end OpGraph
