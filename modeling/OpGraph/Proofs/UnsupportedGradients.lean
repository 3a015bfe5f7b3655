import OpGraph.Proofs.Optimization

namespace OpGraph

/-! Gradients without a rule after all passes.  They are listed when lowering leaves them, and the
list is not looked at again: elimination takes away those that only dead nodes read, as it does with
any other node. -/

namespace Graph

/-- A gradient node without rule, and what becomes of it when dead nodes are removed or not. -/
structure LeftOver (lowered : Graph) (prunes : Bool) (id : NodeId) (after : Graph) : Prop where
  isGradient : ∃ op, lowered.gradientOp? id = some op ∧ (op = .div ∨ op = .max ∨ op = .min)
  unchanged : after.contains id → after.node? id = lowered.node? id
  contains_iff : after.contains id ↔ ¬ (prunes ∧ lowered.Dead id)
  below_save : prunes → lowered.Acyclic → (after.contains id ↔
    ∃ save value, lowered.node? save = some (.save value) ∧
      Relation.ReflTransGen lowered.Reads save id)

variable {graph lowered : Graph} {id : NodeId} {op : BinaryOp}

theorem WellFormed.cleared_swept (wellFormed : graph.WellFormed) :
    ∃ count, graph.Cleared count graph.swept := by
  obtain ⟨ids, _, eliminates⟩ := Edit.prune_eliminates graph false
  exact ⟨ids.length, eliminates.cleared wellFormed wellFormed.settled_swept⟩

theorem eq_of_no_rule (noRule : ¬ op.isLowered) : op = .div ∨ op = .max ∨ op = .min := by
  cases op with
  | add | mul | sub => exact absurd rfl noRule
  | div => exact .inl rfl
  | max => exact .inr (.inl rfl)
  | min => exact .inr (.inr rfl)

theorem LeftOver.of_kept (isGradient : lowered.gradientOp? id = some op)
    (noRule : ¬ op.isLowered) : lowered.LeftOver false id lowered := by
  obtain ⟨_, _, _, _, found⟩ := exists_gradient isGradient
  have stored := contains_of_node? found
  exact ⟨⟨op, isGradient, eq_of_no_rule noRule⟩, fun _ => rfl, by simp [stored], nofun⟩

theorem LeftOver.of_swept (formed : lowered.WellFormed)
    (isGradient : lowered.gradientOp? id = some op) (noRule : ¬ op.isLowered) :
    lowered.LeftOver true id lowered.swept := by
  obtain ⟨count, cleared⟩ := formed.cleared_swept
  obtain ⟨_, _, _, _, found⟩ := exists_gradient isGradient
  obtain ⟨entry, stored, isNode⟩ := node?_eq_some_iff.mp found
  refine ⟨⟨op, isGradient, eq_of_no_rule noRule⟩, fun kept => ?_, ?_, fun _ acyclic => ?_⟩
  · obtain ⟨later, foundLater⟩ := Option.isSome_iff_exists.mp kept
    obtain ⟨earlier, _⟩ := (cleared.entry?_eq_some_iff id later).mp foundLater
    rw [node?_eq_some_iff.mpr ⟨later, foundLater, rfl⟩, node?_eq_some_iff.mpr ⟨later, earlier, rfl⟩]
  · constructor
    · intro kept
      obtain ⟨later, foundLater⟩ := Option.isSome_iff_exists.mp kept
      exact fun removed => ((cleared.entry?_eq_some_iff id later).mp foundLater).2 removed.2
    · intro alive
      have kept := (cleared.entry?_eq_some_iff id entry).mpr
        ⟨stored, fun dead => alive ⟨rfl, dead⟩⟩
      exact Store.contains_of_get? kept
  · rw [cleared.contains_iff acyclic]
    refine or_iff_right fun isInput => ?_
    obtain ⟨_, isInput⟩ := isInput
    cases found.symm.trans isInput

theorem exists_of_unsupported (judged : graph.verdict id = .unsupported) :
    ∃ op, graph.gradientOp? id = some op ∧ ¬ op.isLowered := by
  rw [verdict_eq_unsupported_iff, Bool.and_eq_true] at judged
  obtain ⟨lhs, rhs, result, resultGrad, op, found, noRule⟩ := isGradientOf_iff.mp judged.1
  exact ⟨op, gradientOp?_of_gradient found, by simpa using noRule⟩

end Graph

theorem Edit.graph_optimize {graph : Graph} {config : Config} {mode : CompilationMode}
    {stats : Stats} (sound : graph.WellFormed)
    (completed : (optimize config mode graph).result = .ok stats) :
    (optimize config mode graph).graph =
      if config.prune then (lower config mode graph).graph.swept
      else (lower config mode graph).graph := by
  have same : (optimize config mode graph).Meets
      (fun _ after => after = if config.prune then (lower config mode graph).graph.swept
        else (lower config mode graph).graph) (fun _ _ => True) :=
    (meets_optimize sound).mpr (Outcome.meets_iff.mpr ⟨fun _ _ => rfl, fun _ _ => trivial⟩)
  exact same.of_ok completed

open OpGraph.Graph

/-- Each gradient that all passes together list as unsupported is a gradient node without rule in
the lowered graph.  It is still there, and the same, unless it was dead and dead nodes were to be
removed; in an acyclic graph that keeps those below some save. -/
theorem Reachable.unsupported_leftOver {graph : Graph} {config : Config} {mode : CompilationMode}
    {stats : Stats} (reachable : Reachable graph)
    (completed : (Edit.optimize config mode graph).result = .ok stats) :
    ∀ id ∈ stats.unsupported,
      (Edit.lower config mode graph).graph.LeftOver config.prune id
        (Edit.optimize config mode graph).graph := by
  intro id listed
  have sound := reachable.wellFormed
  rw [Edit.graph_optimize sound completed]
  rw [Edit.result_optimize sound] at completed
  obtain ⟨ledger, replaced, passed⟩ := (Lowering.lower_meets sound config mode).of_ok completed
  have summary := ((Lowering.lower_summarizes sound config mode).of_ok completed).1
  have judged := (passed.lowered.verdict_eq_unsupported_iff sound).mpr
    (summary.mem_unsupported_iff.mp listed)
  obtain ⟨op, isGradient, noRule⟩ := exists_of_unsupported judged
  cases prunes : config.prune with
  | false => exact .of_kept isGradient noRule
  | true => exact .of_swept passed.lowered.wellFormed isGradient noRule

/-- The quotient's gradient is kept for the save that reads it. -/
theorem Session.mixed_leftOver :
    let graph := run .empty mixedGradients
    let lowered := (Edit.lower .default .train graph).graph
    (Edit.optimize .default .train graph).result = .ok ⟨1, 1, [5], 2⟩ ∧
      lowered.LeftOver true 5 (Edit.optimize .default .train graph).graph := by
  have completed := result_optimize_mixed
  have listed : 5 ∈ [5] := List.mem_singleton_self 5
  exact ⟨completed,
    Reachable.unsupported_leftOver (reachable_run .empty mixedGradients) completed 5 listed⟩

namespace Session

/-- The gradient of a quotient that only a dead sum reads. -/
def unreadQuotient : List Command :=
  [.createInput "x" scalar, .createInput "y" scalar,
    .createGradient "quotient.grad" ⟨0, 0⟩ ⟨1, 0⟩ ⟨0, 0⟩ ⟨0, 0⟩ .div,
    .createArithmetic "unread" ⟨2, 0⟩ ⟨2, 0⟩ .add]

theorem unreadQuotient_removed :
    let graph := run .empty unreadQuotient
    Reachable graph ∧ (Edit.optimize .default .train graph).result = .ok ⟨0, 0, [2], 0⟩ ∧
      (Edit.optimize .default .train graph).graph.node? 2 = none := by
  exact ⟨reachable_run .empty unreadQuotient, by decide +kernel, by decide +kernel⟩

end Session

end OpGraph
