import OpGraph.Proofs.DeadNodes
import OpGraph.Proofs.Lowering.Idempotence

namespace OpGraph

/-! All passes together.  Lowering leaves no reader of a gradient that has a rule, so elimination
takes it away, and with it all that only such gradients read.  What is left are wanted nodes and
nodes that are read, and none of the passes finds anything to do there. -/

namespace Graph

variable {before middle after graph : Graph} {stats : Stats} {ids : List NodeId} {id : NodeId}

/-- What all passes together leave of a graph. -/
structure Cleaned (before : Graph) (stats : Stats) (after : Graph) : Prop where
  gradients : ∀ id lhs rhs result resultGrad op,
    after.node? id = some (.gradient lhs rhs result resultGrad op) →
      op ≠ .add ∧ op ≠ .mul ∧ op ≠ .sub ∧ after.hasUses id ∧ id ∈ stats.unsupported
  used : ∀ id node, after.node? id = some node → ¬ node.isRoot → after.hasUses id
  inputs : ∀ id name type types, before.entry? id = some ⟨name, .input type, types⟩ →
    after.entry? id = some ⟨name, .input type, types⟩
  saves : ∀ id name value types, before.entry? id = some ⟨name, .save value, types⟩ →
    ∃ kept, after.entry? id = some ⟨name, .save kept, types⟩

theorem Pruned.verdict_eq (pruned : middle.Pruned after) (formed : middle.WellFormed)
    (used : after.hasUses id) : after.verdict id = middle.verdict id := by
  obtain ⟨user, reads⟩ := pruned.wellFormed.hasUses_iff_reads.mp used
  have usedBefore := formed.hasUses_iff_reads.mpr ⟨user, pruned.reads_before reads⟩
  obtain ⟨entry, found⟩ :=
    Option.isSome_iff_exists.mp (pruned.wellFormed.contains_of_reads reads)
  have foundBefore := pruned.kept found
  have sameNode : after.node? id = middle.node? id := by
    rw [node?_eq_some_iff.mpr ⟨entry, found, rfl⟩, node?_eq_some_iff.mpr ⟨entry, foundBefore, rfl⟩]
  simp only [verdict, gradientOp?, sameNode, used, usedBefore]

theorem Passed.cleaned {ledger : Ledger} {replaced : Value → Value} (sound : before.WellFormed)
    (passed : before.Passed before.topologicalOrder middle ledger replaced)
    (summary : before.Summary stats middle) (pruned : middle.Pruned after)
    (settled : after.Settled) : before.Cleaned stats after where
  gradients := by
    intro id lhs rhs result resultGrad op found
    have used := settled.hasUses found Bool.false_ne_true
    have judged := pruned.verdict_eq passed.lowered.wellFormed used
    rw [verdict_of_gradient found, if_neg (not_not.mpr used)] at judged
    have noRule : ¬ op.isLowered := by
      intro rule
      rw [if_pos rule] at judged
      exact passed.idle sound id judged.symm
    rw [if_neg noRule] at judged
    have listed : id ∈ stats.unsupported := summary.mem_unsupported_iff.mpr
      ((passed.lowered.verdict_eq_unsupported_iff sound).mp judged.symm)
    exact ⟨fun same => noRule (same ▸ rfl), fun same => noRule (same ▸ rfl),
      fun same => noRule (same ▸ rfl), used, listed⟩
  used := fun id node => settled.hasUses
  inputs := fun id name type types found => pruned.roots (passed.lowered.kept found) rfl
  saves := fun id name value types found =>
    ⟨replaced value, pruned.roots (passed.lowered.kept found) rfl⟩

theorem Eliminates.eq_of_settled (eliminates : before.Eliminates ids after)
    (settled : before.Settled) : after = before := by
  cases eliminates with
  | done graph => rfl
  | remove removable _ => exact absurd removable (settled _)

theorem Settled.swept_eq (settled : graph.Settled) : graph.swept = graph := by
  obtain ⟨ids, _, eliminates⟩ := Edit.prune_eliminates graph false
  exact eliminates.eq_of_settled settled

namespace Cleaned

theorem settled (cleaned : before.Cleaned stats after) : after.Settled := by
  intro id removable
  obtain ⟨entry, found, unwanted, unread⟩ := removable
  have used := cleaned.used id entry.node (node?_eq_some_iff.mpr ⟨entry, found, rfl⟩) unwanted
  cases unread.symm.trans used

theorem idle (cleaned : before.Cleaned stats after) : after.Idle := by
  intro id judged
  rw [verdict_eq_lowered_iff, Bool.and_eq_true] at judged
  obtain ⟨lhs, rhs, result, resultGrad, op, found, rule⟩ := isGradientOf_iff.mp judged.1
  obtain ⟨notAdd, notMul, notSub, _⟩ := cleaned.gradients id lhs rhs result resultGrad op found
  cases op with
  | add => exact notAdd rfl
  | mul => exact notMul rfl
  | sub => exact notSub rfl
  | div => cases rule
  | max => cases rule
  | min => cases rule

theorem deadGradients_eq_nil (cleaned : before.Cleaned stats after) : after.deadGradients = [] := by
  refine List.filter_eq_nil_iff.mpr fun id _ dead => ?_
  rw [Bool.and_eq_true] at dead
  obtain ⟨lhs, rhs, result, resultGrad, op, found, _⟩ := isGradientOf_iff.mp dead.1
  obtain ⟨_, _, _, used, _⟩ := cleaned.gradients id lhs rhs result resultGrad op found
  simp [used] at dead

theorem mem_unsupported (cleaned : before.Cleaned stats after)
    (judged : after.verdict id = .unsupported) : id ∈ stats.unsupported := by
  rw [verdict_eq_unsupported_iff, Bool.and_eq_true] at judged
  obtain ⟨lhs, rhs, result, resultGrad, op, found, _⟩ := isGradientOf_iff.mp judged.1
  obtain ⟨_, _, _, _, listed⟩ := cleaned.gradients id lhs rhs result resultGrad op found
  exact listed

end Cleaned

end Graph

theorem Edit.optimize_ends {graph : Graph} {config : Config} (sound : graph.WellFormed)
    (prunes : config.prune) (mode : CompilationMode) :
    (Edit.optimize config mode graph).Meets
      (fun stats after => graph.Cleaned stats after ∧ after.WellFormed ∧
        (config.unsupported = .error → stats.unsupported = []))
      (fun _ _ => True) := by
  refine (meets_optimize sound).mpr
    (Outcome.meets_iff.mpr ⟨fun stats ended => ?_, fun _ _ => trivial⟩)
  obtain ⟨ledger, replaced, passed⟩ := (Lowering.lower_meets sound config mode).of_ok ended
  obtain ⟨summary, noneRead⟩ := (Lowering.lower_summarizes sound config mode).of_ok ended
  have formed := passed.lowered.wellFormed
  have pruned := Edit.pruned_prune formed false
  rw [if_pos prunes]
  refine ⟨passed.cleaned sound summary pruned formed.settled_swept, pruned.wellFormed, ?_⟩
  intro strict
  refine List.eq_nil_iff_forall_not_mem.mpr fun id listed => ?_
  have read := (summary.mem_unsupported id).mp listed
  simp [noneRead strict] at read

theorem Edit.optimize_cleaned {before after : Graph} {config : Config} {stats : Stats}
    (prunes : config.prune) (formed : after.WellFormed) (cleaned : before.Cleaned stats after)
    (noneListed : config.unsupported = .error → stats.unsupported = []) (mode : CompilationMode) :
    (Edit.optimize config mode after).Meets
      (fun repeated final => final = after ∧
        repeated.lowered = 0 ∧ repeated.dead = 0 ∧ repeated.created = 0)
      (fun _ _ => False) := by
  have tolerated : config.unsupported = .error → ∀ id, after.verdict id ≠ .unsupported := by
    intro strict id judged
    have listed := cleaned.mem_unsupported judged
    simp [noneListed strict] at listed
  refine (meets_optimize formed).mpr
    ((Lowering.lower_idle formed cleaned.idle config mode tolerated).mono ?_
      fun _ _ impossible => impossible)
  intro repeated middle unchanged
  obtain ⟨rfl, lowered, created, summary⟩ := unchanged
  rw [if_pos prunes, cleaned.settled.swept_eq]
  refine ⟨rfl, lowered, ?_, created⟩
  rw [summary.dead, cleaned.deadGradients_eq_nil, List.length_nil]

theorem Session.result_optimize_mixed :
    (Edit.optimize .default .train (Session.run .empty Session.mixedGradients)).result =
      .ok ⟨1, 1, [5], 2⟩ :=
  (Edit.result_optimize (Session.reachable_run .empty Session.mixedGradients).wellFormed
    .default .train).trans (by decide +kernel)

/-- All passes together leave no gradient of a sum, a product or a difference, and nothing that is
neither wanted nor read; inputs and saves stay, also in a cyclic graph. -/
theorem Reachable.optimize_cleans {graph : Graph} {config : Config} {mode : CompilationMode}
    {stats : Stats} (reachable : Reachable graph) (prunes : config.prune)
    (completed : (Edit.optimize config mode graph).result = .ok stats) :
    graph.Cleaned stats (Edit.optimize config mode graph).graph :=
  ((Edit.optimize_ends reachable.wellFormed prunes mode).of_ok completed).1

theorem Session.mixed_optimize_cleans :
    let graph := Session.run .empty Session.mixedGradients
    Config.default.prune = true ∧
      (Edit.optimize .default .train graph).result = .ok ⟨1, 1, [5], 2⟩ ∧
        graph.Cleaned ⟨1, 1, [5], 2⟩ (Edit.optimize .default .train graph).graph := by
  have completed := Session.result_optimize_mixed
  exact ⟨rfl, completed, Reachable.optimize_cleans
    (Session.reachable_run .empty Session.mixedGradients) rfl completed⟩

/-- All passes together, done once more, find nothing to do, whatever is made of gradients without
a rule. -/
theorem Reachable.optimize_idempotent {graph : Graph} {config : Config}
    {mode again : CompilationMode} {stats : Stats} (reachable : Reachable graph)
    (prunes : config.prune)
    (completed : (Edit.optimize config mode graph).result = .ok stats) :
    ∃ repeated,
      (Edit.optimize config again (Edit.optimize config mode graph).graph).result =
        .ok repeated ∧
      (Edit.optimize config again (Edit.optimize config mode graph).graph).graph =
        (Edit.optimize config mode graph).graph ∧
      repeated.lowered = 0 ∧ repeated.dead = 0 ∧ repeated.created = 0 := by
  have ends := (Edit.optimize_ends reachable.wellFormed prunes mode).of_ok completed
  generalize (Edit.optimize config mode graph).graph = after at ends ⊢
  obtain ⟨cleaned, formed, noneListed⟩ := ends
  exact (Edit.optimize_cleaned prunes formed cleaned noneListed again).exists_ok

/-- The gradient without a rule stays, and the second time all counts are zero. -/
theorem Session.mixed_optimize_idempotent :
    let graph := Session.run .empty Session.mixedGradients
    let optimized := (Edit.optimize .default .train graph).graph
    Config.default.prune = true ∧
      (Edit.optimize .default .train graph).result = .ok ⟨1, 1, [5], 2⟩ ∧
        ∃ repeated, (Edit.optimize .default .train optimized).result = .ok repeated ∧
          (Edit.optimize .default .train optimized).graph = optimized ∧
            repeated.lowered = 0 ∧ repeated.dead = 0 ∧ repeated.created = 0 := by
  have completed := Session.result_optimize_mixed
  exact ⟨rfl, completed, Reachable.optimize_idempotent
    (Session.reachable_run .empty Session.mixedGradients) rfl completed⟩

end OpGraph
