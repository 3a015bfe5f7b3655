import OpGraph.Proofs.Lowering.Resolution
import OpGraph.Proofs.Lowering.Statistics

namespace OpGraph

/-! A second lowering pass finds nothing to do.  A complete pass leaves no reader of a gradient that
has a rule, and a pass over such a graph changes nothing, in whatever order it visits the nodes.
Gradients without a rule are read after a pass exactly if they were read before it. -/

namespace Graph

/-- No gradient that has a rule is read. -/
def Idle (graph : Graph) : Prop :=
  ∀ id, graph.verdict id ≠ .lowered

variable {graph before after : Graph} {policy : UnsupportedPolicy} {visit : Visit} {id : NodeId}
  {op : BinaryOp} {visited : List NodeId} {ledger : Ledger} {change replaced : Value → Value}

theorem Visited.eq_of_idle (idle : before.Idle) (visited : before.Visited policy id visit after) :
    after = before := by
  cases visited with
  | kept judged different tolerated => rfl
  | lowered isGradient judged rewritten => exact absurd judged (idle id)

theorem Idle.not_readBy {lhs rhs result resultGrad : Value} {user : NodeId} {output : Nat}
    (idle : graph.Idle) (formed : graph.WellFormed)
    (isGradient : graph.node? id = some (.gradient lhs rhs result resultGrad op))
    (rule : op.isLowered) : ¬ graph.ReadBy user ⟨id, output⟩ := by
  intro reads
  have used := formed.hasUses_iff_reads.mpr ⟨user, reads_iff_readBy.mpr ⟨_, reads, rfl⟩⟩
  refine idle id ?_
  rw [verdict_of_gradient isGradient, if_neg (not_not.mpr used), if_pos rule]

theorem Refuses.of_idle {reason : GraphError} (formed : graph.WellFormed) (idle : graph.Idle)
    (refuses : graph.Refuses policy id reason after) :
    after = graph ∧ graph.verdict id = .unsupported ∧ policy = .error := by
  cases refuses with
  | unsupported isGradient judged strict => exact ⟨rfl, judged, strict⟩
  | untouched isGradient passes reads =>
      exact absurd reads (idle.not_readBy formed isGradient (isLowered_of_passesOn passes))
  | halfDone isGradient reads rewired =>
      exact absurd reads (idle.not_readBy formed isGradient rfl)

theorem Passed.idle (sound : before.WellFormed)
    (passed : before.Passed before.topologicalOrder after ledger replaced) : after.Idle := by
  intro id judged
  rw [verdict_eq_lowered_iff, Bool.and_eq_true, hasUses_iff_isRead passed.lowered.wellFormed]
    at judged
  obtain ⟨hasRule, value, isRead, rfl⟩ := judged
  exact passed.unread sound isRead (isGradientOf_iff.mp hasRule)

theorem Lowered.gradientOp?_eq (sound : before.WellFormed)
    (lowered : before.Lowered visited ledger replaced after) :
    after.gradientOp? id = before.gradientOp? id := by
  cases isGradient : before.gradientOp? id with
  | none =>
      refine Option.eq_none_iff_forall_ne_some.mpr fun op later => ?_
      cases isGradient.symm.trans (lowered.toExpanded.gradientOp?_before sound later)
  | some op =>
      obtain ⟨lhs, rhs, result, resultGrad, found⟩ := exists_gradient isGradient
      rw [gradientOp?_mapOperands found (lowered.node? found), isGradient]

theorem Lowered.hasUses_of_no_rule (sound : before.WellFormed)
    (lowered : before.Lowered visited ledger replaced after)
    (isGradient : before.gradientOp? id = some op) (noRule : ¬ op.isLowered) :
    after.hasUses id ↔ before.hasUses id := by
  obtain ⟨_, _, _, _, found⟩ := exists_gradient isGradient
  rw [hasUses_iff_isRead lowered.wellFormed, hasUses_iff_isRead sound]
  constructor
  · intro used
    obtain ⟨value, isRead, rfl⟩ := used
    refine ⟨value, (lowered.isRead_before sound isRead).resolve_right fun absent => ?_, rfl⟩
    exact Graph.ne_of_absent found absent rfl
  · intro used
    obtain ⟨value, ⟨user, entry, stored, member⟩, rfl⟩ := used
    have stays : replaced value = value := by
      apply lowered.replaced_eq_self
      intro lowerable
      obtain ⟨_, _, _, _, rule, same, lowers⟩ := lowerable
      cases found.symm.trans same
      exact noRule lowers
    exact ⟨value, ⟨user, _, lowered.kept stored,
      Entry.mem_operands_mapOperands.mpr ⟨value, member, stays⟩⟩, rfl⟩

theorem Lowered.verdict_eq_unsupported_iff (sound : before.WellFormed)
    (lowered : before.Lowered visited ledger replaced after) :
    after.verdict id = .unsupported ↔ before.verdict id = .unsupported := by
  simp only [Graph.verdict_eq_unsupported_iff, isGradientOf, lowered.gradientOp?_eq sound]
  cases isGradient : before.gradientOp? id with
  | none => simp
  | some op =>
      by_cases rule : op.isLowered
      · simp [rule]
      · simp [rule, lowered.hasUses_of_no_rule sound isGradient rule]

theorem Lowered.perm_unsupported {stats repeated : Stats} {final finalAgain : Graph}
    (sound : before.WellFormed) (lowered : before.Lowered visited ledger replaced after)
    (summary : before.Summary stats final) (summaryAgain : after.Summary repeated finalAgain) :
    repeated.unsupported.Perm stats.unsupported := by
  apply (List.perm_ext_iff_of_nodup summaryAgain.nodup_unsupported summary.nodup_unsupported).mpr
  intro id
  rw [summaryAgain.mem_unsupported_iff, summary.mem_unsupported_iff,
    lowered.verdict_eq_unsupported_iff sound]

theorem Summary.lowered_of_idle {stats : Stats} (summary : graph.Summary stats after)
    (idle : graph.Idle) : stats.lowered = 0 := by
  rw [summary.lowered, List.length_eq_zero_iff]
  exact List.filter_eq_nil_iff.mpr fun id _ => fun reads =>
    idle id (verdict_eq_lowered_iff.mpr reads)

end Graph

namespace Lowering

open Edit OpGraph.Graph

variable {graph : Graph}

theorem visitAll_of_idle (formed : graph.WellFormed) (idle : graph.Idle) (config : Config)
    (order : List NodeId) (stored : ∀ id ∈ order, graph.contains id) :
    (visitAll config order graph).Meets (fun _ after => after = graph)
      (fun _ after => after = graph ∧ config.unsupported = .error ∧
        ∃ id, graph.verdict id = .unsupported) := by
  induction order with
  | nil => exact rfl
  | cons id rest ih =>
      simp only [visitAll, meets_bind, meets_pure]
      refine (visit_ends formed (stored id (by simp)) config).mono ?_ ?_
      · intro visit after visited
        rw [visited.eq_of_idle idle]
        exact ih fun other member => stored other (by simp [member])
      · intro reason after refuses
        obtain ⟨same, judged, strict⟩ := refuses.of_idle formed idle
        exact ⟨same, strict, id, judged⟩

theorem lower_idle (formed : graph.WellFormed) (idle : graph.Idle) (config : Config)
    (mode : CompilationMode)
    (tolerated : config.unsupported = .error → ∀ id, graph.verdict id ≠ .unsupported) :
    (lower config mode graph).Meets
      (fun stats after => after = graph ∧ stats.lowered = 0 ∧ stats.created = 0 ∧
        graph.Summary stats graph)
      (fun _ _ => False) := by
  have unchanged : (lower config mode graph).Meets (fun _ after => after = graph)
      (fun _ after => after = graph ∧ config.unsupported = .error ∧
        ∃ id, graph.verdict id = .unsupported) :=
    meets_lower.mpr <| visitAll_of_idle formed idle config _ fun _ member =>
      graph.mem_topologicalOrder.mp (List.mem_reverse.mp member)
  refine Outcome.meets_iff.mpr ⟨fun stats ended => ?_, fun reason ended => ?_⟩
  · have same := unchanged.of_ok ended
    have summary := ((lower_summarizes formed config mode).of_ok ended).1
    rw [same] at summary
    have grown := summary.size_eq
    exact ⟨same, summary.lowered_of_idle idle, by omega, summary⟩
  · obtain ⟨_, strict, id, judged⟩ := unchanged.of_error ended
    exact tolerated strict id judged

/-- A pass over a graph that a complete pass has left lists the same gradients without rule, and all
other gradients are dead. -/
theorem lower_passed {before after : Graph} {ledger : Ledger} {replaced : Value → Value}
    {stats : Stats} {config : Config} (sound : before.WellFormed)
    (passed : before.Passed before.topologicalOrder after ledger replaced)
    (summary : before.Summary stats after) (tolerant : config.unsupported ≠ .error)
    (mode : CompilationMode) :
    (lower config mode after).Meets
      (fun repeated final => final = after ∧ repeated.lowered = 0 ∧ repeated.created = 0 ∧
        repeated.unsupported.Perm stats.unsupported ∧
        repeated.dead + repeated.unsupported.length =
          (after.ids.filter (after.isGradientOf fun _ => true)).length)
      (fun _ _ => False) := by
  refine (lower_idle passed.lowered.wellFormed (passed.idle sound) config mode
    fun strict => absurd strict tolerant).mono ?_ fun _ _ impossible => impossible
  intro repeated final unchanged
  obtain ⟨same, lowered, created, summaryAgain⟩ := unchanged
  refine ⟨same, lowered, created, ?_, ?_⟩
  · exact passed.lowered.perm_unsupported sound summary summaryAgain
  · rw [← summaryAgain.complete, lowered, Nat.zero_add]

end Lowering

open OpGraph.Graph

/-- A second pass finds nothing to do, in whatever mode and under whatever configuration that
tolerates gradients without a rule. -/
theorem Reachable.lower_idempotent {graph : Graph} {first second : Config}
    {mode again : CompilationMode} {stats : Stats} (reachable : Reachable graph)
    (tolerant : second.unsupported ≠ .error)
    (completed : (Edit.lower first mode graph).result = .ok stats) :
    ∃ repeated,
      (Edit.lower second again (Edit.lower first mode graph).graph).result = .ok repeated ∧
      (Edit.lower second again (Edit.lower first mode graph).graph).graph =
        (Edit.lower first mode graph).graph ∧
      repeated.lowered = 0 ∧ repeated.created = 0 ∧
      repeated.unsupported.Perm stats.unsupported ∧
      repeated.dead + repeated.unsupported.length =
        ((Edit.lower first mode graph).graph.ids.filter
          ((Edit.lower first mode graph).graph.isGradientOf fun _ => true)).length := by
  have sound := reachable.wellFormed
  have arrived := (Lowering.lower_meets sound first mode).of_ok completed
  have summary := ((Lowering.lower_summarizes sound first mode).of_ok completed).1
  generalize (Edit.lower first mode graph).graph = after at arrived summary ⊢
  obtain ⟨ledger, replaced, passed⟩ := arrived
  exact (Lowering.lower_passed sound passed summary tolerant again).exists_ok

/-- The gradient without a rule is still reported, and the lowered one is now dead. -/
theorem Session.mixed_lower_idempotent :
    let graph := Session.run .empty Session.mixedGradients
    let lowered := (Edit.lower .default .train graph).graph
    (Edit.lower .default .train graph).result = .ok ⟨1, 1, [5], 2⟩ ∧
      Config.default.unsupported ≠ .error ∧
        ∃ repeated, (Edit.lower .default .infer lowered).result = .ok repeated ∧
          (Edit.lower .default .infer lowered).graph = lowered ∧ repeated.lowered = 0 ∧
            repeated.created = 0 ∧ repeated.unsupported.Perm [5] ∧
              repeated.dead + repeated.unsupported.length =
                (lowered.ids.filter (lowered.isGradientOf fun _ => true)).length := by
  have completed : (Edit.lower .default .train (Session.run .empty Session.mixedGradients)).result =
      .ok ⟨1, 1, [5], 2⟩ := by decide +kernel
  have tolerant : Config.default.unsupported ≠ .error := by decide
  exact ⟨completed, tolerant, Reachable.lower_idempotent
    (Session.reachable_run .empty Session.mixedGradients) tolerant completed⟩

end OpGraph
