import OpGraph.Proofs.Lowering.Run
import OpGraph.Proofs.Reachable

namespace OpGraph

/-! What a complete pass counts.  Each visit is counted by what the graph before the pass says of
the node, so that the statistics are answers to questions about that graph. -/

namespace Graph

variable {graph before middle after : Graph} {policy : UnsupportedPolicy} {order : List NodeId}
  {id : NodeId}

/-- The gradient nodes of some kind of operators that something reads. -/
def readGradients (graph : Graph) (kind : BinaryOp → Bool) : List NodeId :=
  graph.ids.filter fun id => graph.isGradientOf kind id && graph.hasUses id

/-- The gradient nodes that nothing reads. -/
def deadGradients (graph : Graph) : List NodeId :=
  graph.ids.filter fun id => graph.isGradientOf (fun _ => true) id && ! graph.hasUses id

theorem verdict_eq_lowered_iff :
    graph.verdict id = .lowered ↔ graph.isGradientOf (·.isLowered) id && graph.hasUses id := by
  unfold verdict isGradientOf
  cases graph.gradientOp? id <;> grind

theorem verdict_eq_dead_iff :
    graph.verdict id = .dead ↔ graph.isGradientOf (fun _ => true) id && ! graph.hasUses id := by
  unfold verdict isGradientOf
  cases graph.gradientOp? id <;> grind

theorem verdict_eq_unsupported_iff :
    graph.verdict id = .unsupported ↔
      graph.isGradientOf (! ·.isLowered) id && graph.hasUses id := by
  unfold verdict isGradientOf
  cases graph.gradientOp? id <;> grind

theorem verdict_ne_skipped_iff :
    graph.isGradientOf (fun _ => true) id ↔ graph.verdict id ≠ .skipped := by
  unfold verdict isGradientOf
  cases graph.gradientOp? id <;> grind

theorem tally_eq (graph : Graph) (order : List NodeId) : graph.tally order =
    { lowered := order.countP (graph.verdict · = .lowered)
      dead := order.countP (graph.verdict · = .dead)
      unsupported := order.filter (graph.verdict · = .unsupported)
      created := 0 } := by
  induction order with
  | nil => rfl
  | cons id rest ih =>
      rw [tally, List.foldr_cons, ← tally, ih]
      cases judged : graph.verdict id <;> simp [Stats.record, judged]

/-- Every gradient node is counted once: as lowered, as dead or as unsupported. -/
theorem countP_verdicts (graph : Graph) (order : List NodeId) :
    order.countP (graph.verdict · = .lowered) + order.countP (graph.verdict · = .dead) +
        (order.filter (graph.verdict · = .unsupported)).length =
      order.countP (graph.isGradientOf fun _ => true) := by
  induction order with
  | nil => rfl
  | cons id rest ih =>
      simp only [List.countP_cons, ← ih, graph.verdict_ne_skipped_iff, List.filter_cons]
      cases graph.verdict id <;> simp <;> omega

theorem sum_growth (graph : Graph) (order : List NodeId) :
    (order.map graph.growth).sum =
      2 * order.countP fun id => graph.isGradientOf (·.isExpanded) id && graph.hasUses id := by
  induction order with
  | nil => rfl
  | cons id rest ih =>
      rw [List.map_cons, List.sum_cons, ih, List.countP_cons, growth]
      grind

theorem countP_topologicalOrder (graph : Graph) (wanted : NodeId → Bool) :
    graph.topologicalOrder.reverse.countP wanted = (graph.ids.filter wanted).length := by
  rw [((List.reverse_perm _).trans graph.topologicalOrder_perm).countP_eq,
    List.countP_eq_length_filter]

/-- The statistics of a complete pass, as the graph before it determines them. -/
structure Summary (before : Graph) (stats : Stats) (after : Graph) : Prop where
  lowered : stats.lowered = (before.readGradients (·.isLowered)).length
  dead : stats.dead = before.deadGradients.length
  mem_unsupported : ∀ id, id ∈ stats.unsupported ↔ id ∈ before.readGradients (! ·.isLowered)
  nodup_unsupported : stats.unsupported.Nodup
  inOrder : stats.unsupported.Sublist before.topologicalOrder.reverse
  created : stats.created = 2 * (before.readGradients (·.isExpanded)).length
  size_eq : after.size = before.size + stats.created
  complete : stats.lowered + stats.dead + stats.unsupported.length =
    (before.ids.filter (before.isGradientOf fun _ => true)).length

theorem Counted.summary {stats : Stats}
    (counted : before.Counted policy before.topologicalOrder.reverse before stats after) :
    before.Summary { stats with created := after.size - before.size } after := by
  have growth : after.size = before.size + 2 * (before.readGradients (·.isExpanded)).length := by
    rw [counted.size_eq, sum_growth, countP_topologicalOrder, readGradients]
  have unsupported : stats.unsupported =
      before.topologicalOrder.reverse.filter (before.verdict · = .unsupported) := by
    rw [counted.stats_eq, tally_eq]
  have once : before.topologicalOrder.reverse.Nodup :=
    (List.reverse_perm _).nodup_iff.mpr before.nodup_topologicalOrder
  refine ⟨?_, ?_, fun id => ?_, ?_, ?_, ?_, ?_, ?_⟩
  · simp only [counted.stats_eq, tally_eq, countP_topologicalOrder, readGradients,
      verdict_eq_lowered_iff, Bool.decide_eq_true]
  · simp only [counted.stats_eq, tally_eq, countP_topologicalOrder, deadGradients,
      verdict_eq_dead_iff, Bool.decide_eq_true]
  · simp only [unsupported, readGradients, List.mem_filter, List.mem_reverse,
      before.topologicalOrder_perm.mem_iff, verdict_eq_unsupported_iff, Bool.decide_eq_true]
  · exact unsupported ▸ once.filter _
  · exact unsupported ▸ List.filter_sublist
  · simp only [growth]
    omega
  · simp only [growth]
    omega
  · rw [← countP_topologicalOrder, ← countP_verdicts, counted.stats_eq, tally_eq]

theorem Summary.mem_unsupported_iff {stats : Stats} (summary : before.Summary stats after) :
    id ∈ stats.unsupported ↔ before.verdict id = .unsupported := by
  rw [summary.mem_unsupported, readGradients, List.mem_filter, ← verdict_eq_unsupported_iff]
  refine and_iff_right_of_imp fun judged => ?_
  rw [verdict_eq_unsupported_iff, Bool.and_eq_true] at judged
  obtain ⟨_, _, _, _, _, found, _⟩ := isGradientOf_iff.mp judged.1
  exact Store.mem_indices.mpr (contains_of_node? found)

theorem Counted.readGradients_eq_nil {stats : Stats}
    (counted : before.Counted policy before.topologicalOrder.reverse before stats after)
    (strict : policy = .error) : before.readGradients (! ·.isLowered) = [] := by
  refine List.filter_eq_nil_iff.mpr fun id member read => ?_
  have listed := List.mem_reverse.mpr (before.topologicalOrder_perm.mem_iff.mpr member)
  exact counted.tolerated id listed (verdict_eq_unsupported_iff.mpr read) strict

end Graph

theorem Lowering.lower_summarizes {graph : Graph} (sound : graph.WellFormed) (config : Config)
    (mode : CompilationMode) :
    (Edit.lower config mode graph).Meets
      (fun stats after => graph.Summary stats after ∧
        (config.unsupported = .error → graph.readGradients (! ·.isLowered) = []))
      (fun _ _ => True) := by
  refine Edit.meets_lower.mpr <| (visitAll_topologicalOrder_meets sound config).mono ?_
    fun _ _ _ => trivial
  intro stats after both
  exact ⟨both.1.summary, both.1.readGradients_eq_nil⟩

/-- The statistics of a complete pass are those of the graph before it, also when the graph is
cyclic, under every configuration. -/
theorem Reachable.summary_of_lower {graph : Graph} {config : Config} {mode : CompilationMode}
    {stats : Stats} (reachable : Reachable graph)
    (completed : (Edit.lower config mode graph).result = .ok stats) :
    graph.Summary stats (Edit.lower config mode graph).graph := by
  have run := Lowering.visitAll_topologicalOrder_meets reachable.wellFormed config
  have summary : (Edit.lower config mode graph).Meets graph.Summary (fun _ _ => True) :=
    Edit.meets_lower.mpr (run.mono (fun _ _ both => both.1.summary) fun _ _ _ => trivial)
  exact summary.of_ok completed

/-- A gradient of a product on a cycle, a gradient without rule and one that nothing reads. -/
def Session.mixedGradients : List Command :=
  Session.cyclicGradient ++
    [.createGradient "quotient.grad" ⟨0, 0⟩ ⟨1, 0⟩ ⟨0, 0⟩ ⟨4, 1⟩ .div, .createSave "kept" ⟨5, 0⟩,
      .createGradient "unused.grad" ⟨0, 0⟩ ⟨1, 0⟩ ⟨0, 0⟩ ⟨0, 0⟩ .max]

theorem Session.mixed_summary :
    let graph := Session.run .empty Session.mixedGradients
    (Edit.lower .default .train graph).result = .ok ⟨1, 1, [5], 2⟩ ∧
      graph.Summary ⟨1, 1, [5], 2⟩ (Edit.lower .default .train graph).graph := by
  have completed : (Edit.lower .default .train (Session.run .empty Session.mixedGradients)).result =
      .ok ⟨1, 1, [5], 2⟩ := by decide +kernel
  exact ⟨completed, Reachable.summary_of_lower
    (Session.reachable_run .empty Session.mixedGradients) completed⟩

end OpGraph
