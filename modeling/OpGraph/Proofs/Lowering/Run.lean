import Mathlib.Algebra.GroupWithZero.Nat
import OpGraph.Proofs.Lowering.Rules
import OpGraph.Proofs.Traversal

namespace OpGraph

/-! A whole lowering pass.  A gradient has readers when it is visited exactly if it had readers
before the pass, in whatever order the nodes are visited; and once visited, it has none again.  So
the graph before the pass determines what each visit comes to. -/

namespace Graph

/-- A gradient node of a mode that has a lowering rule. -/
def IsLowerable (graph : Graph) (id : NodeId) : Prop :=
  ∃ lhs rhs result resultGrad op,
    graph.node? id = some (.gradient lhs rhs result resultGrad op) ∧ op.isLowered

/-- A gradient node that is read and whose rule creates nodes. -/
def IsExpandable (graph : Graph) (id : NodeId) : Prop :=
  ∃ lhs rhs result resultGrad op,
    graph.node? id = some (.gradient lhs rhs result resultGrad op) ∧ op.isExpanded ∧
      graph.hasUses id

/-- All visits succeeded: what was visited and could be lowered has no readers any more, and nodes
were created for the gradients that needed them. -/
structure Passed (before : Graph) (visited : List NodeId) (after : Graph) (ledger : Ledger)
    (replaced : Value → Value) : Prop where
  lowered : before.Lowered visited ledger replaced after
  settled : ∀ value, after.IsRead value → value.node ∈ visited → ¬ before.IsLowerable value.node
  expanded : ∀ id ∈ visited, (ledger id).isSome ↔ before.IsExpandable id

variable {before middle after : Graph} {visited : List NodeId} {ledger : Ledger}
  {replaced : Value → Value} {id : NodeId} {lhs rhs result resultGrad : Value} {op : BinaryOp}

theorem Passed.refl (wellFormed : before.WellFormed) :
    before.Passed [] before .empty fun value => value :=
  ⟨.refl wellFormed, by simp, by simp⟩

/-- Whether a gradient has readers does not change before it is visited. -/
theorem Lowered.hasUses_iff (sound : before.WellFormed)
    (lowered : before.Lowered visited ledger replaced middle) (fresh : id ∉ visited)
    (isGradient : before.node? id = some (.gradient lhs rhs result resultGrad op)) :
    middle.hasUses id ↔ before.hasUses id := by
  have stored := contains_of_node? isGradient
  rw [lowered.wellFormed.hasUses_gradient_iff (lowered.node? isGradient),
    sound.hasUses_gradient_iff isGradient,
    lowered.isRead_iff sound (.gradOfLhs id) fresh stored,
    lowered.isRead_iff sound (.gradOfRhs id) fresh stored]

theorem Lowered.verdict_eq (sound : before.WellFormed)
    (lowered : before.Lowered visited ledger replaced middle) (fresh : id ∉ visited)
    (stored : before.contains id) :
    middle.verdict id = before.verdict id ∧ middle.growth id = before.growth id := by
  obtain ⟨entry, found⟩ := Option.isSome_iff_exists.mp stored
  have foundNode : before.node? id = some entry.node := node?_eq_some_iff.mpr ⟨entry, found, rfl⟩
  have sameOp := gradientOp?_mapOperands foundNode (lowered.node? foundNode)
  cases isGradient : before.gradientOp? id with
  | none => simp only [verdict, growth, isGradientOf, sameOp, isGradient, Option.any_none]; simp
  | some op =>
      obtain ⟨_, _, _, _, isNode⟩ := exists_gradient isGradient
      have sameUses : middle.hasUses id = before.hasUses id :=
        Bool.eq_iff_iff.mpr (lowered.hasUses_iff sound fresh isNode)
      unfold verdict growth isGradientOf
      rw [sameOp, sameUses]
      exact ⟨rfl, rfl⟩

theorem IsLowerable.contains (lowerable : before.IsLowerable id) : before.contains id := by
  obtain ⟨_, _, _, _, _, found, _⟩ := lowerable
  exact contains_of_node? found

theorem IsExpandable.isLowerable (expandable : before.IsExpandable id) :
    before.IsLowerable id := by
  obtain ⟨lhs, rhs, result, resultGrad, op, found, expands, _⟩ := expandable
  exact ⟨lhs, rhs, result, resultGrad, op, found, isLowered_of_isExpanded expands⟩

theorem Lowered.replaced_eq_self {value : Value}
    (lowered : before.Lowered visited ledger replaced after)
    (stays : ¬ before.IsLowerable value.node) : replaced value = value := by
  rcases (lowered.follows value).cases_head with same | ⟨next, replaces, _⟩
  · exact same.symm
  · exact absurd replaces.isLowered stays

theorem Lowered.verdict_of_isLowerable (lowered : before.Lowered visited ledger replaced middle)
    (lowerable : before.IsLowerable id) (used : middle.hasUses id) :
    middle.verdict id = .lowered := by
  obtain ⟨_, _, _, _, _, isGradient, rule⟩ := lowerable
  rw [verdict_of_gradient (lowered.node? isGradient), if_neg (not_not.mpr used), if_pos rule]

namespace Passed

theorem skip (passed : before.Passed visited middle ledger replaced) (fresh : id ∉ visited)
    (idle : ∀ value, middle.IsRead value → value.node = id → ¬ before.IsLowerable id)
    (unneeded : ¬ before.IsExpandable id) :
    before.Passed (id :: visited) middle ledger replaced where
  lowered := passed.lowered.mono (List.subset_cons_self id visited)
  settled := by
    intro value isRead member
    rcases List.mem_cons.mp member with same | earlier
    · exact same ▸ idle value isRead same
    · exact passed.settled value isRead earlier
  expanded := by
    intro other member
    rcases List.mem_cons.mp member with rfl | earlier
    · have unlisted : ¬ (ledger other).isSome := by
        intro listed
        obtain ⟨expansion, found⟩ := Option.isSome_iff_exists.mp listed
        exact fresh (passed.lowered.started found)
      exact iff_of_false unlisted unneeded
    · exact passed.expanded other earlier

theorem serve (passed : before.Passed visited middle ledger replaced) (fresh : id ∉ visited)
    (isGradient : before.node? id = some (.gradient lhs rhs result resultGrad op))
    (used : before.hasUses id)
    (served : before.Served (id :: visited) ledger id op middle after) :
    ∃ later replaced, before.Passed (id :: visited) after later replaced := by
  obtain ⟨later, replaced, lowered, others, own⟩ := served.lowered
  refine ⟨later, replaced, lowered, ?_, ?_⟩
  · intro value isRead member lowerable
    rcases List.mem_cons.mp member with same | earlier
    · have found := lowered.node? isGradient
      rw [← same] at found
      rcases lowered.wellFormed.output_of_isRead found isRead with isLhs | isRhs
      · exact served.retired.unread 0 (by simp) (same ▸ isLhs ▸ isRead)
      · exact served.retired.unread 1 (by simp) (same ▸ isRhs ▸ isRead)
    · rcases served.retired.old value isRead with old | absent
      · exact passed.settled value old earlier lowerable
      · obtain ⟨_, _, _, _, _, found, _⟩ := lowerable
        exact passed.lowered.ne_of_absent found absent rfl
  · intro other member
    rcases List.mem_cons.mp member with rfl | earlier
    · rw [own]
      constructor
      · exact fun expands => ⟨lhs, rhs, result, resultGrad, op, isGradient, expands, used⟩
      · intro expandable
        obtain ⟨_, _, _, _, _, found, expands, _⟩ := expandable
        cases isGradient.symm.trans found
        exact expands
    · have different : other ≠ id := fun same => fresh (same ▸ earlier)
      rw [others other different]
      exact passed.expanded other earlier

end Passed

/-- A graph at which the pass arrives when all visits so far succeeded. -/
def Arrived (before : Graph) (visited : List NodeId) (after : Graph) : Prop :=
  ∃ ledger replaced, before.Passed visited after ledger replaced

theorem Passed.visit {policy : UnsupportedPolicy} {visit : Visit} (sound : before.WellFormed)
    (passed : before.Passed visited middle ledger replaced) (fresh : id ∉ visited)
    (stored : before.contains id) (ended : middle.Visited policy id visit after) :
    before.Arrived (id :: visited) after := by
  have formed := passed.lowered.wellFormed
  cases ended with
  | kept judged different tolerated =>
      have unread (lowerable : before.IsLowerable id) : ¬ middle.hasUses id := fun used =>
        different (judged.symm.trans (passed.lowered.verdict_of_isLowerable lowerable used))
      refine ⟨ledger, replaced, passed.skip fresh ?_ ?_⟩
      · intro value isRead same lowerable
        exact unread lowerable ((hasUses_iff_isRead formed).mpr ⟨value, isRead, same⟩)
      · intro expandable
        have lowerable := expandable.isLowerable
        obtain ⟨_, _, _, _, _, isGradient, _, used⟩ := expandable
        exact unread lowerable ((passed.lowered.hasUses_iff sound fresh isGradient).mpr used)
  | lowered isGradient judged rewritten =>
      obtain ⟨_, _, _, _, gradientBefore, rfl, rfl, rfl⟩ :=
        passed.lowered.gradient_before stored isGradient
      have used := (passed.lowered.hasUses_iff sound fresh gradientBefore).mp
        (hasUses_of_lowered isGradient judged)
      have unlisted : ledger id = none :=
        Option.eq_none_iff_forall_ne_some.mpr fun _ listed => fresh (passed.lowered.started listed)
      have widened := passed.lowered.mono (List.subset_cons_self id visited)
      exact passed.serve fresh gradientBefore used
        (rewritten.served sound widened gradientBefore (by simp) unlisted)

/-- What visits of nodes come to, one after the other. -/
def tally (graph : Graph) (order : List NodeId) : Stats :=
  order.foldr (fun id stats => stats.record id (graph.verdict id)) .empty

/-- What visits that all succeed come to, as the graph before them determines it. -/
structure Counted (before : Graph) (policy : UnsupportedPolicy) (order : List NodeId)
    (middle : Graph) (stats : Stats) (after : Graph) : Prop where
  stats_eq : stats = before.tally order
  tolerated : ∀ id ∈ order, before.verdict id = .unsupported → policy ≠ .error
  size_eq : after.size = middle.size + (order.map before.growth).sum

theorem Counted.cons {policy : UnsupportedPolicy} {visit : Visit} {order : List NodeId}
    {stats : Stats} {final : Graph} (wellFormed : middle.WellFormed)
    (same : middle.verdict id = before.verdict id ∧ middle.growth id = before.growth id)
    (ended : middle.Visited policy id visit after)
    (counted : before.Counted policy order after stats final) :
    before.Counted policy (id :: order) middle (stats.record id visit) final where
  stats_eq := by
    rw [counted.stats_eq, ← ended.verdict_eq, same.1]
    rfl
  tolerated := by
    intro other member unsupported
    rcases List.mem_cons.mp member with rfl | member
    · exact ended.tolerated (ended.verdict_eq.symm.trans (same.1.trans unsupported))
    · exact counted.tolerated other member unsupported
  size_eq := by
    rw [counted.size_eq, ended.size_eq wellFormed, same.2, List.map_cons, List.sum_cons,
      Nat.add_assoc]

end Graph

@[simp] theorem Edit.meets_lower {graph : Graph} {config : Config} {mode : CompilationMode}
    {finished : Stats → Graph → Prop} {failed : GraphError → Graph → Prop} :
    (Edit.lower config mode graph).Meets finished failed ↔
      (Lowering.visitAll config graph.topologicalOrder.reverse graph).Meets
        (fun stats after => finished { stats with created := after.size - graph.size } after)
        failed := by
  simp only [lower, meets_bind, meets_reportWhen, meets_ask, meets_pure]

namespace Lowering

open Edit OpGraph.Graph

variable {before middle : Graph} {visited : List NodeId} {ledger : Ledger}
  {replaced : Value → Value} {id : NodeId}

/-- Visits keep the invariant, whatever they do to the graph. -/
theorem visit_meets (sound : before.WellFormed)
    (passed : before.Passed visited middle ledger replaced) (fresh : id ∉ visited)
    (stored : before.contains id) (config : Config) :
    (visit config id middle).Meets
      (fun visit after => middle.Visited config.unsupported id visit after ∧
        before.Arrived (id :: visited) after)
      (fun reason after => middle.Refuses config.unsupported id reason after ∧
        before.Stopped (id :: visited) after) := by
  obtain ⟨entry, found⟩ := Option.isSome_iff_exists.mp stored
  have kept := Store.contains_of_get? (passed.lowered.kept found)
  refine (visit_ends passed.lowered.wellFormed kept config).mono ?_ ?_
  · exact fun visit after ended => ⟨ended, passed.visit sound fresh stored ended⟩
  · intro reason after refuses
    have widened := passed.lowered.mono (List.subset_cons_self id visited)
    exact ⟨refuses, refuses.stopped widened stored (by simp)⟩

theorem visitAll_meets (sound : before.WellFormed) (config : Config) (order : List NodeId)
    (once : (order.reverse ++ visited).Nodup) (stored : ∀ id ∈ order, before.contains id)
    (passed : before.Passed visited middle ledger replaced) :
    (visitAll config order middle).Meets
      (fun stats after => before.Counted config.unsupported order middle stats after ∧
        before.Arrived (order.reverse ++ visited) after)
      (fun _ after => before.Stopped (order.reverse ++ visited) after) := by
  induction order generalizing middle visited ledger replaced with
  | nil => exact ⟨⟨rfl, by simp, rfl⟩, ledger, replaced, passed⟩
  | cons id rest ih =>
      have shifted : (id :: rest).reverse ++ visited = rest.reverse ++ id :: visited := by simp
      rw [shifted] at once ⊢
      have fresh : id ∉ visited :=
        (List.nodup_cons.mp (List.nodup_append.mp once).2.1).1
      have present := stored id (by simp)
      have same := passed.lowered.verdict_eq sound fresh present
      simp only [visitAll, meets_bind, meets_pure]
      refine (visit_meets sound passed fresh present config).mono ?_ ?_
      · intro visit next both
        obtain ⟨ended, later, replacedLater, passedLater⟩ := both
        refine (ih once (fun other member => stored other (by simp [member])) passedLater).mono ?_
          fun _ _ stopped => stopped
        intro stats after run
        obtain ⟨counted, arrived⟩ := run
        exact ⟨counted.cons passed.lowered.wellFormed same ended, arrived⟩
      · intro reason after both
        obtain ⟨_, later, replacedLater, lowered⟩ := both
        exact ⟨later, replacedLater, lowered.mono (List.subset_append_right _ _)⟩

theorem visitAll_prefix_meets {done rest : List NodeId} (sound : before.WellFormed)
    (ordered : before.topologicalOrder.reverse = done ++ rest) (config : Config) :
    (visitAll config done before).Meets
      (fun stats after => before.Counted config.unsupported done before stats after ∧
        before.Arrived done.reverse after)
      (fun _ after => before.Stopped done.reverse after) := by
  have once : (done ++ rest).Nodup :=
    ordered ▸ (List.reverse_perm _).nodup_iff.mpr before.nodup_topologicalOrder
  have doneOnce : (done.reverse ++ []).Nodup := by
    simpa using (List.reverse_perm done).nodup_iff.mpr (List.nodup_append.mp once).1
  have stored : ∀ id ∈ done, before.contains id := by
    intro id member
    apply before.mem_topologicalOrder.mp
    rw [← List.mem_reverse, ordered]
    exact List.mem_append_left _ member
  simpa using visitAll_meets sound config done doneOnce stored (Passed.refl sound)

theorem visitAll_topologicalOrder_meets (sound : before.WellFormed) (config : Config) :
    (visitAll config before.topologicalOrder.reverse before).Meets
      (fun stats after =>
        before.Counted config.unsupported before.topologicalOrder.reverse before stats after ∧
          before.Arrived before.topologicalOrder after)
      (fun _ after => before.Stopped before.topologicalOrder after) := by
  simpa using visitAll_prefix_meets sound (List.append_nil _).symm config

theorem lower_meets (sound : before.WellFormed) (config : Config) (mode : CompilationMode) :
    (lower config mode before).Meets
      (fun _ after => before.Arrived before.topologicalOrder after)
      (fun _ after => before.Stopped before.topologicalOrder after) := by
  exact meets_lower.mpr <| (visitAll_topologicalOrder_meets sound config).mono
    (fun _ _ both => both.2) fun _ _ stopped => stopped

end Lowering

end OpGraph
