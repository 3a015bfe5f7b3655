import OpGraph.Proofs.Lowering.Run
import OpGraph.Proofs.Reachable

namespace OpGraph

/-! What a complete lowering pass comes to.  No gradient of a mode with a rule is read any more, and
every operand is what following the replacements to their end gives: the pass, which rewrites
operands again and again, is one substitution. -/

namespace Graph

variable {before after graph : Graph} {ledger : Ledger} {change replaced : Value → Value}
  {visited : List NodeId} {id : NodeId} {source target value : Value}

theorem Expanded.gradientOp?_before {op : BinaryOp} (wellFormed : before.WellFormed)
    (expanded : before.Expanded ledger change after) (isGradient : after.gradientOp? id = some op) :
    before.gradientOp? id = some op := by
  obtain ⟨lhs, rhs, result, resultGrad, found⟩ := exists_gradient isGradient
  obtain ⟨entry, stored, isNode⟩ := node?_eq_some_iff.mp found
  rcases expanded.entry?_cases wellFormed stored with ⟨old, oldStored, rfl⟩ |
    ⟨_, _, _, _, _, _, _, _, _, _, _, created⟩
  · obtain ⟨_, _, _, _, oldNode⟩ := Node.mapOperands_eq_gradient isNode
    exact gradientOp?_of_gradient (node?_eq_some_iff.mpr ⟨old, oldStored, oldNode⟩)
  · have isGradient := (Expansion.kind_of_entries created).1
    rw [isNode] at isGradient
    cases isGradient

theorem Expanded.isLowerable_before (wellFormed : before.WellFormed)
    (expanded : before.Expanded ledger change after) (lowerable : after.IsLowerable id) :
    before.IsLowerable id := by
  obtain ⟨_, _, _, _, op, found, rule⟩ := lowerable
  have earlier := expanded.gradientOp?_before wellFormed (gradientOp?_of_gradient found)
  obtain ⟨lhs, rhs, result, resultGrad, foundBefore⟩ := exists_gradient earlier
  exact ⟨lhs, rhs, result, resultGrad, op, foundBefore, rule⟩

theorem Passed.unread (sound : before.WellFormed)
    (passed : before.Passed before.topologicalOrder after ledger replaced)
    (isRead : after.IsRead value) : ¬ after.IsLowerable value.node := by
  intro lowerable
  have earlier := passed.lowered.isLowerable_before sound lowerable
  have visited := before.mem_topologicalOrder.mpr earlier.contains
  exact passed.settled value isRead visited earlier

/-- What is read instead of a value in the end: gradients that are passed on are followed, and the
others become outputs of created nodes. -/
def resolve (graph : Graph) (acyclic : graph.Acyclic) (ledger : Ledger) (value : Value) : Value :=
  match _forwarded : graph.forward? value with
  | some next => graph.resolve acyclic ledger next
  | none => (graph.created? ledger value).getD value
termination_by acyclic.wellFounded.wrap value.node
decreasing_by
  obtain ⟨lhs, rhs, result, op, found, _⟩ := forward?_eq_some_iff.mp _forwarded
  exact reads_of_node? found (by simp [Node.operands])

variable {acyclic : graph.Acyclic}

theorem resolve_of_forward? (forwarded : graph.forward? source = some target) :
    graph.resolve acyclic ledger source = graph.resolve acyclic ledger target := by
  rw [resolve]
  split
  · next next found => rw [Option.some.inj (found.symm.trans forwarded)]
  · next found => cases found.symm.trans forwarded

theorem resolve_of_stays (stays : graph.forward? value = none) :
    graph.resolve acyclic ledger value = (graph.created? ledger value).getD value := by
  rw [resolve]
  split
  · next next forwarded => cases stays.symm.trans forwarded
  · rfl

theorem resolve_of_created? (created : graph.created? ledger source = some target) :
    graph.resolve acyclic ledger source = target := by
  have stays : graph.forward? source = none := by
    obtain ⟨_, _, _, _, op, expansion, found, _, gradient⟩ := created?_eq_some_iff.mp created
    refine Option.eq_none_iff_forall_ne_some.mpr fun next forwarded => ?_
    obtain ⟨_, _, _, _, same, passes⟩ := forward?_eq_some_iff.mp forwarded
    cases found.symm.trans same
    unfold Expansion.gradient? at gradient
    split at gradient
    · next output => cases (output ▸ passes : BinaryOp.passesOn .mul 0)
    · next output => cases (output ▸ passes : BinaryOp.passesOn .mul 1)
    · next output => cases (output ▸ passes : BinaryOp.passesOn .sub 1)
    · cases gradient
  rw [resolve_of_stays stays, created, Option.getD_some]

theorem resolve_of_not_isLowerable (unsupported : ¬ graph.IsLowerable value.node) :
    graph.resolve acyclic ledger value = value := by
  have fixed : ∀ target, ¬ graph.Replaces ledger value target := fun target replaces =>
    unsupported replaces.isLowered
  have stays : graph.forward? value = none :=
    Option.eq_none_iff_forall_ne_some.mpr fun next found => fixed next (.inl found)
  have uncreated : graph.created? ledger value = none :=
    Option.eq_none_iff_forall_ne_some.mpr fun target found => fixed target (.inr found)
  rw [resolve_of_stays stays, uncreated, Option.getD_none]

theorem not_isLowerable_of_absent (absent : graph.entry? id = none) : ¬ graph.IsLowerable id := by
  intro lowerable
  cases (Store.contains_eq_false_iff.mpr absent).symm.trans lowerable.contains

theorem resolve_of_absent (absent : graph.entry? value.node = none) :
    graph.resolve acyclic ledger value = value :=
  resolve_of_not_isLowerable (not_isLowerable_of_absent absent)

theorem Replaces.resolve_eq (expanded : graph.Expanded ledger change after)
    (replaces : graph.Replaces ledger source target) :
    graph.resolve acyclic ledger source = graph.resolve acyclic ledger target := by
  rcases replaces with forwarded | created
  · exact resolve_of_forward? forwarded
  · rw [resolve_of_created? created, resolve_of_absent (expanded.not_contains created)]

theorem Lowered.resolve_replaced (lowered : graph.Lowered visited ledger replaced after)
    (value : Value) :
    graph.resolve acyclic ledger (replaced value) = graph.resolve acyclic ledger value := by
  have along : ∀ {target}, Relation.ReflTransGen (graph.Replaces ledger) value target →
      graph.resolve acyclic ledger target = graph.resolve acyclic ledger value := by
    intro target path
    induction path with
    | refl => rfl
    | tail _ replaces ih => rw [← replaces.resolve_eq lowered.toExpanded, ih]
  exact along (lowered.follows value)

theorem Passed.replaced_eq_resolve (sound : graph.WellFormed)
    (passed : graph.Passed graph.topologicalOrder after ledger replaced)
    (isRead : graph.IsRead value) : replaced value = graph.resolve acyclic ledger value := by
  have readNow : after.IsRead (replaced value) := by
    obtain ⟨user, entry, found, member⟩ := isRead
    exact ⟨user, _, passed.lowered.kept found, Entry.mem_operands_mapOperands.mpr ⟨_, member, rfl⟩⟩
  have settled : ¬ graph.IsLowerable (replaced value).node := by
    intro lowerable
    obtain ⟨_, _, _, _, op, found, lowered⟩ := lowerable
    have stillThere := passed.lowered.node? found
    exact passed.unread sound readNow ⟨_, _, _, _, op, stillThere, lowered⟩
  rw [← passed.lowered.resolve_replaced value, resolve_of_not_isLowerable settled]

end Graph

open OpGraph.Graph

/-- After a complete pass no node reads a gradient of a sum, a product or a difference: not those
that were there, not those that were created, and not the gradient nodes themselves.  The graph may
well be cyclic. -/
theorem Reachable.gradients_unread_of_lower {graph : Graph} {config : Config}
    {mode : CompilationMode} {stats : Stats} (reachable : Reachable graph)
    (completed : (Edit.lower config mode graph).result = .ok stats) :
    ∀ id lhs rhs result resultGrad op,
      (Edit.lower config mode graph).graph.node? id =
          some (.gradient lhs rhs result resultGrad op) →
        op = .add ∨ op = .mul ∨ op = .sub →
          (∀ user, ¬ (Edit.lower config mode graph).graph.Reads user id) ∧
            (Edit.lower config mode graph).graph.hasUses id = false := by
  intro id lhs rhs result resultGrad op found supported
  have sound := reachable.wellFormed
  obtain ⟨ledger, replaced, passed⟩ := (Lowering.lower_meets sound config mode).of_ok completed
  have lowerable : IsLowerable (Edit.lower config mode graph).graph id :=
    ⟨lhs, rhs, result, resultGrad, op, found, by rcases supported with rfl | rfl | rfl <;> rfl⟩
  have unread : ∀ user, ¬ (Edit.lower config mode graph).graph.Reads user id := by
    intro user reads
    obtain ⟨entry, stored, operand, member, rfl⟩ := reads_iff.mp reads
    exact passed.unread sound ⟨user, entry, stored, member⟩ lowerable
  refine ⟨unread, Bool.eq_false_iff.mpr fun used => ?_⟩
  obtain ⟨user, reads⟩ := passed.lowered.wellFormed.hasUses_iff_reads.mp used
  exact unread user reads

theorem Session.cyclic_gradients_unread :
    let graph := Session.run .empty Session.cyclicGradient
    ¬ graph.Acyclic ∧ (Edit.lower .default .train graph).result = .ok ⟨1, 0, [], 2⟩ ∧
      ∀ id lhs rhs result resultGrad op,
        (Edit.lower .default .train graph).graph.node? id =
            some (.gradient lhs rhs result resultGrad op) →
          op = .add ∨ op = .mul ∨ op = .sub →
            (∀ user, ¬ (Edit.lower .default .train graph).graph.Reads user id) ∧
              (Edit.lower .default .train graph).graph.hasUses id = false := by
  have completed : (Edit.lower .default .train (Session.run .empty Session.cyclicGradient)).result =
      .ok ⟨1, 0, [], 2⟩ := by decide +kernel
  have reachable := Session.reachable_run .empty Session.cyclicGradient
  refine ⟨fun acyclic => acyclic 3 (.tail (b := 4) (.single ?_) ?_), completed,
    Reachable.gradients_unread_of_lower reachable completed⟩
  · change 4 ∈ (Session.run .empty Session.cyclicGradient).sources 3
    decide +kernel
  · change 3 ∈ (Session.run .empty Session.cyclicGradient).sources 4
    decide +kernel

/-- A complete pass over an acyclic graph substitutes, in all operands at once, what each of them
comes to in the end, and creates two nodes for every product and every difference whose gradients
were read. -/
theorem Reachable.lower_eq_substitution {graph : Graph} {config : Config} {mode : CompilationMode}
    {stats : Stats} (reachable : Reachable graph) (acyclic : graph.Acyclic)
    (completed : (Edit.lower config mode graph).result = .ok stats) :
    ∃ ledger : Ledger, (∀ id, (ledger id).isSome ↔ graph.IsExpandable id) ∧
      graph.Expanded ledger (graph.resolve acyclic ledger)
        (Edit.lower config mode graph).graph := by
  have sound := reachable.wellFormed
  obtain ⟨ledger, replaced, passed⟩ := (Lowering.lower_meets sound config mode).of_ok completed
  refine ⟨ledger, fun id => ?_, passed.lowered.toExpanded.congr fun value isRead =>
    passed.replaced_eq_resolve sound isRead⟩
  by_cases stored : graph.contains id
  · exact passed.expanded id (graph.mem_topologicalOrder.mpr stored)
  · refine iff_of_false (fun listed => stored ?_) fun expandable => stored ?_
    · obtain ⟨expansion, found⟩ := Option.isSome_iff_exists.mp listed
      exact graph.mem_topologicalOrder.mp (passed.lowered.started found)
    · obtain ⟨_, _, _, _, _, found, _⟩ := expandable
      exact contains_of_node? found

theorem Session.chained_eq_substitution :
    let graph := Session.run .empty Session.chainedGradients
    (Edit.lower .default .train graph).result = .ok ⟨3, 0, [3], 4⟩ ∧
      ∃ acyclic : graph.Acyclic, ∃ ledger : Ledger,
        (∀ id, (ledger id).isSome ↔ graph.IsExpandable id) ∧
          graph.Expanded ledger (graph.resolve acyclic ledger)
            (Edit.lower .default .train graph).graph := by
  have completed :
      (Edit.lower .default .train (Session.run .empty Session.chainedGradients)).result =
        .ok ⟨3, 0, [3], 4⟩ := by decide +kernel
  have acyclic : (Session.run .empty Session.chainedGradients).Acyclic :=
    acyclic_of_ascending (by decide +kernel)
  exact ⟨completed, acyclic, Reachable.lower_eq_substitution
    (Session.reachable_run .empty Session.chainedGradients) acyclic completed⟩

end OpGraph
