import OpGraph.Lowering.Pass
import OpGraph.Proofs.Contracts
import OpGraph.Proofs.Cycles
import OpGraph.Proofs.Lowering.Invariant

namespace OpGraph

/-! How visits end.  What a visit does is said once, in terms of the graph at its start: it leaves
the graph as it is, or it rewrites one gradient node by the rule of its operator.  It fails only for
want of a rule, or because a redirection would make the node of the result's gradient read itself;
the latter takes a cycle. -/

namespace Graph

def gradientOp? (graph : Graph) (id : NodeId) : Option BinaryOp :=
  match graph.node? id with
  | some (.gradient _ _ _ _ op) => some op
  | _ => none

/-- A gradient node whose operator is of some kind. -/
def isGradientOf (graph : Graph) (kind : BinaryOp → Bool) (id : NodeId) : Bool :=
  (graph.gradientOp? id).any kind

/-- What a visit makes of a node if it succeeds. -/
def verdict (graph : Graph) (id : NodeId) : Visit :=
  match graph.gradientOp? id with
  | none => .skipped
  | some op =>
      if ¬ graph.hasUses id then .dead
      else if op.isLowered then .lowered
      else .unsupported

def growth (graph : Graph) (id : NodeId) : Nat :=
  if graph.hasUses id ∧ graph.isGradientOf (·.isExpanded) id then 2 else 0

/-- The two nodes that the rule of an operator calls for were created. -/
structure Grown (before : Graph) (lhs rhs resultGrad : Value) (op : BinaryOp) (ids : Expansion)
    (after : Graph) : Prop where
  created : ∃ type first second, before.type? resultGrad = some type ∧
    ids = before.nextExpansion first ∧
      ids.entries lhs rhs resultGrad type op = [(ids.first, first), (ids.second, second)] ∧
        (before.insert first).WellFormed ∧ after = (before.insert first).insert second
  wellFormed : after.WellFormed

/-- What the rule of an operator does for a gradient node. -/
inductive Rewritten (before : Graph) (id : NodeId) (lhs rhs resultGrad : Value) :
    BinaryOp → Graph → Prop where
  | add {first after : Graph} (lhsRewired : before.Rewired (.gradOfLhs id) resultGrad first)
      (rhsRewired : first.Rewired (.gradOfRhs id) resultGrad after) :
      Rewritten before id lhs rhs resultGrad .add after
  | mul {grown first after : Graph} {ids : Expansion}
      (created : before.Grown lhs rhs resultGrad .mul ids grown)
      (lhsRewired : grown.Rewired (.gradOfLhs id) ⟨ids.first, 0⟩ first)
      (rhsRewired : first.Rewired (.gradOfRhs id) ⟨ids.second, 0⟩ after) :
      Rewritten before id lhs rhs resultGrad .mul after
  | sub {first grown after : Graph} {ids : Expansion}
      (lhsRewired : before.Rewired (.gradOfLhs id) resultGrad first)
      (created : first.Grown lhs rhs resultGrad .sub ids grown)
      (rhsRewired : grown.Rewired (.gradOfRhs id) ⟨ids.second, 0⟩ after) :
      Rewritten before id lhs rhs resultGrad .sub after

/-- What a visit that succeeds does. -/
inductive Visited (before : Graph) (policy : UnsupportedPolicy) (id : NodeId) :
    Visit → Graph → Prop where
  | kept {visit : Visit} (judged : before.verdict id = visit) (different : visit ≠ .lowered)
      (tolerated : visit = .unsupported → policy ≠ .error) :
      Visited before policy id visit before
  | lowered {lhs rhs result resultGrad : Value} {op : BinaryOp} {after : Graph}
      (isGradient : before.node? id = some (.gradient lhs rhs result resultGrad op))
      (judged : before.verdict id = .lowered)
      (rewritten : before.Rewritten id lhs rhs resultGrad op after) :
      Visited before policy id .lowered after

/-- The ways in which a visit fails. -/
inductive Refuses (graph : Graph) (policy : UnsupportedPolicy) (id : NodeId) :
    GraphError → Graph → Prop where
  /-- The mode has no rule, and that is an error. -/
  | unsupported {op : BinaryOp} (isGradient : graph.gradientOp? id = some op)
      (judged : graph.verdict id = .unsupported) (strict : policy = .error) :
      Refuses graph policy id (.unsupportedMode id op) graph
  /-- The first redirection is refused: nothing has changed. -/
  | untouched {lhs rhs result resultGrad : Value} {op : BinaryOp}
      (isGradient : graph.node? id = some (.gradient lhs rhs result resultGrad op))
      (passes : op.passesOn 0) (reads : graph.ReadBy resultGrad.node (.gradOfLhs id)) :
      Refuses graph policy id (.selfRead (.gradOfLhs id) resultGrad) graph
  /-- The second redirection for a sum is refused: the first one stays. -/
  | halfDone {lhs rhs result resultGrad : Value} {after : Graph}
      (isGradient : graph.node? id = some (.gradient lhs rhs result resultGrad .add))
      (reads : graph.ReadBy resultGrad.node (.gradOfRhs id))
      (rewired : graph.Rewired (.gradOfLhs id) resultGrad after) :
      Refuses graph policy id (.selfRead (.gradOfRhs id) resultGrad) after

variable {graph before after : Graph} {policy : UnsupportedPolicy} {id : NodeId} {node : Node}
  {lhs rhs result resultGrad value source target : Value} {op : BinaryOp} {ids : Expansion}

theorem gradientOp?_of_gradient
    (found : graph.node? id = some (.gradient lhs rhs result resultGrad op)) :
    graph.gradientOp? id = some op := by
  simp [gradientOp?, found]

theorem gradientOp?_mapOperands {change : Value → Value} (found : before.node? id = some node)
    (changed : after.node? id = some (node.mapOperands change)) :
    after.gradientOp? id = before.gradientOp? id := by
  simp only [gradientOp?, found, changed]
  cases node <;> rfl

theorem exists_gradient (isGradient : graph.gradientOp? id = some op) :
    ∃ lhs rhs result resultGrad,
      graph.node? id = some (.gradient lhs rhs result resultGrad op) := by
  unfold gradientOp? at isGradient
  split at isGradient
  · next found =>
      cases isGradient
      exact ⟨_, _, _, _, found⟩
  · cases isGradient

theorem isGradientOf_iff {kind : BinaryOp → Bool} :
    graph.isGradientOf kind id ↔ ∃ lhs rhs result resultGrad op,
      graph.node? id = some (.gradient lhs rhs result resultGrad op) ∧ kind op := by
  constructor
  · intro isOfKind
    obtain ⟨op, isGradient, holds⟩ := (Option.any_eq_true _ _).mp isOfKind
    obtain ⟨lhs, rhs, result, resultGrad, found⟩ := exists_gradient isGradient
    exact ⟨lhs, rhs, result, resultGrad, op, found, holds⟩
  · intro gradient
    obtain ⟨_, _, _, _, op, found, holds⟩ := gradient
    exact (Option.any_eq_true _ _).mpr ⟨op, gradientOp?_of_gradient found, holds⟩

theorem verdict_of_gradient
    (found : graph.node? id = some (.gradient lhs rhs result resultGrad op)) :
    graph.verdict id =
      if ¬ graph.hasUses id then .dead else if op.isLowered then .lowered else .unsupported := by
  simp [verdict, gradientOp?_of_gradient found]

theorem verdict_of_not_gradient
    (other : ∀ lhs rhs result resultGrad op, node ≠ .gradient lhs rhs result resultGrad op)
    (found : graph.node? id = some node) : graph.verdict id = .skipped := by
  cases node with
  | gradient lhs rhs result resultGrad op => exact absurd rfl (other _ _ _ _ _)
  | _ => simp [verdict, gradientOp?, found]

theorem isLowered_of_isExpanded (expands : op.isExpanded) : op.isLowered := by
  cases op <;> first | rfl | cases expands

theorem hasUses_of_lowered
    (found : graph.node? id = some (.gradient lhs rhs result resultGrad op))
    (judged : graph.verdict id = .lowered) : graph.hasUses id := by
  rw [verdict_of_gradient found] at judged
  by_contra unused
  simp [unused] at judged

theorem growth_of_lowered
    (found : graph.node? id = some (.gradient lhs rhs result resultGrad op))
    (judged : graph.verdict id = .lowered) :
    graph.growth id = if op.isExpanded then 2 else 0 := by
  have used := hasUses_of_lowered found judged
  simp [growth, isGradientOf, gradientOp?_of_gradient found, used]

theorem growth_of_not_lowered (judged : graph.verdict id ≠ .lowered) : graph.growth id = 0 := by
  refine if_neg fun grows => judged ?_
  obtain ⟨used, expands⟩ := grows
  unfold isGradientOf at expands
  cases isGradient : graph.gradientOp? id with
  | none => simp [isGradient] at expands
  | some op =>
      have rule : op.isLowered := isLowered_of_isExpanded (by simpa [isGradient] using expands)
      simp [verdict, isGradient, used, rule]

theorem WellFormed.output_of_isRead {graph : Graph} {value : Value} (wellFormed : graph.WellFormed)
    (found : graph.node? value.node = some (.gradient lhs rhs result resultGrad op))
    (isRead : graph.IsRead value) :
    value = .gradOfLhs value.node ∨ value = .gradOfRhs value.node := by
  obtain ⟨entry, stored, inRange⟩ := entry?_of_isRead wellFormed isRead
  obtain ⟨_, same, isNode⟩ := node?_eq_some_iff.mp found
  cases stored.symm.trans same
  rw [(wellFormed.entries stored).typeCount, isNode] at inRange
  change value.output < 2 at inRange
  have firstOrSecond : value.output = 0 ∨ value.output = 1 := by omega
  rcases firstOrSecond with isLhs | isRhs
  · exact .inl (congrArg (Value.mk value.node) isLhs)
  · exact .inr (congrArg (Value.mk value.node) isRhs)

theorem WellFormed.hasUses_gradient_iff {graph : Graph} (wellFormed : graph.WellFormed)
    (found : graph.node? id = some (.gradient lhs rhs result resultGrad op)) :
    graph.hasUses id ↔ graph.IsRead (.gradOfLhs id) ∨ graph.IsRead (.gradOfRhs id) := by
  rw [hasUses_iff_isRead wellFormed]
  constructor
  · intro used
    obtain ⟨value, isRead, rfl⟩ := used
    rcases wellFormed.output_of_isRead found isRead with same | same
    · exact .inl (same ▸ isRead)
    · exact .inr (same ▸ isRead)
  · intro isRead
    rcases isRead with isRead | isRead
    · exact ⟨_, isRead, rfl⟩
    · exact ⟨_, isRead, rfl⟩

theorem WellFormed.unused_gradient_iff {graph : Graph} (wellFormed : graph.WellFormed)
    (found : graph.node? id = some (.gradient lhs rhs result resultGrad op)) :
    graph.useCount (.gradOfLhs id) = 0 ∧ graph.useCount (.gradOfRhs id) = 0 ↔
      ¬ graph.hasUses id := by
  rw [wellFormed.hasUses_gradient_iff found, not_or, useCount_eq_zero_iff wellFormed,
    useCount_eq_zero_iff wellFormed]

/-- What is known of the operands of a gradient node. -/
structure GradientAt (graph : Graph) (id : NodeId) (lhs rhs resultGrad : Value)
    (type : TensorType) : Prop where
  outputType : graph.type? (.gradOfLhs id) = some type
  lhsType : graph.type? lhs = some type
  rhsType : graph.type? rhs = some type
  resultGradType : graph.type? resultGrad = some type
  read : ∀ operand ∈ [lhs, rhs, resultGrad], graph.IsRead operand
  apart : ∀ operand ∈ [lhs, rhs, resultGrad], operand.node ≠ id

theorem WellFormed.gradientAt {graph : Graph} {id : NodeId} {lhs rhs result resultGrad : Value}
    {op : BinaryOp} (wellFormed : graph.WellFormed)
    (found : graph.node? id = some (.gradient lhs rhs result resultGrad op)) :
    ∃ type, graph.GradientAt id lhs rhs resultGrad type := by
  obtain ⟨entry, stored, isNode⟩ := node?_eq_some_iff.mp found
  have sound := wellFormed.entries stored
  obtain ⟨type, outputs, lhsType, rhsType, _, resultGradType⟩ := sound.gradient_types isNode
  refine ⟨type, ?_, lhsType, rhsType, resultGradType, fun operand => isRead_of_gradient found, ?_⟩
  · exact type?_eq_some_iff.mpr ⟨entry, stored, by simp [outputs, Value.gradOfLhs]⟩
  · intro operand member
    refine sound.noSelfRead operand ?_
    rw [isNode]
    simp only [Node.operands, List.mem_cons] at member ⊢
    tauto

theorem WellFormed.gradient_outputs (wellFormed : graph.WellFormed)
    (found : graph.node? id = some (.gradient lhs rhs result resultGrad op)) :
    ∃ type, graph.GradientAt id lhs rhs resultGrad type ∧
      graph.type? (.gradOfRhs id) = some type := by
  obtain ⟨type, operands⟩ := wellFormed.gradientAt found
  obtain ⟨entry, stored, isNode⟩ := node?_eq_some_iff.mp found
  obtain ⟨outputType, outputs, _, _, _, resultGradType⟩ :=
    (wellFormed.entries stored).gradient_types isNode
  obtain rfl : outputType = type :=
    Option.some.inj (resultGradType.symm.trans operands.resultGradType)
  refine ⟨outputType, operands, type?_eq_some_iff.mpr ⟨entry, stored, ?_⟩⟩
  simp [outputs, Value.gradOfRhs]

theorem Rewired.readBy_before (rewired : graph.Rewired source target after)
    (reads : after.ReadBy id value) (different : value ≠ target) : graph.ReadBy id value := by
  obtain ⟨old, oldReads, same⟩ := rewired.readBy_iff.mp reads
  by_cases moved : old = source
  · rw [moved, Value.redirect_source] at same
    exact absurd same.symm different
  · rw [Value.redirect_of_ne moved] at same
    exact same ▸ oldReads

theorem Refuses.unsupported_of_acyclic {reason : GraphError} (acyclic : graph.Acyclic)
    (refuses : graph.Refuses policy id reason after) :
    ∃ op, reason = .unsupportedMode id op ∧ graph.gradientOp? id = some op ∧
      graph.verdict id = .unsupported ∧ policy = .error := by
  have noReader : ∀ {lhs rhs result resultGrad op output},
      graph.node? id = some (.gradient lhs rhs result resultGrad op) →
        ¬ graph.ReadBy resultGrad.node ⟨id, output⟩ := by
    intro lhs rhs result resultGrad op output isGradient reads
    have forth : graph.Reads id resultGrad.node :=
      reads_of_node? isGradient (by simp [Node.operands])
    have back : graph.Reads resultGrad.node id := reads_iff_readBy.mpr ⟨_, reads, rfl⟩
    exact acyclic id (.tail (.single forth) back)
  cases refuses with
  | unsupported isGradient judged strict => exact ⟨_, rfl, isGradient, judged, strict⟩
  | untouched isGradient passes reads => exact absurd reads (noReader isGradient)
  | halfDone isGradient reads rewired => exact absurd reads (noReader isGradient)

theorem Grown.size_eq (wellFormed : before.WellFormed)
    (grown : before.Grown lhs rhs resultGrad op ids after) : after.size = before.size + 2 := by
  obtain ⟨type, first, second, _, _, _, firstFormed, rfl⟩ := grown.created
  rw [firstFormed.size_insert, wellFormed.size_insert]

theorem Rewritten.size_eq (wellFormed : before.WellFormed)
    (rewritten : before.Rewritten id lhs rhs resultGrad op after) :
    after.size = before.size + if op.isExpanded then 2 else 0 := by
  cases rewritten with
  | add lhsRewired rhsRewired => rw [rhsRewired.graph_size_eq, lhsRewired.graph_size_eq]; rfl
  | mul created lhsRewired rhsRewired =>
      rw [rhsRewired.graph_size_eq, lhsRewired.graph_size_eq, created.size_eq wellFormed]
      rfl
  | sub lhsRewired created rhsRewired =>
      rw [rhsRewired.graph_size_eq, created.size_eq lhsRewired.wellFormed,
        lhsRewired.graph_size_eq]
      rfl

theorem Visited.size_eq {visit : Visit} (wellFormed : before.WellFormed)
    (visited : before.Visited policy id visit after) :
    after.size = before.size + before.growth id := by
  cases visited with
  | kept judged different tolerated =>
      rw [growth_of_not_lowered (judged.trans_ne different), Nat.add_zero]
  | lowered isGradient judged rewritten =>
      rw [growth_of_lowered isGradient judged, rewritten.size_eq wellFormed]

theorem Visited.verdict_eq {visit : Visit} (visited : before.Visited policy id visit after) :
    before.verdict id = visit := by
  cases visited with
  | kept judged different tolerated => exact judged
  | lowered isGradient judged rewritten => exact judged

theorem Visited.tolerated {visit : Visit} (visited : before.Visited policy id visit after)
    (unsupported : visit = .unsupported) : policy ≠ .error := by
  cases visited with
  | kept judged different tolerated => exact tolerated unsupported
  | lowered isGradient judged rewritten => cases unsupported

end Graph

namespace Lowering

open Edit OpGraph.Graph

variable {graph : Graph} {policy : UnsupportedPolicy} {id : NodeId}
  {lhs rhs result resultGrad : Value} {op : BinaryOp}

theorem addRule_ends (formed : graph.WellFormed)
    (isGradient : graph.node? id = some (.gradient lhs rhs result resultGrad .add)) :
    (addRule id resultGrad graph).Meets
      (fun _ after => graph.Rewritten id lhs rhs resultGrad .add after)
      (graph.Refuses policy id) := by
  obtain ⟨type, operands, rhsOutput⟩ := formed.gradient_outputs isGradient
  have apart : resultGrad.node ≠ id := operands.apart resultGrad (by simp)
  simp only [addRule, meets_bind]
  refine replaceUses_meets_of_types formed operands.outputType operands.resultGradType
    (fun _ first firstRewired => ?_) (.untouched isGradient rfl)
  refine replaceUses_meets_of_types firstRewired.wellFormed
    ((firstRewired.type?_eq _).trans rhsOutput)
    ((firstRewired.type?_eq _).trans operands.resultGradType)
    (fun _ second secondRewired => ?_) fun reads => ?_
  · exact .add firstRewired secondRewired
  · have earlier := firstRewired.readBy_before reads fun same =>
      apart (congrArg Value.node same.symm)
    exact .halfDone isGradient earlier firstRewired

theorem mulRule_ends (formed : graph.WellFormed)
    (isGradient : graph.node? id = some (.gradient lhs rhs result resultGrad .mul)) :
    (mulRule id lhs rhs resultGrad graph).Meets
      (fun _ after => graph.Rewritten id lhs rhs resultGrad .mul after)
      (graph.Refuses policy id) := by
  obtain ⟨type, operands, rhsOutput⟩ := formed.gradient_outputs isGradient
  have unread : ∀ output, ∀ operand ∈ [lhs, rhs, resultGrad], operand ≠ ⟨id, output⟩ :=
    fun _ operand member same => operands.apart operand member (congrArg Value.node same)
  simp only [mulRule, meets_bind]
  rw [meets_createArithmetic operands.rhsType operands.resultGradType]
  let lhsGrad : Entry := ⟨"mul.grad.lhs", .arithmetic rhs resultGrad .mul, [type]⟩
  have lhsFormed : (graph.insert lhsGrad).WellFormed :=
    formed.insert (formed.sound_arithmetic operands.rhsType operands.resultGradType)
  have lhsType := formed.type?_insert lhsGrad operands.lhsType
  have resultGradType := formed.type?_insert lhsGrad operands.resultGradType
  rw [meets_createArithmetic lhsType resultGradType]
  let rhsGrad : Entry := ⟨"mul.grad.rhs", .arithmetic lhs resultGrad .mul, [type]⟩
  have rhsFormed : ((graph.insert lhsGrad).insert rhsGrad).WellFormed :=
    lhsFormed.insert (lhsFormed.sound_arithmetic lhsType resultGradType)
  have pair := formed.insertPair lhsFormed rhsGrad
  refine replaceUses_meets_of_types rhsFormed
    (lhsFormed.type?_insert _ (formed.type?_insert _ operands.outputType))
    (lhsFormed.type?_insert _ (formed.type?_insert_self _ _ _))
    (fun _ first firstRewired => ?_) fun reads => ?_
  · refine replaceUses_meets_of_types firstRewired.wellFormed
      ((firstRewired.type?_eq _).trans
        (lhsFormed.type?_insert _ (formed.type?_insert _ rhsOutput)))
      ((firstRewired.type?_eq _).trans (lhsFormed.type?_insert_self _ _ _))
      (fun _ second secondRewired => ?_) fun reads => ?_
    · have grown : graph.Grown lhs rhs resultGrad .mul (graph.nextExpansion lhsGrad)
          ((graph.insert lhsGrad).insert rhsGrad) :=
        ⟨⟨type, lhsGrad, rhsGrad, operands.resultGradType, rfl, rfl, lhsFormed, rfl⟩, rhsFormed⟩
      exact .mul grown firstRewired secondRewired
    · have earlier := firstRewired.readBy_before reads fun same =>
        ne_of_absent isGradient pair.firstAbsent (congrArg Value.node same.symm)
      have operand := (lhsFormed.readBy_insert_self _).mp earlier
      refine absurd rfl (unread 1 _ ?_)
      simp only [Node.operands, List.mem_cons] at operand ⊢
      tauto
  · have earlier := (lhsFormed.readBy_insert_of_ne _ pair.different).mp reads
    have operand := (formed.readBy_insert_self _).mp earlier
    exact absurd rfl (unread 0 _ (List.mem_cons_of_mem _ operand))

theorem subRule_ends (formed : graph.WellFormed)
    (isGradient : graph.node? id = some (.gradient lhs rhs result resultGrad .sub)) :
    (subRule id resultGrad graph).Meets
      (fun _ after => graph.Rewritten id lhs rhs resultGrad .sub after)
      (graph.Refuses policy id) := by
  obtain ⟨type, operands, rhsOutput⟩ := formed.gradient_outputs isGradient
  have apart : resultGrad.node ≠ id := operands.apart resultGrad (by simp)
  simp only [subRule, meets_bind]
  refine replaceUses_meets_of_types formed operands.outputType operands.resultGradType
    (fun _ first firstRewired => ?_) (.untouched isGradient rfl)
  have firstFormed := firstRewired.wellFormed
  have resultGradType := (firstRewired.type?_eq _).trans operands.resultGradType
  simp only [meets_ask, resultGradType, orFail, meets_pure, meets_createZero]
  let zero : Entry := ⟨"zero", .splat (.zero type.element) type, [type]⟩
  have zeroFormed : (first.insert zero).WellFormed := firstFormed.insert WellFormed.sound_zero
  have zeroType : (first.insert zero).type? ⟨first.nodes.nextIndex, 0⟩ = some type :=
    firstFormed.type?_insert_self _ _ _
  have keptType := firstFormed.type?_insert zero resultGradType
  rw [meets_createArithmetic zeroType keptType]
  let negation : Entry :=
    ⟨"sub", .arithmetic ⟨first.nodes.nextIndex, 0⟩ resultGrad .sub, [type]⟩
  have negationFormed : ((first.insert zero).insert negation).WellFormed :=
    zeroFormed.insert (zeroFormed.sound_arithmetic zeroType keptType)
  refine replaceUses_meets_of_types negationFormed
    (zeroFormed.type?_insert _
      (firstFormed.type?_insert _ ((firstRewired.type?_eq _).trans rhsOutput)))
    (zeroFormed.type?_insert_self _ _ _) (fun _ second secondRewired => ?_) fun reads => ?_
  · have grown : first.Grown lhs rhs resultGrad .sub (first.nextExpansion zero)
        ((first.insert zero).insert negation) :=
      ⟨⟨type, zero, negation, resultGradType, rfl, rfl, zeroFormed, rfl⟩, negationFormed⟩
    exact .sub firstRewired grown secondRewired
  · have zeroNew := ne_of_absent isGradient
      (firstRewired.absent_before firstFormed.entry?_nextIndex)
    have operand := (zeroFormed.readBy_insert_self _).mp reads
    simp only [Node.operands, List.mem_cons, List.not_mem_nil, or_false] at operand
    rcases operand with isZero | isGrad
    · exact absurd (congrArg Value.node isZero.symm) zeroNew
    · exact absurd (congrArg Value.node isGrad.symm) apart

theorem rule_ends {rule : Edit Unit} (formed : graph.WellFormed)
    (isGradient : graph.node? id = some (.gradient lhs rhs result resultGrad op))
    (found : rule? id lhs rhs resultGrad op = some rule) :
    (rule graph).Meets (fun _ after => graph.Rewritten id lhs rhs resultGrad op after)
      (graph.Refuses policy id) := by
  cases op with
  | add =>
      cases found
      exact addRule_ends formed isGradient
  | mul =>
      cases found
      exact mulRule_ends formed isGradient
  | sub =>
      cases found
      exact subRule_ends formed isGradient
  | div | max | min => cases found

theorem isSome_rule? : (rule? id lhs rhs resultGrad op).isSome = op.isLowered := by
  cases op <;> rfl

theorem leave_ends (isGradient : graph.gradientOp? id = some op)
    (judged : graph.verdict id = .unsupported) :
    (leave policy id op graph).Meets (graph.Visited policy id) (graph.Refuses policy id) := by
  cases policy with
  | warn => exact .kept judged nofun nofun
  | error => exact .unsupported isGradient judged rfl
  | ignore => exact .kept judged nofun nofun

theorem visitGradient_ends (formed : graph.WellFormed)
    (isGradient : graph.node? id = some (.gradient lhs rhs result resultGrad op))
    (config : Config) :
    (visitGradient config id lhs rhs resultGrad op graph).Meets
      (graph.Visited config.unsupported id) (graph.Refuses config.unsupported id) := by
  have judged := verdict_of_gradient isGradient
  have unused_iff := formed.unused_gradient_iff isGradient
  simp only [visitGradient, meets_bind, meets_ask]
  split
  · next unread =>
      rw [if_pos (unused_iff.mp unread)] at judged
      exact .kept judged (by simp) (by simp)
  · next read =>
      rw [if_neg fun unused => read (unused_iff.mpr unused), ← isSome_rule?] at judged
      cases found : rule? id lhs rhs resultGrad op with
      | none =>
          rw [found] at judged
          exact leave_ends (gradientOp?_of_gradient isGradient) judged
      | some rule =>
          rw [found] at judged
          simp only [meets_bind, meets_reportWhen, meets_pure]
          exact (rule_ends formed isGradient found).mono
            (fun _ after rewritten => .lowered isGradient judged rewritten)
            fun _ _ refuses => refuses

/-- What a visit comes to is seen in the graph at its start. -/
theorem visit_ends (formed : graph.WellFormed) (stored : graph.contains id) (config : Config) :
    (visit config id graph).Meets (graph.Visited config.unsupported id)
      (graph.Refuses config.unsupported id) := by
  obtain ⟨entry, found⟩ := Option.isSome_iff_exists.mp stored
  have foundNode : graph.node? id = some entry.node := node?_eq_some_iff.mpr ⟨entry, found, rfl⟩
  have skipped (other : ∀ lhs rhs result resultGrad op,
      entry.node ≠ .gradient lhs rhs result resultGrad op) :
      graph.Visited config.unsupported id .skipped graph :=
    .kept (verdict_of_not_gradient other foundNode) nofun nofun
  simp only [visit, meets_bind, meets_ask, foundNode]
  cases isNode : entry.node with
  | gradient lhs rhs result resultGrad op =>
      exact visitGradient_ends formed (isNode ▸ foundNode) config
  | input type => exact skipped (by simp [isNode])
  | splat value type => exact skipped (by simp [isNode])
  | arithmetic lhs rhs op => exact skipped (by simp [isNode])
  | save value => exact skipped (by simp [isNode])

end Lowering

end OpGraph
