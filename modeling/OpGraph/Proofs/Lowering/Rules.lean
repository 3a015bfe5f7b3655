import OpGraph.Proofs.Lowering.Visits

namespace OpGraph

/-! What the lowering rules keep.  However a rule ends, the graph is one at which the pass can
arrive.  If it succeeds, the gradients have lost their readers, and nothing else that existed has
gained any. -/

namespace Graph

/-- Something reads the value, or its node is still to be created. -/
def ReadOrAbsent (graph : Graph) (value : Value) : Prop :=
  graph.IsRead value ∨ graph.entry? value.node = none

/-- The graph after some outputs of a node lost their readers; what is read was read already or was
created. -/
structure Retired (before : Graph) (id : NodeId) (gone : List Nat) (after : Graph) : Prop where
  unread : ∀ output ∈ gone, ¬ after.IsRead ⟨id, output⟩
  old : ∀ value, after.IsRead value → before.ReadOrAbsent value

variable {before middle after : Graph} {source target value : Value}

theorem Rewired.isRead (rewired : before.Rewired source target after)
    (isRead : after.IsRead value) :
    (before.IsRead value ∧ value ≠ source) ∨ value = target := by
  obtain ⟨user, entry, found, member⟩ := isRead
  rw [rewired.entry?_eq] at found
  obtain ⟨old, oldFound, rfl⟩ := Option.map_eq_some_iff.mp found
  obtain ⟨origin, originMember, rfl⟩ := Entry.mem_operands_mapOperands.mp member
  by_cases same : origin = source
  · exact .inr (by rw [same, Value.redirect_source])
  · rw [Value.redirect_of_ne same]
    exact .inl ⟨⟨user, old, oldFound, originMember⟩, same⟩

theorem WellFormed.isRead_insert (wellFormed : before.WellFormed) {new : Entry}
    (isRead : (before.insert new).IsRead value) :
    before.IsRead value ∨ value ∈ new.node.operands := by
  obtain ⟨user, entry, found, member⟩ := isRead
  rw [wellFormed.entry?_insert] at found
  split at found
  · cases found
    exact .inr member
  · exact .inl ⟨user, entry, found, member⟩

namespace Retired

variable {id : NodeId} {gone : List Nat}

theorem refl (graph : Graph) (id : NodeId) : graph.Retired id [] graph :=
  ⟨by simp, fun _ isRead => .inl isRead⟩

theorem redirect {output : Nat} (retired : before.Retired id gone middle)
    (rewired : middle.Rewired ⟨id, output⟩ target after) (known : before.ReadOrAbsent target)
    (apart : target.node ≠ id) : before.Retired id (output :: gone) after where
  unread := by
    intro other member isRead
    rcases rewired.isRead isRead with ⟨earlier, different⟩ | rfl
    · rcases List.mem_cons.mp member with rfl | member
      · exact different rfl
      · exact retired.unread other member earlier
    · exact apart rfl
  old := by
    intro value isRead
    rcases rewired.isRead isRead with ⟨earlier, _⟩ | rfl
    · exact retired.old value earlier
    · exact known

theorem insert (new : Entry) (retired : before.Retired id gone middle)
    (wellFormed : middle.WellFormed)
    (known : ∀ operand ∈ new.node.operands, before.ReadOrAbsent operand ∧ operand.node ≠ id) :
    before.Retired id gone (middle.insert new) where
  unread := by
    intro output member isRead
    rcases wellFormed.isRead_insert isRead with earlier | operand
    · exact retired.unread output member earlier
    · exact (known _ operand).2 rfl
  old := by
    intro value isRead
    rcases wellFormed.isRead_insert isRead with earlier | operand
    · exact retired.old value earlier
    · exact (known value operand).1

theorem grown {lhs rhs resultGrad : Value} {op : BinaryOp} {ids : Expansion}
    (retired : before.Retired id gone middle) (wellFormed : middle.WellFormed)
    (grown : middle.Grown lhs rhs resultGrad op ids after)
    (known : ∀ operand ∈ [lhs, rhs, resultGrad],
      before.ReadOrAbsent operand ∧ operand.node ≠ id)
    (absent : before.entry? ids.first = none) (new : ids.first ≠ id) :
    before.Retired id gone after := by
  obtain ⟨type, first, second, _, _, entries, firstFormed, rfl⟩ := grown.created
  have operands : ∀ created ∈ [(ids.first, first), (ids.second, second)],
      ∀ operand ∈ created.2.node.operands, before.ReadOrAbsent operand ∧ operand.node ≠ id := by
    intro created listed operand reads
    rcases Expansion.operands_of_entries (entries ▸ listed) reads with old | isFirst
    · exact known operand old
    · exact ⟨.inr (isFirst ▸ absent), isFirst ▸ new⟩
  have firstRetired := retired.insert first wellFormed fun operand reads =>
    operands (ids.first, first) (by simp) operand reads
  exact firstRetired.insert second firstFormed fun operand reads =>
    operands (ids.second, second) (by simp) operand reads

end Retired

/-- A graph at which a pass may stop. -/
def Stopped (before : Graph) (visited : List NodeId) (after : Graph) : Prop :=
  ∃ ledger replaced, before.Lowered visited ledger replaced after

/-- The graph after a rule did its work for one gradient node. -/
structure Served (before : Graph) (visited : List NodeId) (ledger : Ledger) (id : NodeId)
    (op : BinaryOp) (middle after : Graph) : Prop where
  lowered : ∃ later replaced, before.Lowered visited later replaced after ∧
    (∀ other, other ≠ id → later other = ledger other) ∧ ((later id).isSome ↔ op.isExpanded)
  retired : middle.Retired id [1, 0] after

namespace Lowered

variable {visited : List NodeId} {ledger : Ledger} {replaced : Value → Value} {id : NodeId}
  {lhs rhs result resultGrad : Value} {op : BinaryOp}

theorem node? (lowered : before.Lowered visited ledger replaced after)
    {node : Node} (found : before.node? id = some node) :
    after.node? id = some (node.mapOperands replaced) := by
  obtain ⟨entry, stored, rfl⟩ := node?_eq_some_iff.mp found
  exact node?_eq_some_iff.mpr ⟨_, lowered.kept stored, rfl⟩

theorem replaced_of_absent (lowered : before.Lowered visited ledger replaced after)
    (value : Value) (absent : before.entry? value.node = none) : replaced value = value :=
  eq_of_follows_absent absent (lowered.follows value)

theorem ne_of_absent {other : NodeId} {node : Node}
    (lowered : before.Lowered visited ledger replaced after) (found : before.node? id = some node)
    (absent : after.entry? other = none) : other ≠ id :=
  Graph.ne_of_absent (lowered.node? found) absent

theorem gradientAt (sound : before.WellFormed)
    (lowered : before.Lowered visited ledger replaced after)
    (isGradient : before.node? id = some (.gradient lhs rhs result resultGrad op)) :
    ∃ type, before.type? resultGrad = some type ∧
      after.GradientAt id (replaced lhs) (replaced rhs) (replaced resultGrad) type := by
  obtain ⟨type, now⟩ := lowered.wellFormed.gradientAt (lowered.node? isGradient)
  obtain ⟨typeBefore, earlier⟩ := sound.gradientAt isGradient
  obtain ⟨entry, found, output⟩ := type?_eq_some_iff.mp earlier.outputType
  have kept : after.type? (.gradOfLhs id) = some typeBefore :=
    type?_eq_some_iff.mpr ⟨_, lowered.kept found, output⟩
  obtain rfl : type = typeBefore := Option.some.inj (now.outputType.symm.trans kept)
  exact ⟨type, earlier.resultGradType, now⟩

theorem gradient_before (lowered : before.Lowered visited ledger replaced after)
    (stored : before.contains id)
    (found : after.node? id = some (.gradient lhs rhs result resultGrad op)) :
    ∃ lhs₀ rhs₀ result₀ resultGrad₀,
      before.node? id = some (.gradient lhs₀ rhs₀ result₀ resultGrad₀ op) ∧
        replaced lhs₀ = lhs ∧ replaced rhs₀ = rhs ∧ replaced resultGrad₀ = resultGrad := by
  obtain ⟨entry, stored⟩ := Option.isSome_iff_exists.mp stored
  have foundNode : before.node? id = some entry.node := node?_eq_some_iff.mpr ⟨entry, stored, rfl⟩
  have changed := Option.some.inj ((lowered.node? foundNode).symm.trans found)
  obtain ⟨lhs₀, rhs₀, result₀, resultGrad₀, isNode⟩ := Node.mapOperands_eq_gradient changed
  rw [isNode] at changed
  cases changed
  exact ⟨lhs₀, rhs₀, result₀, resultGrad₀, isNode ▸ foundNode, rfl, rfl, rfl⟩

theorem grow {ids : Expansion} {middle : Graph} (sound : before.WellFormed)
    (lowered : before.Lowered visited ledger replaced middle)
    (isGradient : before.node? id = some (.gradient lhs rhs result resultGrad op))
    (expands : op.isExpanded) (member : id ∈ visited) (unlisted : ledger id = none)
    (grown : middle.Grown (replaced lhs) (replaced rhs) (replaced resultGrad) op ids after) :
    before.Lowered visited (ledger.enter id ids) replaced after := by
  obtain ⟨type, first, second, resultGradType, rfl, entries, firstFormed, rfl⟩ := grown.created
  obtain ⟨typeBefore, typed, operands⟩ := lowered.gradientAt sound isGradient
  obtain rfl : type = typeBefore :=
    Option.some.inj (resultGradType.symm.trans operands.resultGradType)
  exact lowered.expand sound isGradient typed expands member unlisted entries firstFormed
    grown.wellFormed

end Lowered

section

variable {policy : UnsupportedPolicy} {reason : GraphError} {visited : List NodeId}
  {ledger : Ledger} {replaced : Value → Value} {id : NodeId}
  {lhs rhs result resultGrad : Value} {op : BinaryOp} {ids : Expansion}

theorem Grown.pair (wellFormed : before.WellFormed)
    (grown : before.Grown lhs rhs resultGrad op ids after) :
    ∃ first second, before.PairInserted ids first second after := by
  obtain ⟨type, first, second, _, rfl, _, firstFormed, rfl⟩ := grown.created
  exact ⟨first, second, wellFormed.insertPair firstFormed second⟩

theorem created_replaces {expansion : Expansion} {output : Nat} {target : Value}
    (isGradient : before.node? id = some (.gradient lhs rhs result resultGrad op))
    (gradient : expansion.gradient? op output = some target) :
    before.Replaces (ledger.enter id expansion) ⟨id, output⟩ target :=
  .inr (created?_eq_some_iff.mpr
    ⟨lhs, rhs, result, resultGrad, op, expansion, isGradient, Ledger.enter_self, gradient⟩)

theorem forward_replaces {output : Nat}
    (isGradient : before.node? id = some (.gradient lhs rhs result resultGrad op))
    (passes : op.passesOn output) : before.Replaces ledger ⟨id, output⟩ resultGrad :=
  .inl (forward?_eq_some_iff.mpr ⟨lhs, rhs, result, op, isGradient, passes⟩)

/-- What the rule of a gradient node does keeps the invariant, and the gradients lose their
readers. -/
theorem Rewritten.served (sound : before.WellFormed)
    (lowered : before.Lowered visited ledger replaced middle)
    (isGradient : before.node? id = some (.gradient lhs rhs result resultGrad op))
    (member : id ∈ visited) (unlisted : ledger id = none)
    (rewritten : middle.Rewritten id (replaced lhs) (replaced rhs) (replaced resultGrad) op
      after) : before.Served visited ledger id op middle after := by
  obtain ⟨type, _, operands⟩ := lowered.gradientAt sound isGradient
  have known : ∀ operand ∈ [replaced lhs, replaced rhs, replaced resultGrad],
      middle.ReadOrAbsent operand ∧ operand.node ≠ id := fun operand member =>
    ⟨.inl (operands.read operand member), operands.apart operand member⟩
  obtain ⟨resultGradKnown, apart⟩ := known (replaced resultGrad) (by simp)
  have untouched : ((Value.gradOfLhs id).redirect (replaced resultGrad) ∘ replaced) resultGrad =
      replaced resultGrad := Value.redirect_of_ne fun same => apart (congrArg Value.node same)
  cases rewritten with
  | add lhsRewired rhsRewired =>
      have first := lowered.redirect (forward_replaces isGradient rfl) rfl member lhsRewired
      have second := first.redirect (forward_replaces isGradient rfl) untouched member rhsRewired
      have retired := (Retired.refl middle id).redirect lhsRewired resultGradKnown apart
      exact ⟨⟨ledger, _, second, fun _ _ => rfl, by simp [unlisted, BinaryOp.isExpanded]⟩,
        retired.redirect rhsRewired resultGradKnown apart⟩
  | @mul grown _ _ ids created lhsRewired rhsRewired =>
      obtain ⟨_, _, pair⟩ := created.pair lowered.wellFormed
      have expanded := lowered.grow sound isGradient rfl member unlisted created
      have lhsTarget := expanded.replaced_of_absent ⟨ids.first, 0⟩
        (lowered.absent_before pair.firstAbsent)
      have first := expanded.redirect (created_replaces isGradient rfl) lhsTarget member lhsRewired
      have rhsTarget := first.replaced_of_absent ⟨ids.second, 0⟩
        (lowered.absent_before pair.secondAbsent)
      have second := first.redirect (created_replaces isGradient rfl) rhsTarget member rhsRewired
      have firstNew := lowered.ne_of_absent isGradient pair.firstAbsent
      have secondNew := lowered.ne_of_absent isGradient pair.secondAbsent
      have grownRetired := (Retired.refl middle id).grown lowered.wellFormed created known
        pair.firstAbsent firstNew
      have lhsRetired := grownRetired.redirect lhsRewired (.inr pair.firstAbsent) firstNew
      exact ⟨⟨_, _, second, fun _ => Ledger.enter_of_ne, by simp [BinaryOp.isExpanded]⟩,
        lhsRetired.redirect rhsRewired (.inr pair.secondAbsent) secondNew⟩
  | @sub first grown _ ids lhsRewired created rhsRewired =>
      obtain ⟨_, _, pair⟩ := created.pair lhsRewired.wellFormed
      have firstLowered := lowered.redirect (forward_replaces isGradient rfl) rfl member lhsRewired
      have createdThen : first.Grown
          (((Value.gradOfLhs id).redirect (replaced resultGrad) ∘ replaced) lhs)
          (((Value.gradOfLhs id).redirect (replaced resultGrad) ∘ replaced) rhs)
          (((Value.gradOfLhs id).redirect (replaced resultGrad) ∘ replaced) resultGrad) .sub ids
          grown := by
        rw [untouched]
        exact ⟨created.created, created.wellFormed⟩
      have expanded := firstLowered.grow sound isGradient rfl member unlisted createdThen
      have rhsTarget := expanded.replaced_of_absent ⟨ids.second, 0⟩
        (firstLowered.absent_before pair.secondAbsent)
      have second := expanded.redirect (created_replaces isGradient rfl) rhsTarget member rhsRewired
      have firstAbsent := lhsRewired.absent_before pair.firstAbsent
      have secondAbsent := lhsRewired.absent_before pair.secondAbsent
      have lhsRetired := (Retired.refl middle id).redirect lhsRewired resultGradKnown apart
      have grownRetired := lhsRetired.grown lhsRewired.wellFormed created known firstAbsent
        (lowered.ne_of_absent isGradient firstAbsent)
      exact ⟨⟨_, _, second, fun _ => Ledger.enter_of_ne, by simp [BinaryOp.isExpanded]⟩,
        grownRetired.redirect rhsRewired (.inr secondAbsent)
          (lowered.ne_of_absent isGradient secondAbsent)⟩

theorem Refuses.stopped (lowered : before.Lowered visited ledger replaced middle)
    (stored : before.contains id) (member : id ∈ visited)
    (refuses : middle.Refuses policy id reason after) : before.Stopped visited after := by
  cases refuses with
  | unsupported isGradient judged strict => exact ⟨ledger, replaced, lowered⟩
  | untouched isGradient passes reads => exact ⟨ledger, replaced, lowered⟩
  | halfDone isGradient reads rewired =>
      obtain ⟨_, _, _, _, gradientBefore, _, _, rfl⟩ := lowered.gradient_before stored isGradient
      exact ⟨ledger, _, lowered.redirect (forward_replaces gradientBefore rfl) rfl member rewired⟩

end

end Graph

end OpGraph
