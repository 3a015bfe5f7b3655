import OpGraph.Proofs.Lowering.Resolution

namespace OpGraph

/-! Two passes after one another.  The first may have visited only some of the nodes; if the second
is complete, both together are one complete pass over the graph before them. -/

namespace Ledger

/-- The lines of two ledgers; where both have one, that of the first. -/
def merge (ledger later : Ledger) : Ledger := fun id => (ledger id).or (later id)

variable {ledger later : Ledger} {id : NodeId} {expansion : Expansion}

theorem merge_eq_some_iff : ledger.merge later id = some expansion ↔
    ledger id = some expansion ∨ ledger id = none ∧ later id = some expansion :=
  Option.or_eq_some_iff

theorem merge_of_some (listed : ledger id = some expansion) :
    ledger.merge later id = some expansion :=
  merge_eq_some_iff.mpr (.inl listed)

theorem merge_of_none (unlisted : ledger id = none) : ledger.merge later id = later id := by
  rw [merge, unlisted, Option.none_or]

end Ledger

namespace Graph

variable {before middle after : Graph} {visited again : List NodeId} {ledger later : Ledger}
  {replaced replacedLater : Value → Value} {id : NodeId} {source target value : Value}
  {lhs rhs result resultGrad : Value} {op : BinaryOp}

theorem Lowered.gradient_earlier (sound : before.WellFormed)
    (lowered : before.Lowered visited ledger replaced after)
    (found : after.node? id = some (.gradient lhs rhs result resultGrad op)) :
    ∃ lhs₀ rhs₀ result₀ resultGrad₀,
      before.node? id = some (.gradient lhs₀ rhs₀ result₀ resultGrad₀ op) ∧
        replaced resultGrad₀ = resultGrad := by
  have earlier := lowered.toExpanded.gradientOp?_before sound (gradientOp?_of_gradient found)
  obtain ⟨_, _, _, _, foundBefore⟩ := exists_gradient earlier
  obtain ⟨_, _, _, _, isGradient, _, _, same⟩ :=
    lowered.gradient_before (contains_of_node? foundBefore) found
  exact ⟨_, _, _, _, isGradient, same⟩

theorem Lowered.type?_resultGrad {type : TensorType} (sound : before.WellFormed)
    (lowered : before.Lowered visited ledger replaced middle)
    (isGradient : before.node? id = some (.gradient lhs rhs result resultGrad op))
    (typed : before.type? resultGrad = some type) :
    middle.type? (replaced resultGrad) = some type := by
  obtain ⟨entry, found, isNode⟩ := node?_eq_some_iff.mp isGradient
  obtain ⟨common, types, _, _, _, sameType⟩ := (sound.entries found).gradient_types isNode
  cases typed.symm.trans sameType
  have changed : (entry.mapOperands replaced).node =
      .gradient (replaced lhs) (replaced rhs) (replaced result) (replaced resultGrad) op := by
    rw [Entry.node_mapOperands, isNode]
    rfl
  obtain ⟨later, laterTypes, _, _, _, laterTyped⟩ :=
    (lowered.wellFormed.entries (lowered.kept found)).gradient_types changed
  rw [Entry.types_mapOperands, types] at laterTypes
  rw [laterTyped, (List.cons.inj laterTypes).1]

theorem Passed.unlisted (sound : before.WellFormed)
    (first : before.Passed visited middle ledger replaced)
    (second : middle.Passed middle.topologicalOrder after later replacedLater)
    (member : id ∈ visited) : later id = none := by
  apply Option.eq_none_iff_forall_ne_some.mpr
  intro expansion listed
  have expandable := (second.expanded id (second.lowered.started listed)).mp (by simp [listed])
  have lowerable := first.lowered.isLowerable_before sound expandable.isLowerable
  obtain ⟨_, _, _, _, _, _, _, used⟩ := expandable
  obtain ⟨value, isRead, rfl⟩ := (hasUses_iff_isRead first.lowered.wellFormed).mp used
  exact first.settled value isRead member lowerable

theorem Lowered.follows_merge (lowered : before.Lowered visited ledger replaced after)
    (later : Ledger) (value : Value) :
    Relation.ReflTransGen (before.Replaces (ledger.merge later)) value (replaced value) := by
  apply Relation.ReflTransGen.mono _ _ _ (lowered.follows value)
  exact fun _ _ replaces => replaces.mono fun _ _ => Ledger.merge_of_some

theorem Lowered.merge_of_later {expansion : Expansion}
    (first : before.Lowered visited ledger replaced middle)
    (disjoint : ∀ id ∈ visited, later id = none) (listed : later id = some expansion) :
    ledger id = none ∧ ledger.merge later id = some expansion := by
  have unlisted : ledger id = none := by
    apply Option.eq_none_iff_forall_ne_some.mpr
    intro earlier found
    cases (disjoint id (first.started found)).symm.trans listed
  exact ⟨unlisted, (Ledger.merge_of_none unlisted).trans listed⟩

theorem Lowered.follows_later (sound : before.WellFormed)
    (first : before.Lowered visited ledger replaced middle)
    (disjoint : ∀ id ∈ visited, later id = none)
    (path : Relation.ReflTransGen (middle.Replaces later) source target) :
    Relation.ReflTransGen (before.Replaces (ledger.merge later)) source target := by
  induction path with
  | refl => exact .refl
  | @tail middleValue target _ replaces ih =>
      apply ih.trans
      obtain ⟨_, _, _, _, op, found, _⟩ := replaces.isLowered
      obtain ⟨lhs, rhs, result, resultGrad, isGradient, rfl⟩ := first.gradient_earlier sound found
      rcases replaces with forwarded | created
      · obtain ⟨_, _, _, _, same, passes⟩ := forward?_eq_some_iff.mp forwarded
        cases found.symm.trans same
        have forwards : before.Replaces (ledger.merge later) middleValue resultGrad :=
          .inl (forward?_eq_some_iff.mpr ⟨lhs, rhs, result, op, isGradient, passes⟩)
        exact .head forwards (first.follows_merge later resultGrad)
      · obtain ⟨_, _, _, _, _, expansion, same, listed, output⟩ := created?_eq_some_iff.mp created
        cases found.symm.trans same
        have listedNow := (first.merge_of_later disjoint listed).2
        apply Relation.ReflTransGen.single
        exact .inr (created?_eq_some_iff.mpr
          ⟨lhs, rhs, result, resultGrad, op, expansion, isGradient, listedNow, output⟩)

namespace Lowered

theorem not_mem_later {other place : NodeId} {expansion otherExpansion : Expansion}
    (sound : before.WellFormed) (first : before.Lowered visited ledger replaced middle)
    (second : middle.Lowered again later replacedLater after)
    (listed : ledger id = some expansion) (otherListed : later other = some otherExpansion)
    (created : place ∈ [expansion.first, expansion.second]) :
    place ∉ [otherExpansion.first, otherExpansion.second] := by
  obtain ⟨entry, found⟩ := first.exists_created sound listed (by simpa using created)
  obtain ⟨firstAbsent, secondAbsent, _⟩ := second.fresh otherListed
  simp only [List.mem_cons, List.not_mem_nil, or_false, not_or]
  constructor
  · intro same
    cases found.symm.trans (same ▸ firstAbsent)
  · intro same
    cases found.symm.trans (same ▸ secondAbsent)

theorem expands_merge {expansion : Expansion} (sound : before.WellFormed)
    (first : before.Lowered visited ledger replaced middle)
    (second : middle.Lowered again later replacedLater after)
    (listed : ledger.merge later id = some expansion) :
    ∃ lhs rhs result resultGrad op,
      before.node? id = some (.gradient lhs rhs result resultGrad op) ∧ op.isExpanded := by
  rcases Ledger.merge_eq_some_iff.mp listed with listed | ⟨_, listed⟩
  · exact first.expands listed
  · obtain ⟨_, _, _, _, op, found, expands⟩ := second.expands listed
    obtain ⟨lhs, rhs, result, resultGrad, isGradient, _⟩ := first.gradient_earlier sound found
    exact ⟨lhs, rhs, result, resultGrad, op, isGradient, expands⟩

theorem trans (sound : before.WellFormed) (first : before.Lowered visited ledger replaced middle)
    (second : middle.Lowered again later replacedLater after)
    (disjoint : ∀ id ∈ visited, later id = none) :
    before.Lowered before.topologicalOrder (ledger.merge later) (replacedLater ∘ replaced)
      after where
  kept := by
    intro id entry found
    rw [second.kept (first.kept found), Entry.mapOperands_mapOperands]
  created := by
    intro id expansion lhs rhs result resultGrad op type listed isGradient typed new newMember
    rcases Ledger.merge_eq_some_iff.mp listed with listed | ⟨_, listed⟩
    · have absent := not_isLowerable_of_absent (first.fresh listed).1
      have fixed : replacedLater ⟨expansion.first, 0⟩ = ⟨expansion.first, 0⟩ :=
        second.replaced_eq_self fun lowerable => absent (first.isLowerable_before sound lowerable)
      obtain ⟨old, oldMember, rfl⟩ :=
        Expansion.exists_of_mem_entries_change replacedLater fixed newMember
      exact second.kept (first.created listed isGradient typed old oldMember)
    · have typedLater := first.type?_resultGrad sound isGradient typed
      exact second.created listed (first.node? isGradient) typedLater new newMember
  expands := first.expands_merge sound second
  fresh := by
    intro id expansion listed
    rcases Ledger.merge_eq_some_iff.mp listed with listed | ⟨_, listed⟩
    · exact first.fresh listed
    · obtain ⟨firstAbsent, secondAbsent, different⟩ := second.fresh listed
      exact ⟨first.absent_before firstAbsent, first.absent_before secondAbsent, different⟩
  apart := by
    intro id other expansion otherExpansion listed otherListed different place member
    rcases Ledger.merge_eq_some_iff.mp listed with listed | ⟨_, listed⟩
    · rcases Ledger.merge_eq_some_iff.mp otherListed with otherListed | ⟨_, otherListed⟩
      · exact first.apart listed otherListed different place member
      · exact first.not_mem_later sound second listed otherListed member
    · rcases Ledger.merge_eq_some_iff.mp otherListed with otherListed | ⟨_, otherListed⟩
      · intro otherMember
        exact first.not_mem_later sound second otherListed listed otherMember member
      · exact second.apart listed otherListed different place member
  complete := by
    intro id stored
    rcases second.complete stored with earlier | ⟨gradient, expansion, listed, place⟩
    · apply (first.complete earlier).imp_right
      rintro ⟨gradient, expansion, listed, place⟩
      exact ⟨gradient, expansion, Ledger.merge_of_some listed, place⟩
    · exact .inr ⟨gradient, expansion, (first.merge_of_later disjoint listed).2, place⟩
  wellFormed := second.wellFormed
  follows := by
    intro value
    exact (first.follows_merge later value).trans
      (first.follows_later sound disjoint (second.follows (replaced value)))
  untouched := by
    intro value outside
    have absent : ¬ before.IsLowerable value.node := fun lowerable =>
      outside (before.mem_topologicalOrder.mpr lowerable.contains)
    have absentLater : ¬ middle.IsLowerable value.node := fun lowerable =>
      absent (first.isLowerable_before sound lowerable)
    rw [Function.comp_apply, first.replaced_eq_self absent, second.replaced_eq_self absentLater]
  started := by
    intro id expansion listed
    obtain ⟨_, _, _, _, _, isGradient, _⟩ := first.expands_merge sound second listed
    exact before.mem_topologicalOrder.mpr (contains_of_node? isGradient)

theorem isExpandable_iff (sound : before.WellFormed)
    (lowered : before.Lowered visited ledger replaced after) (fresh : id ∉ visited) :
    after.IsExpandable id ↔ before.IsExpandable id := by
  constructor
  · intro expandable
    obtain ⟨_, _, _, _, op, found, expands, used⟩ := expandable
    obtain ⟨lhs, rhs, result, resultGrad, isGradient, _⟩ := lowered.gradient_earlier sound found
    have usedBefore := (lowered.hasUses_iff sound fresh isGradient).mp used
    exact ⟨lhs, rhs, result, resultGrad, op, isGradient, expands, usedBefore⟩
  · intro expandable
    obtain ⟨lhs, rhs, result, resultGrad, op, isGradient, expands, used⟩ := expandable
    have usedLater := (lowered.hasUses_iff sound fresh isGradient).mpr used
    exact ⟨_, _, _, _, op, lowered.node? isGradient, expands, usedLater⟩

end Lowered

/-- A complete pass completes one that was interrupted. -/
theorem Passed.trans (sound : before.WellFormed)
    (first : before.Passed visited middle ledger replaced)
    (second : middle.Passed middle.topologicalOrder after later replacedLater) :
    before.Passed before.topologicalOrder after (ledger.merge later)
      (replacedLater ∘ replaced) where
  lowered := first.lowered.trans sound second.lowered fun _ => first.unlisted sound second
  settled := by
    intro value isRead _ lowerable
    obtain ⟨_, _, _, _, op, found, rule⟩ := lowerable
    exact second.unread first.lowered.wellFormed isRead
      ⟨_, _, _, _, op, second.lowered.node? (first.lowered.node? found), rule⟩
  expanded := by
    intro id member
    by_cases treated : id ∈ visited
    · rw [Ledger.merge, first.unlisted sound second treated, Option.or_none]
      exact first.expanded id treated
    · have unlisted : ledger id = none := Option.eq_none_iff_forall_ne_some.mpr
        fun _ listed => treated (first.lowered.started listed)
      obtain ⟨entry, found⟩ :=
        Option.isSome_iff_exists.mp (before.mem_topologicalOrder.mp member)
      have kept := Store.contains_of_get? (first.lowered.kept found)
      rw [Ledger.merge_of_none unlisted,
        second.expanded id (middle.mem_topologicalOrder.mpr kept),
        first.lowered.isExpandable_iff sound treated]

theorem Arrived.trans (sound : before.WellFormed) (first : before.Arrived visited middle)
    (second : middle.Arrived middle.topologicalOrder after) :
    before.Arrived before.topologicalOrder after := by
  obtain ⟨ledger, replaced, passed⟩ := first
  obtain ⟨later, replacedLater, passedLater⟩ := second
  exact ⟨_, _, passed.trans sound passedLater⟩

end Graph

end OpGraph
