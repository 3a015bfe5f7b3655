import OpGraph.Proofs.Lowering.Substitution
import OpGraph.Proofs.Rewiring

namespace OpGraph.Graph

/-! The invariant of the lowering pass.  At every point of it, also where it stops in the middle of
a rule, the graph is the one from before with its operands changed and with nodes added, and every
changed operand was led along replacements.  The pass makes only two moves: a gradient is given up
for what replaces it, and two nodes are created for a gradient. -/

/-- A graph at which the pass can arrive after it started to visit some nodes. -/
structure Lowered (before : Graph) (visited : List NodeId) (ledger : Ledger)
    (replaced : Value → Value) (after : Graph) : Prop
    extends Expanded before ledger replaced after where
  wellFormed : after.WellFormed
  follows : ∀ value, Relation.ReflTransGen (before.Replaces ledger) value (replaced value)
  untouched : ∀ value, value.node ∉ visited → replaced value = value
  started : ∀ {id : NodeId} {expansion : Expansion}, ledger id = some expansion → id ∈ visited

variable {before middle after : Graph} {visited : List NodeId} {ledger : Ledger}
  {replaced : Value → Value} {source target value : Value}

theorem isRead_of_follows {change : Value → Value} (expanded : before.Expanded ledger change after)
    (path : Relation.ReflTransGen (before.Replaces ledger) source target)
    (isRead : before.IsRead source) : before.IsRead target ∨ before.entry? target.node = none := by
  rcases path.cases_tail with rfl | ⟨_, _, last⟩
  · exact .inl isRead
  · exact last.isRead_or_absent expanded

theorem eq_of_follows_absent (absent : before.entry? source.node = none)
    (path : Relation.ReflTransGen (before.Replaces ledger) source target) : target = source := by
  rcases path.cases_head with same | ⟨_, replaces, _⟩
  · exact same.symm
  · obtain ⟨_, _, _, _, _, stored, _⟩ := replaces.isLowered
    cases (node?_of_absent absent).symm.trans stored

theorem Expanded.created_at {change : Value → Value} {id gradient : NodeId}
    {expansion : Expansion} (wellFormed : before.WellFormed)
    (expanded : before.Expanded ledger change after) (listed : ledger gradient = some expansion)
    (place : id = expansion.first ∨ id = expansion.second) :
    ∃ lhs rhs result resultGrad op type entry,
      before.node? gradient = some (.gradient lhs rhs result resultGrad op) ∧
        before.type? resultGrad = some type ∧
          (id, entry) ∈
              expansion.entries (change lhs) (change rhs) (change resultGrad) type op ∧
            after.entry? id = some entry := by
  obtain ⟨lhs, rhs, result, resultGrad, op, isGradient, expands⟩ := expanded.expands listed
  obtain ⟨gradientEntry, found, isNode⟩ := node?_eq_some_iff.mp isGradient
  obtain ⟨type, _, _, _, _, typed⟩ := (wellFormed.entries found).gradient_types isNode
  obtain ⟨entry, member⟩ := expansion.exists_entry expands (change lhs) (change rhs)
    (change resultGrad) type place
  exact ⟨lhs, rhs, result, resultGrad, op, type, entry, isGradient, typed, member,
    expanded.created listed isGradient typed _ member⟩

theorem Expanded.entry?_cases {change : Value → Value} {id : NodeId} {entry : Entry}
    (wellFormed : before.WellFormed) (expanded : before.Expanded ledger change after)
    (found : after.entry? id = some entry) :
    (∃ old, before.entry? id = some old ∧ entry = old.mapOperands change) ∨
      ∃ gradient expansion lhs rhs result resultGrad op type,
        ledger gradient = some expansion ∧
          before.node? gradient = some (.gradient lhs rhs result resultGrad op) ∧
            before.type? resultGrad = some type ∧
              (id, entry) ∈
                expansion.entries (change lhs) (change rhs) (change resultGrad) type op := by
  rcases expanded.complete (Store.contains_of_get? found) with stored | created
  · obtain ⟨old, oldFound⟩ := Option.isSome_iff_exists.mp stored
    have kept := expanded.kept oldFound
    exact .inl ⟨old, oldFound, Option.some.inj (found.symm.trans kept)⟩
  · obtain ⟨gradient, expansion, listed, place⟩ := created
    obtain ⟨lhs, rhs, result, resultGrad, op, type, created, isGradient, typed, member, stored⟩ :=
      expanded.created_at wellFormed listed place
    cases found.symm.trans stored
    exact .inr ⟨gradient, expansion, lhs, rhs, result, resultGrad, op, type, listed, isGradient,
      typed, member⟩

theorem Expanded.exists_created {change : Value → Value} {id gradient : NodeId}
    {expansion : Expansion} (wellFormed : before.WellFormed)
    (expanded : before.Expanded ledger change after) (listed : ledger gradient = some expansion)
    (place : id = expansion.first ∨ id = expansion.second) :
    ∃ entry, after.entry? id = some entry := by
  obtain ⟨_, _, _, _, _, _, entry, _, _, _, stored⟩ := expanded.created_at wellFormed listed place
  exact ⟨entry, stored⟩

theorem Expanded.absent_before {change : Value → Value} {id : NodeId}
    (expanded : before.Expanded ledger change after) (absent : after.entry? id = none) :
    before.entry? id = none := by
  cases found : before.entry? id with
  | none => rfl
  | some entry => cases absent.symm.trans (expanded.kept found)

/-- The ids that the next two nodes get, of which the first is given. -/
def nextExpansion (graph : Graph) (first : Entry) : Expansion :=
  ⟨graph.nodes.nextIndex, (graph.insert first).nodes.nextIndex⟩

/-- A graph to which two nodes were added. -/
structure PairInserted (before : Graph) (ids : Expansion) (first second : Entry) (after : Graph) :
    Prop where
  first : after.entry? ids.first = some first
  second : after.entry? ids.second = some second
  kept : ∀ {id : NodeId} {entry : Entry},
    before.entry? id = some entry → after.entry? id = some entry
  complete : ∀ {id : NodeId},
    after.contains id → before.contains id ∨ id = ids.first ∨ id = ids.second
  firstAbsent : before.entry? ids.first = none
  secondAbsent : before.entry? ids.second = none
  different : ids.first ≠ ids.second

theorem WellFormed.insertPair {graph : Graph} {first : Entry} (wellFormed : graph.WellFormed)
    (firstFormed : (graph.insert first).WellFormed) (second : Entry) :
    graph.PairInserted (graph.nextExpansion first) first second
      ((graph.insert first).insert second) where
  first := firstFormed.entry?_insert_of_some second (wellFormed.entry?_insert_self first)
  second := firstFormed.entry?_insert_self second
  kept := fun found =>
    firstFormed.entry?_insert_of_some second (wellFormed.entry?_insert_of_some first found)
  complete := by
    intro id stored
    obtain ⟨entry, found⟩ := Option.isSome_iff_exists.mp stored
    change Graph.entry? _ id = some entry at found
    rw [firstFormed.entry?_insert] at found
    split at found
    · next isSecond => exact .inr (.inr isSecond)
    · rw [wellFormed.entry?_insert] at found
      split at found
      · next isFirst => exact .inr (.inl isFirst)
      · exact .inl (Store.contains_of_get? found)
  firstAbsent := wellFormed.entry?_nextIndex
  secondAbsent := by
    cases found : graph.entry? (graph.nextExpansion first).second with
    | none => rfl
    | some entry =>
        cases firstFormed.entry?_nextIndex.symm.trans
          (wellFormed.entry?_insert_of_some first found)
  different := by
    intro same
    have inserted := wellFormed.entry?_insert_self first
    rw [show graph.nodes.nextIndex = (graph.insert first).nodes.nextIndex from same,
      firstFormed.entry?_nextIndex] at inserted
    cases inserted

namespace Lowered

theorem refl (wellFormed : before.WellFormed) : before.Lowered [] .empty id before where
  kept := by
    intro id entry found
    simpa using found
  created := by
    intro id expansion lhs rhs result resultGrad op type listed
    cases listed
  expands := by
    intro id expansion listed
    cases listed
  fresh := by
    intro id expansion listed
    cases listed
  apart := by
    intro id other expansion otherExpansion listed
    cases listed
  complete := .inl
  wellFormed := wellFormed
  follows := fun _ => .refl
  untouched := fun _ _ => rfl
  started := by
    intro id expansion listed
    cases listed

theorem mono {more : List NodeId} (lowered : before.Lowered visited ledger replaced after)
    (longer : visited ⊆ more) : before.Lowered more ledger replaced after :=
  { lowered with
    untouched := fun value outside => lowered.untouched value fun inside => outside (longer inside)
    started := fun listed => longer (lowered.started listed) }

/-- A value that is read and was not created is read in the graph before as well: all nodes read what
old operands were replaced by, and a created difference also the zero that was created with it. -/
theorem isRead_before (sound : before.WellFormed)
    (lowered : before.Lowered visited ledger replaced after) (isRead : after.IsRead value) :
    before.IsRead value ∨ before.entry? value.node = none := by
  obtain ⟨user, entry, found, member⟩ := isRead
  rcases lowered.entry?_cases sound found with ⟨old, oldFound, rfl⟩ |
    ⟨gradient, expansion, lhs, rhs, result, resultGrad, op, type, listed, isGradient, _, created⟩
  · obtain ⟨origin, originMember, rfl⟩ := Entry.mem_operands_mapOperands.mp member
    exact isRead_of_follows lowered.toExpanded (lowered.follows origin)
      ⟨user, old, oldFound, originMember⟩
  · rcases Expansion.operands_of_entries created member with operand | first
    · have changed : value ∈ [lhs, rhs, resultGrad].map replaced := operand
      obtain ⟨origin, originMember, rfl⟩ := List.mem_map.mp changed
      exact isRead_of_follows lowered.toExpanded (lowered.follows origin)
        (isRead_of_gradient isGradient originMember)
    · exact .inr (first ▸ (lowered.fresh listed).1)

theorem isRead_iff (sound : before.WellFormed)
    (lowered : before.Lowered visited ledger replaced after) (value : Value)
    (fresh : value.node ∉ visited) (stored : before.contains value.node) :
    after.IsRead value ↔ before.IsRead value := by
  constructor
  · intro isRead
    refine (lowered.isRead_before sound isRead).resolve_right fun absent => ?_
    simp [contains, Store.contains, show before.nodes.get? value.node = none from absent] at stored
  · intro isRead
    obtain ⟨user, entry, found, member⟩ := isRead
    refine ⟨user, _, lowered.kept found, Entry.mem_operands_mapOperands.mpr ⟨value, member, ?_⟩⟩
    exact lowered.untouched value fresh

theorem redirect {final : Value} (lowered : before.Lowered visited ledger replaced middle)
    (replaces : before.Replaces ledger source target) (reached : replaced target = final)
    (member : source.node ∈ visited) (rewired : middle.Rewired source final after) :
    before.Lowered visited ledger (source.redirect final ∘ replaced) after where
  kept := by
    intro id entry found
    rw [rewired.entry?_eq, lowered.kept found]
    exact congrArg some (Entry.mapOperands_mapOperands _ _ _)
  created := by
    intro id expansion lhs rhs result resultGrad op type listed isGradient typed new newMember
    obtain ⟨_, _, _, _, _, stored, _⟩ := replaces.isLowered
    have apart : (⟨expansion.first, 0⟩ : Value) ≠ source := by
      intro same
      rw [← same, node?_of_absent (lowered.fresh listed).1] at stored
      cases stored
    obtain ⟨old, oldMember, rfl⟩ := Expansion.exists_of_mem_entries_change
      (source.redirect final) (Value.redirect_of_ne apart) newMember
    rw [rewired.entry?_eq, lowered.created listed isGradient typed old oldMember]
    rfl
  expands := lowered.expands
  fresh := lowered.fresh
  apart := lowered.apart
  complete := by
    intro id stored
    refine lowered.complete ?_
    have same : (after.entry? id).isSome = (middle.entry? id).isSome := by
      rw [rewired.entry?_eq, Option.isSome_map]
    exact same.symm.trans stored
  wellFormed := rewired.wellFormed
  follows := by
    intro value
    by_cases met : replaced value = source
    · simp only [Function.comp_apply, met, Value.redirect_source]
      exact ((met ▸ lowered.follows value).tail replaces).trans (reached ▸ lowered.follows target)
    · simpa only [Function.comp_apply, Value.redirect_of_ne met] using lowered.follows value
  untouched := by
    intro value outside
    have different : value ≠ source := fun same => outside (same ▸ member)
    simp only [Function.comp_apply, lowered.untouched value outside,
      Value.redirect_of_ne different]
  started := lowered.started

theorem expand {id : NodeId} {lhs rhs result resultGrad : Value} {op : BinaryOp}
    {type : TensorType} {first second : Entry} (sound : before.WellFormed)
    (lowered : before.Lowered visited ledger replaced middle)
    (isGradient : before.node? id = some (.gradient lhs rhs result resultGrad op))
    (typed : before.type? resultGrad = some type) (expands : op.isExpanded)
    (member : id ∈ visited) (unlisted : ledger id = none)
    (entries : (middle.nextExpansion first).entries (replaced lhs) (replaced rhs)
      (replaced resultGrad) type op =
        [((middle.nextExpansion first).first, first),
          ((middle.nextExpansion first).second, second)])
    (firstFormed : (middle.insert first).WellFormed)
    (secondFormed : ((middle.insert first).insert second).WellFormed) :
    before.Lowered visited (ledger.enter id (middle.nextExpansion first)) replaced
      ((middle.insert first).insert second) := by
  have pair := lowered.wellFormed.insertPair firstFormed second
  have present : ∀ {gradient expansion place}, ledger gradient = some expansion →
      place ∈ [expansion.first, expansion.second] → ∃ entry, middle.entry? place = some entry :=
    fun listed place => lowered.exists_created sound listed (by simpa using place)
  have absent : ∀ place ∈ [(middle.nextExpansion first).first,
      (middle.nextExpansion first).second], middle.entry? place = none := by
    simpa using And.intro pair.firstAbsent pair.secondAbsent
  exact {
    kept := fun found => pair.kept (lowered.kept found)
    created := by
      intro gradient expansion lhs' rhs' result' resultGrad' op' type' listed found typed' new
        newMember
      rcases Ledger.enter_eq_some_iff.mp listed with ⟨rfl, rfl⟩ | ⟨_, earlier⟩
      · cases isGradient.symm.trans found
        cases typed.symm.trans typed'
        rw [entries, List.mem_cons, List.mem_singleton] at newMember
        rcases newMember with rfl | rfl
        · exact pair.first
        · exact pair.second
      · exact pair.kept (lowered.created earlier found typed' new newMember)
    expands := by
      intro gradient expansion listed
      rcases Ledger.enter_eq_some_iff.mp listed with ⟨rfl, rfl⟩ | ⟨_, earlier⟩
      · exact ⟨lhs, rhs, result, resultGrad, op, isGradient, expands⟩
      · exact lowered.expands earlier
    fresh := by
      intro gradient expansion listed
      rcases Ledger.enter_eq_some_iff.mp listed with ⟨rfl, rfl⟩ | ⟨_, earlier⟩
      · exact ⟨lowered.absent_before pair.firstAbsent, lowered.absent_before pair.secondAbsent,
          pair.different⟩
      · exact lowered.fresh earlier
    apart := by
      intro gradient other expansion otherExpansion listed otherListed different place inFirst
        inSecond
      rcases Ledger.enter_eq_some_iff.mp listed with ⟨rfl, rfl⟩ | ⟨_, earlier⟩
      · rcases Ledger.enter_eq_some_iff.mp otherListed with ⟨rfl, rfl⟩ | ⟨_, otherEarlier⟩
        · exact different rfl
        · obtain ⟨entry, found⟩ := present otherEarlier inSecond
          cases (absent place inFirst).symm.trans found
      · rcases Ledger.enter_eq_some_iff.mp otherListed with ⟨rfl, rfl⟩ | ⟨_, otherEarlier⟩
        · obtain ⟨entry, found⟩ := present earlier inFirst
          cases (absent place inSecond).symm.trans found
        · exact lowered.apart earlier otherEarlier different place inFirst inSecond
    complete := by
      intro place stored
      rcases pair.complete stored with earlier | created
      · refine (lowered.complete earlier).imp_right ?_
        intro created
        obtain ⟨gradient, expansion, listed, isPlace⟩ := created
        exact ⟨gradient, expansion, Ledger.enter_of_some unlisted listed, isPlace⟩
      · exact .inr ⟨id, middle.nextExpansion first, Ledger.enter_self, created⟩
    wellFormed := secondFormed
    follows := by
      intro value
      refine (lowered.follows value).lift (p := before.Replaces _) (fun value => value) ?_
      exact fun source target replaces =>
        replaces.mono fun other expansion listed => Ledger.enter_of_some unlisted listed
    untouched := lowered.untouched
    started := by
      intro gradient expansion listed
      rcases Ledger.enter_eq_some_iff.mp listed with ⟨rfl, rfl⟩ | ⟨_, earlier⟩
      · exact member
      · exact lowered.started earlier }

end Lowered

end OpGraph.Graph
