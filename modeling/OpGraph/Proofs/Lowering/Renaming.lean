import Mathlib.Data.Set.Function
import OpGraph.Proofs.Lowering.Resolution

namespace OpGraph

/-! Which ids the created nodes get does not matter.  Two complete passes over one acyclic graph
create nodes for the same gradients, and what they leave differs in the ids of these nodes only. -/

def Value.rename (rename : NodeId → NodeId) (value : Value) : Value :=
  ⟨rename value.node, value.output⟩

namespace Expansion

def place (expansion : Expansion) : Bool → NodeId
  | false => expansion.first
  | true => expansion.second

variable {expansion other : Expansion} {rename : NodeId → NodeId} {op : BinaryOp}

theorem mem_places (expansion : Expansion) (second : Bool) :
    expansion.place second ∈ [expansion.first, expansion.second] := by
  cases second <;> simp [place]

theorem gradient?_rename (places : ∀ second, rename (expansion.place second) = other.place second)
    (output : Nat) :
    other.gradient? op output = (expansion.gradient? op output).map (·.rename rename) := by
  have first : rename expansion.first = other.first := places false
  have second : rename expansion.second = other.second := places true
  unfold gradient?
  split <;> simp [Value.rename, first, second]

theorem entries_rename (places : ∀ second, rename (expansion.place second) = other.place second)
    (lhs rhs resultGrad : Value) (type : TensorType) :
    other.entries (lhs.rename rename) (rhs.rename rename) (resultGrad.rename rename) type op =
      (expansion.entries lhs rhs resultGrad type op).map fun (id, entry) =>
        (rename id, entry.mapOperands (·.rename rename)) := by
  have first : rename expansion.first = other.first := places false
  have second : rename expansion.second = other.second := places true
  cases op <;>
    simp [entries, Entry.mapOperands, Node.mapOperands, Node.mapOperandsIdx, Value.rename, first,
      second]

end Expansion

namespace Graph

/-- The graphs are the same but for the ids of their nodes. -/
structure Renames (graph : Graph) (rename : NodeId → NodeId) (other : Graph) : Prop where
  bijective : Set.BijOn rename {id | graph.contains id} {id | other.contains id}
  entries : ∀ id entry, graph.entry? id = some entry →
    other.entry? (rename id) = some (entry.mapOperands (·.rename rename))

/-- Old nodes keep their ids, and those that one ledger lists get the ids that the other lists. -/
structure Relabels (before : Graph) (ledger other : Ledger) (rename : NodeId → NodeId) : Prop where
  old : ∀ {id : NodeId}, before.contains id → rename id = id
  created : ∀ {gradient : NodeId} {expansion otherExpansion : Expansion},
    ledger gradient = some expansion → other gradient = some otherExpansion →
      ∀ second, rename (expansion.place second) = otherExpansion.place second

variable {before after otherAfter : Graph} {ledger other : Ledger}
  {change otherChange : Value → Value} {rename : NodeId → NodeId} {value : Value}

namespace Expanded

theorem absent_place {gradient : NodeId} {expansion : Expansion}
    (expanded : before.Expanded ledger change after) (listed : ledger gradient = some expansion)
    (second : Bool) : before.entry? (expansion.place second) = none := by
  obtain ⟨firstAbsent, secondAbsent, _⟩ := expanded.fresh listed
  cases second with
  | false => exact firstAbsent
  | true => exact secondAbsent

theorem place_injective {gradient otherGradient : NodeId} {expansion otherExpansion : Expansion}
    {second otherSecond : Bool} (expanded : before.Expanded ledger change after)
    (listed : ledger gradient = some expansion)
    (otherListed : ledger otherGradient = some otherExpansion)
    (same : expansion.place second = otherExpansion.place otherSecond) :
    gradient = otherGradient ∧ second = otherSecond := by
  by_cases sameGradient : gradient = otherGradient
  · subst sameGradient
    cases listed.symm.trans otherListed
    obtain ⟨_, _, different⟩ := expanded.fresh listed
    cases second <;> cases otherSecond
    · exact ⟨rfl, rfl⟩
    · exact absurd same different
    · exact absurd same.symm different
    · exact ⟨rfl, rfl⟩
  · exact absurd (same ▸ otherExpansion.mem_places otherSecond)
      (expanded.apart listed otherListed sameGradient _ (expansion.mem_places second))

theorem exists_relabels (expanded : before.Expanded ledger change after) (other : Ledger) :
    ∃ rename, before.Relabels ledger other rename := by
  have choices : ∀ id, ∃ name, (before.contains id → name = id) ∧
      ∀ gradient expansion otherExpansion second, ledger gradient = some expansion →
        other gradient = some otherExpansion → id = expansion.place second →
          name = otherExpansion.place second := by
    intro id
    by_cases stored : before.contains id
    · refine ⟨id, fun _ => rfl, ?_⟩
      rintro gradient expansion otherExpansion second listed _ rfl
      simp [contains, Store.contains, show before.nodes.get? _ = none from
        expanded.absent_place listed second] at stored
    · by_cases created : ∃ gradient expansion otherExpansion second,
          ledger gradient = some expansion ∧ other gradient = some otherExpansion ∧
            id = expansion.place second
      · obtain ⟨gradient, expansion, otherExpansion, second, listed, otherListed, rfl⟩ := created
        refine ⟨otherExpansion.place second, fun old => absurd old stored, ?_⟩
        intro gradient' expansion' otherExpansion' second' listed' otherListed' same
        obtain ⟨rfl, rfl⟩ := expanded.place_injective listed listed' same
        cases otherListed.symm.trans otherListed'
        rfl
      · refine ⟨id, fun _ => rfl, ?_⟩
        intro gradient expansion otherExpansion second listed otherListed same
        exact absurd
          ⟨gradient, expansion, otherExpansion, second, listed, otherListed, same⟩ created
  choose rename old created using choices
  exact ⟨rename, fun stored => old _ stored, fun listed otherListed second =>
    created _ _ _ _ second listed otherListed rfl⟩

end Expanded

namespace Relabels

theorem rename_old (relabels : before.Relabels ledger other rename)
    (stored : before.contains value.node) : value.rename rename = value := by
  rw [Value.rename, relabels.old stored]

theorem created?_eq (relabels : before.Relabels ledger other rename)
    (sameLines : ∀ id, (ledger id).isSome = (other id).isSome) (value : Value) :
    before.created? other value = (before.created? ledger value).map (·.rename rename) := by
  unfold created?
  split
  · have same := sameLines value.node
    cases listed : ledger value.node with
    | none =>
        cases otherListed : other value.node with
        | none => rfl
        | some otherExpansion => simp [listed, otherListed] at same
    | some expansion =>
        cases otherListed : other value.node with
        | none => simp [listed, otherListed] at same
        | some otherExpansion =>
            exact Expansion.gradient?_rename (relabels.created listed otherListed) value.output
  · rfl

theorem resolve_eq {acyclic : before.Acyclic} (relabels : before.Relabels ledger other rename)
    (sameLines : ∀ id, (ledger id).isSome = (other id).isSome) (sound : before.WellFormed)
    (stored : before.contains value.node) :
    before.resolve acyclic other value = (before.resolve acyclic ledger value).rename rename := by
  induction node : value.node using acyclic.wellFounded.induction generalizing value with
  | h id ih =>
      subst node
      cases forwarded : before.forward? value with
      | some next =>
          obtain ⟨_, _, _, _, found, _⟩ := forward?_eq_some_iff.mp forwarded
          have reads : before.Reads value.node next.node :=
            reads_of_node? found (by simp [Node.operands])
          rw [resolve_of_forward? forwarded, resolve_of_forward? forwarded]
          exact ih next.node reads (sound.contains_of_reads reads) rfl
      | none =>
          rw [resolve_of_stays forwarded, resolve_of_stays forwarded,
            relabels.created?_eq sameLines]
          cases before.created? ledger value with
          | none => exact (relabels.rename_old stored).symm
          | some created => rfl

theorem entry?_eq {acyclic : before.Acyclic} {id : NodeId} {entry : Entry}
    (relabels : before.Relabels ledger other rename)
    (sameLines : ∀ id, (ledger id).isSome = (other id).isSome) (sound : before.WellFormed)
    (expanded : before.Expanded ledger (before.resolve acyclic ledger) after)
    (otherExpanded : before.Expanded other (before.resolve acyclic other) otherAfter)
    (found : after.entry? id = some entry) :
    otherAfter.entry? (rename id) = some (entry.mapOperands (·.rename rename)) := by
  have resolved : ∀ {user : NodeId} {reader : Entry}, before.entry? user = some reader →
      ∀ value ∈ reader.node.operands, before.resolve acyclic other value =
        (before.resolve acyclic ledger value).rename rename :=
    fun stored value member =>
      relabels.resolve_eq sameLines sound (sound.contains_operand stored member)
  rcases expanded.entry?_cases sound found with ⟨old, oldFound, rfl⟩ |
    ⟨gradient, expansion, lhs, rhs, result, resultGrad, op, type, listed, isGradient, typed, member⟩
  · rw [relabels.old (Store.contains_of_get? oldFound), otherExpanded.kept oldFound,
      Entry.mapOperands_mapOperands]
    exact congrArg some (Entry.mapOperands_congr (resolved oldFound))
  · obtain ⟨reader, stored, isNode⟩ := node?_eq_some_iff.mp isGradient
    have operands := resolved stored
    simp only [isNode, Node.operands, List.mem_cons, List.not_mem_nil, or_false,
      forall_eq_or_imp, forall_eq] at operands
    obtain ⟨lhsResolved, rhsResolved, _, resultGradResolved⟩ := operands
    have sameLine := sameLines gradient
    rw [listed] at sameLine
    obtain ⟨otherExpansion, otherListed⟩ := Option.isSome_iff_exists.mp sameLine.symm
    have places := relabels.created listed otherListed
    have renamed := List.mem_map_of_mem (f := fun (id, entry) =>
      (rename id, entry.mapOperands (·.rename rename))) member
    rw [← Expansion.entries_rename places, ← lhsResolved, ← rhsResolved, ← resultGradResolved]
      at renamed
    exact otherExpanded.created otherListed isGradient typed _ renamed

theorem back_rename {back : NodeId → NodeId} {id : NodeId}
    (relabels : before.Relabels ledger other rename) (backward : before.Relabels other ledger back)
    (sameLines : ∀ id, (ledger id).isSome = (other id).isSome)
    (expanded : before.Expanded ledger change after) (stored : after.contains id) :
    back (rename id) = id := by
  rcases expanded.complete stored with old | ⟨gradient, expansion, listed, isPlace⟩
  · rw [relabels.old old, backward.old old]
  · have sameLine := sameLines gradient
    rw [listed] at sameLine
    obtain ⟨otherExpansion, otherListed⟩ := Option.isSome_iff_exists.mp sameLine.symm
    have returns : ∀ second, back (rename (expansion.place second)) = expansion.place second := by
      intro second
      rw [relabels.created listed otherListed, backward.created otherListed listed]
    rcases isPlace with rfl | rfl
    · exact returns false
    · exact returns true

end Relabels

theorem Expanded.exists_renames {acyclic : before.Acyclic} (sound : before.WellFormed)
    (sameLines : ∀ id, (ledger id).isSome = (other id).isSome)
    (expanded : before.Expanded ledger (before.resolve acyclic ledger) after)
    (otherExpanded : before.Expanded other (before.resolve acyclic other) otherAfter) :
    ∃ rename, (∀ id, before.contains id → rename id = id) ∧ after.Renames rename otherAfter := by
  obtain ⟨rename, relabels⟩ := expanded.exists_relabels other
  obtain ⟨back, backward⟩ := otherExpanded.exists_relabels ledger
  have sameBack : ∀ id, (other id).isSome = (ledger id).isSome := fun id => (sameLines id).symm
  have forth : Set.MapsTo rename {id | after.contains id} {id | otherAfter.contains id} := by
    intro id stored
    obtain ⟨entry, found⟩ := Option.isSome_iff_exists.mp stored
    exact Store.contains_of_get? (relabels.entry?_eq sameLines sound expanded otherExpanded found)
  have backForth : Set.MapsTo back {id | otherAfter.contains id} {id | after.contains id} := by
    intro id stored
    obtain ⟨entry, found⟩ := Option.isSome_iff_exists.mp stored
    exact Store.contains_of_get? (backward.entry?_eq sameBack sound otherExpanded expanded found)
  have inverse : Set.InvOn back rename {id | after.contains id} {id | otherAfter.contains id} :=
    ⟨fun _ stored => relabels.back_rename backward sameLines expanded stored,
      fun _ stored => backward.back_rename relabels sameBack otherExpanded stored⟩
  exact ⟨rename, fun id => relabels.old, inverse.bijOn forth backForth,
    fun id entry => relabels.entry?_eq sameLines sound expanded otherExpanded⟩

variable {replaced : Value → Value}

theorem Passed.expanded_resolve {acyclic : before.Acyclic} (sound : before.WellFormed)
    (passed : before.Passed before.topologicalOrder after ledger replaced) :
    before.Expanded ledger (before.resolve acyclic ledger) after :=
  passed.lowered.toExpanded.congr fun _ isRead => passed.replaced_eq_resolve sound isRead

theorem Passed.listed_iff (passed : before.Passed before.topologicalOrder after ledger replaced)
    (id : NodeId) : (ledger id).isSome ↔ before.IsExpandable id := by
  by_cases visited : id ∈ before.topologicalOrder
  · exact passed.expanded id visited
  · apply iff_of_false
    · intro listed
      obtain ⟨expansion, found⟩ := Option.isSome_iff_exists.mp listed
      exact visited (passed.lowered.started found)
    · intro expandable
      exact visited (before.mem_topologicalOrder.mpr expandable.isLowerable.contains)

/-- Complete passes over an acyclic graph leave the same but for the ids of created nodes. -/
theorem Arrived.exists_renames (sound : before.WellFormed) (acyclic : before.Acyclic)
    (arrived : before.Arrived before.topologicalOrder after)
    (otherArrived : before.Arrived before.topologicalOrder otherAfter) :
    ∃ rename, (∀ id, before.contains id → rename id = id) ∧ after.Renames rename otherAfter := by
  obtain ⟨ledger, replaced, passed⟩ := arrived
  obtain ⟨other, otherReplaced, otherPassed⟩ := otherArrived
  have sameLines : ∀ id, (ledger id).isSome = (other id).isSome := by
    intro id
    rw [Bool.eq_iff_iff, passed.listed_iff, otherPassed.listed_iff]
  have expanded : before.Expanded ledger (before.resolve acyclic ledger) after :=
    passed.expanded_resolve sound
  exact expanded.exists_renames sound sameLines (otherPassed.expanded_resolve sound)

end Graph

end OpGraph
