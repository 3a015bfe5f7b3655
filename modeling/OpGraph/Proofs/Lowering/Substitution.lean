import OpGraph.Proofs.Acyclicity
import OpGraph.Proofs.Operands

namespace OpGraph

/-! What lowering makes of a graph, said without the pass: every read of a gradient becomes a read
of what the chain rule gives for it.  That is another value of the graph where the rule passes the
gradient of the result on, and an output of a created node where it does not. -/

namespace BinaryOp

def isLowered : BinaryOp → Bool
  | add | mul | sub => true
  | div | max | min => false

def isExpanded : BinaryOp → Bool
  | mul | sub => true
  | add | div | max | min => false

/-- Whether an output of a gradient node of this mode is the gradient of the result. -/
def passesOn : BinaryOp → Nat → Bool
  | add, 0 => true
  | add, 1 => true
  | sub, 0 => true
  | _, _ => false

end BinaryOp

/-- The ids of the two nodes that are created for one gradient node. -/
structure Expansion where
  first : NodeId
  second : NodeId
deriving DecidableEq

namespace Expansion

/-- The created value that stands for an output of the gradient node. -/
def gradient? (expansion : Expansion) : BinaryOp → Nat → Option Value
  | .mul, 0 => some ⟨expansion.first, 0⟩
  | .mul, 1 => some ⟨expansion.second, 0⟩
  | .sub, 1 => some ⟨expansion.second, 0⟩
  | _, _ => none

/-- The two created nodes: the products with the other operand, or a zero and the difference. -/
def entries (expansion : Expansion) (lhs rhs resultGrad : Value) (type : TensorType) :
    BinaryOp → List (NodeId × Entry)
  | .mul =>
      [(expansion.first, ⟨"mul.grad.lhs", .arithmetic rhs resultGrad .mul, [type]⟩),
        (expansion.second, ⟨"mul.grad.rhs", .arithmetic lhs resultGrad .mul, [type]⟩)]
  | .sub =>
      [(expansion.first, ⟨"zero", .splat (.zero type.element) type, [type]⟩),
        (expansion.second, ⟨"sub", .arithmetic ⟨expansion.first, 0⟩ resultGrad .sub, [type]⟩)]
  | .add | .div | .max | .min => []

theorem exists_entry {op : BinaryOp} (expansion : Expansion) (expands : op.isExpanded)
    (lhs rhs resultGrad : Value) (type : TensorType) {id : NodeId}
    (place : id = expansion.first ∨ id = expansion.second) :
    ∃ entry, (id, entry) ∈ expansion.entries lhs rhs resultGrad type op := by
  cases op with
  | mul => rcases place with rfl | rfl <;> simp [entries]
  | sub => rcases place with rfl | rfl <;> simp [entries]
  | add | div | max | min => cases expands

theorem operands_of_entries {op : BinaryOp} {expansion : Expansion} {lhs rhs resultGrad : Value}
    {type : TensorType} {new : NodeId × Entry} {operand : Value}
    (member : new ∈ expansion.entries lhs rhs resultGrad type op)
    (reads : operand ∈ new.2.node.operands) :
    operand ∈ [lhs, rhs, resultGrad] ∨ operand.node = expansion.first := by
  cases op with
  | mul =>
      simp only [entries, List.mem_cons, List.not_mem_nil, or_false] at member
      rcases member with rfl | rfl <;>
        simp only [Node.operands, List.mem_cons, List.not_mem_nil, or_false] at reads ⊢ <;> tauto
  | sub =>
      simp only [entries, List.mem_cons, List.not_mem_nil, or_false] at member
      rcases member with rfl | rfl
      · cases reads
      · simp only [Node.operands, List.mem_cons, List.not_mem_nil, or_false] at reads
        rcases reads with rfl | rfl
        · exact .inr rfl
        · exact .inl (by simp)
  | add | div | max | min => cases member

theorem kind_of_entries {op : BinaryOp} {expansion : Expansion} {lhs rhs resultGrad : Value}
    {type : TensorType} {new : NodeId × Entry}
    (member : new ∈ expansion.entries lhs rhs resultGrad type op) :
    new.2.node.isGradient = false ∧ new.2.node.isRoot = false := by
  cases op with
  | mul | sub =>
      simp only [entries, List.mem_cons, List.not_mem_nil, or_false] at member
      rcases member with rfl | rfl <;> exact ⟨rfl, rfl⟩
  | add | div | max | min => cases member

theorem exists_of_mem_entries_change {op : BinaryOp} {expansion : Expansion}
    {lhs rhs resultGrad : Value} {type : TensorType} (change : Value → Value)
    (fixed : change ⟨expansion.first, 0⟩ = ⟨expansion.first, 0⟩) {new : NodeId × Entry}
    (member : new ∈ expansion.entries (change lhs) (change rhs) (change resultGrad) type op) :
    ∃ old ∈ expansion.entries lhs rhs resultGrad type op,
      (old.1, old.2.mapOperands change) = new := by
  rw [← List.mem_map]
  cases op with
  | mul => exact member
  | sub =>
      rw [entries, ← fixed] at member
      exact member
  | add | div | max | min => exact member

end Expansion

/-- Which nodes were created for which gradient node. -/
def Ledger : Type := NodeId → Option Expansion

namespace Ledger

def empty : Ledger := fun _ => none

def enter (ledger : Ledger) (id : NodeId) (expansion : Expansion) : Ledger := fun other =>
  if other = id then some expansion else ledger other

variable {ledger : Ledger} {id other : NodeId} {expansion found : Expansion}

@[simp] theorem enter_self : ledger.enter id expansion id = some expansion := if_pos rfl

theorem enter_of_ne (different : other ≠ id) : ledger.enter id expansion other = ledger other :=
  if_neg different

theorem enter_eq_some_iff : ledger.enter id expansion other = some found ↔
    (other = id ∧ expansion = found) ∨ (other ≠ id ∧ ledger other = some found) := by
  by_cases same : other = id
  · simp [enter, same]
  · simp [enter, same]

theorem enter_of_some (unlisted : ledger id = none) (listed : ledger other = some found) :
    ledger.enter id expansion other = some found := by
  refine enter_eq_some_iff.mpr (.inr ⟨?_, listed⟩)
  intro same
  subst same
  cases unlisted.symm.trans listed

end Ledger

namespace Graph

/-- Some operand of some node is this value. -/
def IsRead (graph : Graph) (value : Value) : Prop :=
  ∃ id entry, graph.entry? id = some entry ∧ value ∈ entry.node.operands

/-- The value that a gradient passes on: that of the result, for both operands of a sum and the
left operand of a difference. -/
def forward? (graph : Graph) (value : Value) : Option Value :=
  match graph.node? value.node with
  | some (.gradient _ _ _ resultGrad op) =>
      if op.passesOn value.output then some resultGrad else none
  | _ => none

/-- The created value that stands for a gradient. -/
def created? (graph : Graph) (ledger : Ledger) (value : Value) : Option Value :=
  match graph.node? value.node with
  | some (.gradient _ _ _ _ op) => (ledger value.node).bind (·.gradient? op value.output)
  | _ => none

/-- Readers of the one value may be made to read the other. -/
def Replaces (graph : Graph) (ledger : Ledger) (source target : Value) : Prop :=
  graph.forward? source = some target ∨ graph.created? ledger source = some target

/-- A graph in which operands were changed and nodes were created for the gradient nodes of the
ledger; nothing else is different. -/
structure Expanded (before : Graph) (ledger : Ledger) (change : Value → Value) (after : Graph) :
    Prop where
  kept : ∀ {id : NodeId} {entry : Entry}, before.entry? id = some entry →
    after.entry? id = some (entry.mapOperands change)
  created : ∀ {id : NodeId} {expansion : Expansion} {lhs rhs result resultGrad : Value}
    {op : BinaryOp} {type : TensorType}, ledger id = some expansion →
    before.node? id = some (.gradient lhs rhs result resultGrad op) →
    before.type? resultGrad = some type →
    ∀ new ∈ expansion.entries (change lhs) (change rhs) (change resultGrad) type op,
      after.entry? new.1 = some new.2
  expands : ∀ {id : NodeId} {expansion : Expansion}, ledger id = some expansion →
    ∃ lhs rhs result resultGrad op,
      before.node? id = some (.gradient lhs rhs result resultGrad op) ∧ op.isExpanded
  fresh : ∀ {id : NodeId} {expansion : Expansion}, ledger id = some expansion →
    before.entry? expansion.first = none ∧ before.entry? expansion.second = none ∧
      expansion.first ≠ expansion.second
  apart : ∀ {id other : NodeId} {expansion otherExpansion : Expansion},
    ledger id = some expansion → ledger other = some otherExpansion → id ≠ other →
    ∀ created ∈ [expansion.first, expansion.second],
      created ∉ [otherExpansion.first, otherExpansion.second]
  complete : ∀ {id : NodeId}, after.contains id → before.contains id ∨
    ∃ gradient expansion, ledger gradient = some expansion ∧
      (id = expansion.first ∨ id = expansion.second)

variable {graph before after : Graph} {ledger : Ledger} {change : Value → Value}
  {id : NodeId} {source target value : Value} {expansion : Expansion}

theorem isRead_of_node? {node : Node} (found : graph.node? id = some node)
    (member : value ∈ node.operands) : graph.IsRead value := by
  obtain ⟨entry, stored, rfl⟩ := node?_eq_some_iff.mp found
  exact ⟨id, entry, stored, member⟩

theorem isRead_of_gradient {lhs rhs result resultGrad : Value} {op : BinaryOp}
    (found : graph.node? id = some (.gradient lhs rhs result resultGrad op))
    (member : value ∈ [lhs, rhs, resultGrad]) : graph.IsRead value := by
  refine isRead_of_node? found ?_
  simp only [Node.operands, List.mem_cons] at member ⊢
  tauto

theorem reads_of_node? {node : Node} (found : graph.node? id = some node)
    (member : value ∈ node.operands) : graph.Reads id value.node := by
  obtain ⟨entry, stored, rfl⟩ := node?_eq_some_iff.mp found
  exact reads_of_operand stored member

theorem entry?_of_isRead (wellFormed : graph.WellFormed) (isRead : graph.IsRead value) :
    ∃ entry, graph.entry? value.node = some entry ∧ value.output < entry.types.length := by
  obtain ⟨user, reader, found, member⟩ := isRead
  obtain ⟨type, typed⟩ := wellFormed.type?_exists found member
  obtain ⟨entry, stored, output⟩ := type?_eq_some_iff.mp typed
  exact ⟨entry, stored, (List.getElem?_eq_some_iff.mp output).1⟩

theorem hasUses_iff_isRead (wellFormed : graph.WellFormed) :
    graph.hasUses id ↔ ∃ value, graph.IsRead value ∧ value.node = id := by
  rw [wellFormed.hasUses_iff_reads]
  constructor
  · intro used
    obtain ⟨user, reads⟩ := used
    obtain ⟨entry, found, operand, member, same⟩ := reads_iff.mp reads
    exact ⟨operand, ⟨user, entry, found, member⟩, same⟩
  · intro used
    obtain ⟨value, ⟨user, entry, found, member⟩, rfl⟩ := used
    exact ⟨user, reads_of_operand found member⟩

theorem useCount_eq_zero_iff (wellFormed : graph.WellFormed) :
    graph.useCount value = 0 ↔ ¬ graph.IsRead value := by
  rw [useCount, List.length_eq_zero_iff, List.eq_nil_iff_forall_not_mem, ← not_exists, not_iff_not]
  simp only [wellFormed.mem_users]
  constructor
  · intro counted
    obtain ⟨use, makes⟩ := counted
    obtain ⟨entry, found, member⟩ := operand_of_makes makes
    exact ⟨use.user, entry, found, member⟩
  · intro isRead
    obtain ⟨user, entry, found, member⟩ := isRead
    obtain ⟨number, makes⟩ := makes_of_operand found member
    exact ⟨_, makes⟩

theorem forward?_eq_some_iff : graph.forward? source = some target ↔
    ∃ lhs rhs result op, graph.node? source.node = some (.gradient lhs rhs result target op) ∧
      op.passesOn source.output := by
  unfold forward?
  split
  · next lhs rhs result resultGrad op found => simp [found, and_comm]
  · next other =>
      refine iff_of_false (by simp) ?_
      intro forwards
      obtain ⟨lhs, rhs, result, op, found, _⟩ := forwards
      exact other _ _ _ _ _ found

theorem created?_eq_some_iff : graph.created? ledger source = some target ↔
    ∃ lhs rhs result resultGrad op expansion,
      graph.node? source.node = some (.gradient lhs rhs result resultGrad op) ∧
        ledger source.node = some expansion ∧
          expansion.gradient? op source.output = some target := by
  unfold created?
  split
  · next lhs rhs result resultGrad op found => simp [found, Option.bind_eq_some_iff]
  · next other =>
      refine iff_of_false (by simp) ?_
      intro creates
      obtain ⟨lhs, rhs, result, resultGrad, op, expansion, found, _⟩ := creates
      exact other _ _ _ _ _ found

theorem node_of_gradient? {op : BinaryOp} {output : Nat}
    (found : expansion.gradient? op output = some target) :
    target.node = expansion.first ∨ target.node = expansion.second := by
  unfold Expansion.gradient? at found
  split at found <;> cases found <;> simp

theorem isLowered_of_passesOn {op : BinaryOp} {output : Nat} (passes : op.passesOn output) :
    op.isLowered := by
  cases op <;> first | rfl | cases passes

theorem Replaces.isLowered (replaces : graph.Replaces ledger source target) :
    ∃ lhs rhs result resultGrad op,
      graph.node? source.node = some (.gradient lhs rhs result resultGrad op) ∧ op.isLowered := by
  rcases replaces with forwarded | created
  · obtain ⟨lhs, rhs, result, op, found, passes⟩ := forward?_eq_some_iff.mp forwarded
    exact ⟨lhs, rhs, result, target, op, found, isLowered_of_passesOn passes⟩
  · obtain ⟨lhs, rhs, result, resultGrad, op, expansion, found, _, gradient⟩ :=
      created?_eq_some_iff.mp created
    refine ⟨lhs, rhs, result, resultGrad, op, found, ?_⟩
    cases op <;> first | rfl | cases gradient

theorem Replaces.mono {later : Ledger} (replaces : graph.Replaces ledger source target)
    (longer : ∀ id expansion, ledger id = some expansion → later id = some expansion) :
    graph.Replaces later source target := by
  refine replaces.imp_right fun created => ?_
  obtain ⟨lhs, rhs, result, resultGrad, op, expansion, found, listed, gradient⟩ :=
    created?_eq_some_iff.mp created
  exact created?_eq_some_iff.mpr
    ⟨lhs, rhs, result, resultGrad, op, expansion, found, longer _ _ listed, gradient⟩

namespace Expanded

theorem not_contains (expanded : before.Expanded ledger change after)
    (created : before.created? ledger source = some target) : before.entry? target.node = none := by
  obtain ⟨_, _, _, _, _, expansion, _, listed, gradient⟩ := created?_eq_some_iff.mp created
  obtain ⟨first, second, _⟩ := expanded.fresh listed
  rcases node_of_gradient? gradient with same | same
  · rw [same, first]
  · rw [same, second]

theorem congr {other : Value → Value} (expanded : before.Expanded ledger change after)
    (agree : ∀ value, before.IsRead value → change value = other value) :
    before.Expanded ledger other after where
  kept := by
    intro id entry found
    rw [expanded.kept found]
    exact congrArg some (Entry.mapOperands_congr fun value member =>
      agree value ⟨id, entry, found, member⟩)
  created := by
    intro id expansion lhs rhs result resultGrad op type listed found typed
    have same : ∀ operand ∈ [lhs, rhs, result, resultGrad], change operand = other operand :=
      fun operand member => agree operand (isRead_of_node? found member)
    simp only [List.mem_cons, List.not_mem_nil, or_false, forall_eq_or_imp, forall_eq] at same
    obtain ⟨lhsSame, rhsSame, _, resultGradSame⟩ := same
    rw [← lhsSame, ← rhsSame, ← resultGradSame]
    exact expanded.created listed found typed
  expands := expanded.expands
  fresh := expanded.fresh
  apart := expanded.apart
  complete := expanded.complete

end Expanded

theorem Replaces.isRead_or_absent (expanded : before.Expanded ledger change after)
    (replaces : before.Replaces ledger source target) :
    before.IsRead target ∨ before.entry? target.node = none := by
  rcases replaces with forwarded | created
  · obtain ⟨lhs, rhs, result, op, found, _⟩ := forward?_eq_some_iff.mp forwarded
    exact .inl (isRead_of_node? found (by simp [Node.operands]))
  · exact .inr (expanded.not_contains created)

end Graph

end OpGraph
