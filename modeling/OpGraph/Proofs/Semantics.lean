import OpGraph.Proofs.Acyclicity
import OpGraph.Proofs.Operands

namespace OpGraph

/-! What a graph computes.  The meaning of the operators is a parameter, except that the gradients
of sums, products and differences are those that the chain rule gives. -/

/-- The meaning of the operators in some domain of values. -/
structure Interpretation (D : Type u) where
  binary : BinaryOp → D → D → D
  splat : Constant → TensorType → D
  input : NodeId → D
  /-- The two gradients of the modes that have no chain rule here, as functions of the forward
  operands, the result and the gradient of the result. -/
  gradient : BinaryOp → Nat → D → D → D → D → D

namespace Interpretation

variable {D : Type u} (interpretation : Interpretation D)

/-- A gradient of the given type, when the four operands have the given values. -/
def chainRule (op : BinaryOp) (type : TensorType) (operands : Nat → D) (output : Nat) : D :=
  match op, output with
  | .add, _ => operands 3
  | .mul, 0 => interpretation.binary .mul (operands 1) (operands 3)
  | .mul, _ => interpretation.binary .mul (operands 0) (operands 3)
  | .sub, 0 => operands 3
  | .sub, _ =>
      interpretation.binary .sub (interpretation.splat (.zero type.element) type) (operands 3)
  | op, output =>
      interpretation.gradient op output (operands 0) (operands 1) (operands 2) (operands 3)

/-- An output of the given type, when the operands have the given values.  A sink has no outputs, so
that it does not matter what is said of them here. -/
def output (id : NodeId) (node : Node) (type : TensorType) (operands : Nat → D) (output : Nat) :
    D :=
  match node with
  | .input _ => interpretation.input id
  | .splat value type => interpretation.splat value type
  | .arithmetic _ _ op => interpretation.binary op (operands 0) (operands 1)
  | .gradient _ _ _ _ op => interpretation.chainRule op type operands output
  | .save _ => operands 0

@[simp] theorem output_mapOperands (id : NodeId) (node : Node) (type : TensorType)
    (operands : Nat → D) (output : Nat) (change : Value → Value) :
    interpretation.output id (node.mapOperands change) type operands output =
      interpretation.output id node type operands output := by
  cases node <;> rfl

theorem output_congr {id : NodeId} {node : Node} {type : TensorType} {first second : Nat → D}
    {output : Nat} (agree : ∀ operand value, node.operands[operand]? = some value →
      first operand = second operand) :
    interpretation.output id node type first output =
      interpretation.output id node type second output := by
  cases node with
  | input type => rfl
  | splat value type => rfl
  | arithmetic lhs rhs op =>
      simp only [Interpretation.output, agree 0 lhs rfl, agree 1 rhs rfl]
  | gradient lhs rhs result resultGrad op =>
      simp only [Interpretation.output]
      unfold chainRule
      rw [agree 0 lhs rfl, agree 1 rhs rfl, agree 2 result rfl, agree 3 resultGrad rfl]
  | save value => simp only [Interpretation.output, agree 0 value rfl]

end Interpretation

/-- A value of a graph has a meaning: the output of its node for the meanings of the operands. -/
inductive Graph.Evaluates {D : Type u} (interpretation : Interpretation D) (graph : Graph) :
    Value → D → Prop where
  | node {id : NodeId} {entry : Entry} {number : Nat} {type : TensorType} {operands : Nat → D}
      (found : graph.entry? id = some entry)
      (typed : entry.types[number]? = some type)
      (evaluates : ∀ operand value, entry.node.operands[operand]? = some value →
        graph.Evaluates interpretation value (operands operand)) :
      graph.Evaluates interpretation ⟨id, number⟩
        (interpretation.output id entry.node type operands number)

namespace Graph

variable {D : Type u} {interpretation : Interpretation D} {graph : Graph} {id : NodeId}
  {value : Value} {d other : D} {type : TensorType} {name : String}

theorem Evaluates.splat {constant : Constant}
    (found : graph.entry? id = some ⟨name, .splat constant type, [type]⟩) :
    graph.Evaluates interpretation ⟨id, 0⟩ (interpretation.splat constant type) :=
  have unread : ∀ operand value,
      (Node.splat constant type).operands[operand]? = some value →
        graph.Evaluates interpretation value (interpretation.splat constant type) := by
    intro operand value reads
    cases reads
  .node found rfl unread

theorem Evaluates.arithmetic {lhs rhs : Value} {op : BinaryOp} {lhsMeaning rhsMeaning : D}
    (found : graph.entry? id = some ⟨name, .arithmetic lhs rhs op, [type]⟩)
    (left : graph.Evaluates interpretation lhs lhsMeaning)
    (right : graph.Evaluates interpretation rhs rhsMeaning) :
    graph.Evaluates interpretation ⟨id, 0⟩ (interpretation.binary op lhsMeaning rhsMeaning) := by
  let operands : Nat → D := fun
    | 0 => lhsMeaning
    | _ => rhsMeaning
  have evaluates : ∀ operand value, (Node.arithmetic lhs rhs op).operands[operand]? = some value →
      graph.Evaluates interpretation value (operands operand) := by
    intro operand value reads
    match operand with
    | 0 => exact Option.some.inj reads ▸ left
    | 1 => exact Option.some.inj reads ▸ right
    | operand + 2 => cases reads
  exact .node found rfl evaluates

theorem Evaluates.unique (first : graph.Evaluates interpretation value d)
    (second : graph.Evaluates interpretation value other) : d = other := by
  induction first generalizing other with
  | node found typed _ ih =>
      cases second with
      | node otherFound otherTyped otherEvaluates =>
          cases found.symm.trans otherFound
          cases typed.symm.trans otherTyped
          exact interpretation.output_congr fun operand value reads =>
            ih operand value reads (otherEvaluates operand value reads)

theorem WellFormed.exists_evaluates (wellFormed : graph.WellFormed) (acyclic : graph.Acyclic)
    (interpretation : Interpretation D) (typed : graph.type? value = some type) :
    ∃ d, graph.Evaluates interpretation value d := by
  obtain ⟨id, number⟩ := value
  induction id using acyclic.wellFounded.induction generalizing number type with
  | h id ih =>
      obtain ⟨entry, found, output⟩ := type?_eq_some_iff.mp typed
      have meaning : ∀ operand : Nat, ∃ d, ∀ value,
          entry.node.operands[operand]? = some value →
            graph.Evaluates interpretation value d := by
        intro operand
        cases reads : entry.node.operands[operand]? with
        | none => exact ⟨interpretation.input 0, fun _ absent => by cases absent⟩
        | some source =>
            have member := List.mem_of_getElem? reads
            obtain ⟨sourceType, sourceTyped⟩ := wellFormed.type?_exists found member
            obtain ⟨d, evaluates⟩ := ih source.node (reads_of_operand found member) source.output
              sourceTyped
            exact ⟨d, fun _ same => Option.some.inj same ▸ evaluates⟩
      choose operands evaluates using meaning
      exact ⟨_, .node found output evaluates⟩

end Graph

end OpGraph
