import OpGraph.Constant
import OpGraph.TensorType

namespace OpGraph

/-- The number of a node in its graph.  The number of a removed node may be given out again. -/
abbrev NodeId := Nat

def NodeId.partsText (id : NodeId) : String :=
  "NodeId(" ++ id.repr ++ ")"

/-- One output of one node; every edge of the graph starts at a value. -/
structure Value where
  node : NodeId
  output : Nat
deriving DecidableEq, Ord

/-- The place at which a value is read: a node and the number of its operand. -/
structure Use where
  user : NodeId
  operand : Nat
deriving DecidableEq, Ord

/-- The place with its parts named, as in `Use { user: NodeId(3), operand: 0 }`. -/
def Use.partsText (use : Use) : String :=
  "Use \x7b user: " ++ NodeId.partsText use.user ++ ", operand: " ++ use.operand.repr ++ " \x7d"

inductive BinaryOp where
  | add
  | mul
  | sub
  | div
  | max
  | min
deriving DecidableEq, Ord

inductive CompilationMode where
  | train
  | infer
deriving DecidableEq

/-- An operator and the values it reads. -/
inductive Node where
  /-- An input of the graph or a weight. -/
  | input (type : TensorType)
  /-- A tensor with all elements equal to one constant. -/
  | splat (value : Constant) (type : TensorType)
  /-- Elementwise arithmetic on two tensors. -/
  | arithmetic (lhs rhs : Value) (op : BinaryOp)
  /-- The backward pass of `arithmetic`: it reads the two operands of the forward operator, its
  result and the gradient of that result, and produces the gradients of the two operands. -/
  | gradient (lhs rhs result resultGrad : Value) (op : BinaryOp)
  /-- Stores its operand outside of the graph. -/
  | save (value : Value)
deriving DecidableEq, Ord

namespace Value

/-- The output of a gradient node that holds the gradient of its left operand. -/
def gradOfLhs (node : NodeId) : Value := ⟨node, 0⟩

/-- The output of a gradient node that holds the gradient of its right operand. -/
def gradOfRhs (node : NodeId) : Value := ⟨node, 1⟩

def text (value : Value) : String :=
  value.node.repr ++ ":" ++ value.output.repr

instance : ToString Value := ⟨text⟩

end Value

namespace BinaryOp

def name : BinaryOp → String
  | add => "Add"
  | mul => "Mul"
  | sub => "Sub"
  | div => "Div"
  | max => "Max"
  | min => "Min"

instance : ToString BinaryOp := ⟨name⟩

end BinaryOp

namespace CompilationMode

/-- Graphs are compiled for inference unless training is asked for. -/
instance : Inhabited CompilationMode := ⟨infer⟩

def name : CompilationMode → String
  | train => "Train"
  | infer => "Infer"

instance : ToString CompilationMode := ⟨name⟩

end CompilationMode

namespace Node

def operands : Node → List Value
  | input _ => []
  | splat _ _ => []
  | arithmetic lhs rhs _ => [lhs, rhs]
  | gradient lhs rhs result resultGrad _ => [lhs, rhs, result, resultGrad]
  | save value => [value]

/-- The node with one operand replaced, if it has an operand of that number. -/
def setOperand? (value : Value) : Node → Nat → Option Node
  | save _, 0 => some (save value)
  | arithmetic _ rhs op, 0 => some (arithmetic value rhs op)
  | arithmetic lhs _ op, 1 => some (arithmetic lhs value op)
  | gradient _ rhs result resultGrad op, 0 => some (gradient value rhs result resultGrad op)
  | gradient lhs _ result resultGrad op, 1 => some (gradient lhs value result resultGrad op)
  | gradient lhs rhs _ resultGrad op, 2 => some (gradient lhs rhs value resultGrad op)
  | gradient lhs rhs result _ op, 3 => some (gradient lhs rhs result value op)
  | _, _ => none

def inputNames : Node → List String
  | input _ => []
  | splat _ _ => []
  | arithmetic _ _ _ => ["LHS", "RHS"]
  | gradient _ _ _ _ _ =>
      ["LHS", "RHS", "OriginalOutputForResult", "GradOfOriginalOutputNamedResult"]
  | save _ => ["Input"]

def outputNames : Node → List String
  | input _ => ["Output"]
  | splat _ _ => ["Result"]
  | arithmetic _ _ _ => ["Result"]
  | gradient _ _ _ _ _ => ["GradOfInputNamedLHS", "GradOfInputNamedRHS"]
  | save _ => []

def outputCount (node : Node) : Nat :=
  node.outputNames.length

/-- Whether a node is wanted even when nothing reads it. -/
def isRoot : Node → Bool
  | input _ => true
  | save _ => true
  | _ => false

def isGradient : Node → Bool
  | gradient _ _ _ _ _ => true
  | _ => false

def kind : Node → String
  | input _ => "Variable"
  | splat value _ => "Splat(" ++ value.text ++ ")"
  | arithmetic _ _ op => op.name
  | gradient _ _ _ _ op => op.name ++ "Grad"
  | save _ => "Save"

theorem length_operands_le (node : Node) : node.operands.length ≤ 4 := by
  cases node <;> simp [operands]

theorem length_inputNames (node : Node) : node.inputNames.length = node.operands.length := by
  cases node <;> rfl

end Node

end OpGraph
