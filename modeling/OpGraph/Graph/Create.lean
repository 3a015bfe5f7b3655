import OpGraph.Graph.Edit

namespace OpGraph

/-! Creation of nodes.  Types are checked before anything changes. -/

namespace Graph

def insert (graph : Graph) (entry : Entry) : Graph :=
  { nodes := graph.nodes.insert entry
    uses := graph.uses.insertAll (entry.node.readsAs graph.nodes.nextIndex) }

end Graph

namespace Edit

def typeOf (value : Value) : Edit TensorType := do
  orFail (.missingValue value) (← ask (·.type? value))

def insert (name : String) (node : Node) (types : List TensorType) : Edit NodeId := do
  let id ← ask (·.nodes.nextIndex)
  change (·.insert ⟨name, node, types⟩)
  return id

def createInput (name : String) (type : TensorType) : Edit Value := do
  let id ← insert name (.input type) [type]
  return ⟨id, 0⟩

/-- Creates a tensor with all elements equal to a constant, which must be of the element type. -/
def createSplat (name : String) (value : Constant) (type : TensorType) : Edit Value := do
  if value.element = type.element then
    let id ← insert name (.splat value type) [type]
    return ⟨id, 0⟩
  else
    fail (.splatType name type value)

def createZero (name : String) (type : TensorType) : Edit Value := do
  let id ← insert name (.splat (.zero type.element) type) [type]
  return ⟨id, 0⟩

def createArithmetic (name : String) (lhs rhs : Value) (op : BinaryOp) : Edit Value := do
  let lhsType ← typeOf lhs
  let rhsType ← typeOf rhs
  if lhsType = rhsType then
    let id ← insert name (.arithmetic lhs rhs op) [lhsType]
    return ⟨id, 0⟩
  else
    fail (.arithmeticTypes op name lhsType rhsType)

/-- Checks that values exist and have the given type; the first that does not decides the error. -/
def requireTypes (op : BinaryOp) (name : String) (type : TensorType) : List Value → Edit Unit
  | [] => return ()
  | operand :: rest => do
      let operandType ← typeOf operand
      if operandType = type then
        requireTypes op name type rest
      else
        fail (.gradientTypes op name type operand operandType)

/-- Creates the backward pass of elementwise arithmetic on values of one type. -/
def createGradient (name : String) (lhs rhs result resultGrad : Value) (op : BinaryOp) :
    Edit NodeId := do
  let type ← typeOf lhs
  requireTypes op name type [rhs, result, resultGrad]
  insert name (.gradient lhs rhs result resultGrad op) [type, type]

def createSave (name : String) (value : Value) : Edit NodeId := do
  let _ ← typeOf value
  insert name (.save value) []

end Edit

end OpGraph
