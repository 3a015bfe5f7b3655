import OpGraph.Diagnostic

namespace OpGraph

/-- The ways in which a graph can contradict itself. -/
inductive Flaw where
  | typeCount (id : NodeId) (types outputs : Nat)
  | missingOperand (use : Use) (value : Value)
  | inputType (id : NodeId) (declared output : TensorType)
  | splatType (id : NodeId) (value : Constant) (output : TensorType)
  | operandTypes (id : NodeId) (op : BinaryOp)
  | outputTypes (id : NodeId) (op : BinaryOp) (outputs : List TensorType) (operand : TensorType)
  | staleUses (value : Value) (uses : List Use)
  | missingUses
deriving DecidableEq

/-- States that no sequence of edits leads to. -/
inductive Fault where
  /-- A node was taken for granted that does not exist. -/
  | emptySlot (id : NodeId)
  /-- The index names an operand that its node does not have. -/
  | missingOperand (use : Use) (value : Value)
deriving DecidableEq

inductive GraphError where
  | missingValue (value : Value)
  | missingNode (id : NodeId)
  | stillUsed (id : NodeId)
  | selfRead (source target : Value)
  | missingResultGrad (id : NodeId) (value : Value)
  | splatType (name : String) (type : TensorType) (value : Constant)
  | arithmeticTypes (op : BinaryOp) (name : String) (lhs rhs : TensorType)
  | gradientTypes (op : BinaryOp) (name : String) (type : TensorType)
      (operand : Value) (operandType : TensorType)
  | replacementTypes (source : Value) (sourceType : TensorType)
      (target : Value) (targetType : TensorType)
  | unsupportedMode (id : NodeId) (op : BinaryOp)
  | flawed (flaw : Flaw)
  | broken (fault : Fault)
deriving DecidableEq

namespace Flaw

def detail : Flaw → String
  | typeCount id types outputs =>
      id.repr ++ " has " ++ types.repr ++ " types for " ++ outputs.repr ++ " outputs"
  | missingOperand use value =>
      "operand " ++ use.operand.repr ++ " of " ++ use.user.repr ++ " reads missing " ++ value.text
  | inputType id declared output =>
      "variable " ++ id.repr ++ " is " ++ declared.text ++ " but outputs " ++ output.text
  | splatType id value output =>
      "splat " ++ id.repr ++ " of " ++ value.text ++ " has type " ++ output.text
  | operandTypes id op => op.name ++ " " ++ id.repr ++ " has operands of different types"
  | outputTypes id op outputs operand =>
      op.name ++ " " ++ id.repr ++ " outputs [" ++
        ", ".intercalate (outputs.map TensorType.partsText) ++ "], operands are " ++ operand.text
  | staleUses value uses =>
      "index has uses \x7b" ++ ", ".intercalate (uses.map Use.partsText) ++ "\x7d of " ++
        value.text ++ ", operands disagree"
  | missingUses => "index is missing uses of some operands"

end Flaw

namespace Fault

def detail : Fault → String
  | emptySlot id => "slab index " ++ id.repr ++ " is empty"
  | missingOperand use value =>
      "operand " ++ use.operand.repr ++ " of " ++ use.user.repr ++ " reading " ++ value.text ++
        " does not exist"

end Fault

namespace GraphError

def diagnostic : GraphError → Diagnostic
  | missingValue value => .invalidNode (value.text ++ " does not exist")
  | missingNode id => .invalidNode (id.repr ++ " does not exist")
  | stillUsed id => .invalidNode (id.repr ++ " can not be removed, it is still used")
  | selfRead source target =>
      .invalidNode ("replacing " ++ source.text ++ " with " ++ target.text ++
        " would make node " ++ target.node.repr ++ " read itself")
  | missingResultGrad id value =>
      .invalidNode ("gradient node " ++ id.repr ++ " reads missing " ++ value.text)
  | splatType name type value =>
      .typeMismatch ("splat " ++ name ++ " of " ++ type.text ++ " can not hold constant " ++
        value.text ++ " of " ++ value.element.name)
  | arithmeticTypes op name lhs rhs =>
      .typeMismatch (op.name ++ " " ++ name ++ " with lhs " ++ lhs.text ++ " and rhs " ++ rhs.text)
  | gradientTypes op name type operand operandType =>
      .typeMismatch (op.name ++ " gradient " ++ name ++ " with lhs " ++ type.text ++
        " and operand " ++ operand.text ++ " of " ++ operandType.text)
  | replacementTypes source sourceType target targetType =>
      .typeMismatch ("replacing " ++ source.text ++ " of " ++ sourceType.text ++ " with " ++
        target.text ++ " of " ++ targetType.text)
  | unsupportedMode id op => .unsupportedMode id op
  | flawed flaw => .verification flaw.detail
  | broken fault => .fault fault.detail

end GraphError

end OpGraph
