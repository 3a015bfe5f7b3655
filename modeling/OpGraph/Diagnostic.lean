import OpGraph.Node

namespace OpGraph

inductive Diagnostic where
  /-- Types of operands or of a replacement disagree. -/
  | typeMismatch (detail : String)
  /-- A node or an output does not exist or can not be used in this way. -/
  | invalidNode (detail : String)
  /-- A gradient node has no lowering rule. -/
  | unsupportedMode (node : NodeId) (op : BinaryOp)
  /-- A graph contradicts itself. -/
  | verification (detail : String)
  /-- A text could not be read. -/
  | parse (detail : String)
  /-- A file could not be read. -/
  | io (detail : String)
  /-- A promise between the parts of the library was broken; not a refusal but an end. -/
  | fault (detail : String)
deriving DecidableEq

namespace Diagnostic

def message : Diagnostic → String
  | typeMismatch detail => "Type mismatch " ++ detail
  | invalidNode detail => "Invalid node " ++ detail
  | unsupportedMode node op =>
      "Gradient node " ++ node.repr ++ " has mode " ++ op.name ++ " which can not be lowered"
  | verification detail => "Verification failed, " ++ detail
  | parse detail => "Parse " ++ detail
  | io detail => "IO " ++ detail
  | fault detail => detail

def cause? : Diagnostic → Option String
  | io detail => some detail
  | _ => none

end Diagnostic

end OpGraph
