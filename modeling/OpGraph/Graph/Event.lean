import OpGraph.Graph.Dot
import OpGraph.Lowering.Stats

namespace OpGraph

/-! What edits and passes report while they work.  Reports never influence the work itself. -/

/-- How much a report matters, from the finest detail on. -/
inductive Level where
  | trace
  | debug
  | warn
deriving DecidableEq

inductive Event where
  | usesReplaced (count : Nat) (source target : Value)
  | loweringStarted (size : Nat) (mode : CompilationMode)
  | gradientLowered (op : BinaryOp) (id : NodeId) (name : String)
  | gradientLeft (id : NodeId) (name : String) (op : BinaryOp)
  | loweringDone (stats : Stats)
  | deadNodeRemoved (id : NodeId) (name : String) (node : Node)
  | pruned (count : Nat)
  | graphBefore (graph : Graph)
  | graphAfter (graph : Graph)
deriving DecidableEq

namespace Event

def level : Event → Level
  | usesReplaced _ _ _ => .trace
  | gradientLeft _ _ _ => .warn
  | _ => .debug

def message : Event → String
  | usesReplaced count source target =>
      "Replaced " ++ count.repr ++ " uses of " ++ source.text ++ " with " ++ target.text
  | loweringStarted size mode =>
      "Lowering graph with " ++ size.repr ++ " nodes in " ++ mode.name ++ " mode"
  | gradientLowered op id name =>
      "Lowered " ++ op.name ++ " gradient " ++ id.repr ++ " (" ++ name ++ ")"
  | gradientLeft id name op =>
      "Gradient node " ++ id.repr ++ " (" ++ name ++ ") of " ++ op.name ++
        " has no lowering rule, leaving it in the graph"
  | loweringDone stats => "Lowering done, " ++ stats.text
  | deadNodeRemoved id name node =>
      "Removing dead node " ++ id.repr ++ " (" ++ name ++ ") " ++ node.kind
  | pruned count => "Dead code elimination removed " ++ count.repr ++ " nodes"
  | graphBefore graph => "Graph before lowering:\n" ++ graph.dot
  | graphAfter graph => "Graph after lowering:\n" ++ graph.dot

end Event

end OpGraph
