import OpGraph.Optimize

namespace OpGraph

/-! Sessions: everything that can be done with a graph and asked of it, as data.  The graphs that a
session can lead to are those that commands make from the empty graph. -/

inductive Command where
  | createInput (name : String) (type : TensorType)
  | createSplat (name : String) (value : Constant) (type : TensorType)
  | createZero (name : String) (type : TensorType)
  | createArithmetic (name : String) (lhs rhs : Value) (op : BinaryOp)
  | createGradient (name : String) (lhs rhs result resultGrad : Value) (op : BinaryOp)
  | createSave (name : String) (value : Value)
  | replaceUses (source target : Value)
  | remove (id : NodeId)
  | verify
  | lower (config : Config) (mode : CompilationMode)
  | prune
  | optimize (config : Config) (mode : CompilationMode)
deriving DecidableEq

/-- A question that leaves the graph as it is. -/
inductive Query where
  | size
  | isEmpty
  | ids
  | node (id : NodeId)
  /-- As `node`, for a node that is known to exist. -/
  | existingNode (id : NodeId)
  | contains (id : NodeId)
  | hasUses (id : NodeId)
  | nameOf (id : NodeId)
  | nodesNamed (name : String)
  | typeOf (value : Value)
  | users (value : Value)
  | useCount (value : Value)
  | topologicalOrder
  | dot
deriving DecidableEq

inductive Answer where
  | done
  | value (value : Value)
  | id (id : NodeId)
  | ids (ids : List NodeId)
  | node (node : Option Node)
  | stats (stats : Stats)
  | count (count : Nat)
  | truth (holds : Bool)
  | text (text : Option String)
  | type (type : Option TensorType)
  | uses (uses : List Use)
deriving DecidableEq

def Command.edit : Command → Edit Answer
  | .createInput name type => .value <$> Edit.createInput name type
  | .createSplat name value type => .value <$> Edit.createSplat name value type
  | .createZero name type => .value <$> Edit.createZero name type
  | .createArithmetic name lhs rhs op => .value <$> Edit.createArithmetic name lhs rhs op
  | .createGradient name lhs rhs result resultGrad op =>
      .id <$> Edit.createGradient name lhs rhs result resultGrad op
  | .createSave name value => .id <$> Edit.createSave name value
  | .replaceUses source target => (fun _ => .done) <$> Edit.replaceUses source target
  | .remove id => (fun removed => .node (some removed)) <$> Edit.remove id
  | .verify => (fun _ => .done) <$> Edit.verify
  | .lower config mode => .stats <$> Edit.lower config mode
  | .prune => .count <$> Edit.prune false
  | .optimize config mode => .stats <$> Edit.optimize config mode

/-- The answer to a question.  Only a node that is wrongly taken for granted has none. -/
def Query.answer (graph : Graph) : Query → Except GraphError Answer
  | .size => .ok (.count graph.size)
  | .isEmpty => .ok (.truth graph.isEmpty)
  | .ids => .ok (.ids graph.ids)
  | .node id => .ok (.node (graph.node? id))
  | .existingNode id =>
      match graph.node? id with
      | some found => .ok (.node (some found))
      | none => .error (.broken (.emptySlot id))
  | .contains id => .ok (.truth (graph.contains id))
  | .hasUses id => .ok (.truth (graph.hasUses id))
  | .nameOf id => .ok (.text (graph.name? id))
  | .nodesNamed name => .ok (.ids (graph.nodesNamed name))
  | .typeOf value => .ok (.type (graph.type? value))
  | .users value => .ok (.uses (graph.users value))
  | .useCount value => .ok (.count (graph.useCount value))
  | .topologicalOrder => .ok (.ids graph.topologicalOrder)
  | .dot => .ok (.text (some graph.dot))

/-- The graphs that some sequence of commands makes from the empty graph, failed ones included. -/
inductive Reachable : Graph → Prop where
  | empty : Reachable .empty
  | step {graph : Graph} (command : Command) (earlier : Reachable graph) :
      Reachable (command.edit graph).graph

end OpGraph
