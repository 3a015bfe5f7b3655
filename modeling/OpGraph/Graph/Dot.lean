import OpGraph.Graph.Basic

namespace OpGraph

/-! The graph as a text of the dot language: a vertex for every node and an edge for every read. -/

namespace Node

def shape : Node → String
  | input _ => "box"
  | splat _ _ => "box"
  | arithmetic _ _ _ => "oval"
  | gradient _ _ _ _ _ => "oval"
  | save _ => "box"

def colour : Node → String
  | input _ => "aqua"
  | splat _ _ => "aqua"
  | arithmetic _ _ _ => "white"
  | gradient _ _ _ _ _ => "gold"
  | save _ => "coral"

end Node

namespace Dot

/-- The two letters `NL` stand for the line break of a label, a backslash and an `n`; so they do
wherever they come from. -/
def breakLabel : List Char → List Char
  | 'N' :: 'L' :: rest => '\\' :: 'n' :: breakLabel rest
  | first :: rest => first :: breakLabel rest
  | [] => []

def header : String :=
  "strict digraph \x7b\n  ordering=in\n  rank=source\n  rankdir=LR\n"

/-- The label of a vertex: id and name, then the operation, then the types of the outputs. -/
def label (id : NodeId) (entry : Entry) : String :=
  id.repr ++ " " ++ entry.name ++ "NL" ++ entry.node.kind ++ "NL" ++
    ", ".intercalate (entry.types.map TensorType.text)

def vertex (id : NodeId) (entry : Entry) : String :=
  "  " ++ id.repr ++ "[label=\"" ++ String.ofList (breakLabel (label id entry).toList) ++
    "\", shape=" ++ entry.node.shape ++ ", fillcolor=\"" ++ entry.node.colour ++
    "\", style=filled]\n"

/-- The edges into a node, by operand number, each labelled with the name of the operand. -/
def edges (id : NodeId) (node : Node) : List String :=
  List.zipWith (fun value name =>
      "  " ++ value.node.repr ++ " -> " ++ id.repr ++ " [label=\"" ++ name ++ "\"]\n")
    node.operands node.inputNames

end Dot

namespace Graph

/-- All vertices by ascending id, then all edges by ascending id of their target. -/
def dot (graph : Graph) : String :=
  Dot.header ++
    String.join (graph.nodes.entries.map fun (id, entry) => Dot.vertex id entry) ++
    String.join (graph.nodes.entries.flatMap fun (id, entry) => Dot.edges id entry.node) ++
    "\x7d"

end Graph

end OpGraph
