import OpGraph.Store
import OpGraph.UseIndex

namespace OpGraph

/-- A node as the graph keeps it, with one type for each of its outputs. -/
structure Entry where
  name : String
  node : Node
  types : List TensorType
deriving DecidableEq

/-- Named nodes and the index of all reads between them.  Two graphs are equal only if their node
storage is, freed slots included. -/
structure Graph where
  nodes : Store Entry
  uses : UseIndex
deriving DecidableEq

/-- The reads that a node makes when it has the given number. -/
def Node.readsAs (node : Node) (id : NodeId) : List Read :=
  node.operands.zipIdx.map fun (value, operand) => ⟨value, ⟨id, operand⟩⟩

namespace Graph

def empty : Graph := ⟨.empty, .empty⟩

instance : Inhabited Graph := ⟨empty⟩

def size (graph : Graph) : Nat :=
  graph.nodes.size

def isEmpty (graph : Graph) : Bool :=
  graph.size = 0

def ids (graph : Graph) : List NodeId :=
  graph.nodes.indices

def entry? (graph : Graph) (id : NodeId) : Option Entry :=
  graph.nodes.get? id

def node? (graph : Graph) (id : NodeId) : Option Node :=
  (graph.entry? id).map (·.node)

def contains (graph : Graph) (id : NodeId) : Bool :=
  graph.nodes.contains id

def name? (graph : Graph) (id : NodeId) : Option String :=
  (graph.entry? id).map (·.name)

def nodesNamed (graph : Graph) (name : String) : List NodeId :=
  (graph.nodes.entries.filter fun (_, entry) => entry.name = name).map (·.1)

def type? (graph : Graph) (value : Value) : Option TensorType :=
  (graph.entry? value.node).bind (·.types[value.output]?)

def users (graph : Graph) (value : Value) : List Use :=
  graph.uses.users value

def useCount (graph : Graph) (value : Value) : Nat :=
  (graph.users value).length

def hasUses (graph : Graph) (id : NodeId) : Bool :=
  graph.uses.readsNode id

def sources (graph : Graph) (id : NodeId) : List NodeId :=
  ((graph.node? id).map fun node => node.operands.map (·.node)).getD []

theorem length_sources_le (graph : Graph) (id : NodeId) : (graph.sources id).length ≤ 4 := by
  unfold sources
  cases graph.node? id with
  | none => simp
  | some node => simpa using node.length_operands_le

/-- Every read that some node makes, found by looking at all nodes. -/
def allReads (graph : Graph) : List Read :=
  graph.nodes.entries.flatMap fun (id, entry) => entry.node.readsAs id

end Graph

end OpGraph
