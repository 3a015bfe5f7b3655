import OpGraph.Graph.Edit

namespace OpGraph

/-! Verification: every operand exists, types agree, and the index holds exactly the reads that the
nodes make. -/

/-- What is wrong with the types of a node whose operands have the given types.  That the number of
its types is right has been seen to before. -/
def Entry.typeFlaw? (entry : Entry) (id : NodeId) (operandTypes : List TensorType) : Option Flaw :=
  match entry.node with
  | .input type =>
      entry.types.head?.bind fun output =>
        if type = output then none else some (.inputType id type output)
  | .splat value type =>
      entry.types.head?.bind fun output =>
        if value.element = type.element ∧ type = output then none
        else some (.splatType id value output)
  | .arithmetic _ _ op | .gradient _ _ _ _ op =>
      operandTypes.head?.bind fun operand =>
        if operandTypes.any (· ≠ operand) then some (.operandTypes id op)
        else if entry.types.any (· ≠ operand) then some (.outputTypes id op entry.types operand)
        else none
  | .save _ => none

namespace Graph

/-- What is wrong with one node: its number of types, then its operands, then the types. -/
def entryFlaw? (graph : Graph) (id : NodeId) (entry : Entry) : Option Flaw :=
  if entry.types.length ≠ entry.node.outputCount then
    some (.typeCount id entry.types.length entry.node.outputCount)
  else
    match (entry.node.readsAs id).find? fun read => graph.type? read.value = none with
    | some read => some (.missingOperand read.use read.value)
    | none => entry.typeFlaw? id (entry.node.operands.filterMap graph.type?)

/-- What is wrong with the index: the first value whose readers are not those found by looking at
all nodes, or else reads that it does not have. -/
def indexFlaw? (graph : Graph) : Option Flaw :=
  let expected := UseIndex.ofList graph.allReads
  if graph.uses = expected then none
  else
    match graph.uses.readers.toList.find? fun (value, uses) =>
        expected.readers[value]? ≠ some uses with
    | some (value, uses) => some (.staleUses value uses.toList)
    | none => some .missingUses

def flaw? (graph : Graph) : Option Flaw :=
  (graph.nodes.entries.findSome? fun (id, entry) => graph.entryFlaw? id entry).or
    graph.indexFlaw?

end Graph

namespace Edit

def verify : Edit Unit := do
  match ← ask Graph.flaw? with
  | none => return ()
  | some flaw => fail (.flawed flaw)

end Edit

end OpGraph
