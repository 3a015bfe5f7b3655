import OpGraph.Graph.Edit
import OpGraph.Graph.Create

namespace OpGraph

namespace Graph

def setOperand (target : Value) (nodes : Store Entry) (use : Use) : Except Fault (Store Entry) :=
  match nodes.get? use.user with
  | none => .error (.emptySlot use.user)
  | some entry =>
      match entry.node.setOperand? target use.operand with
      | none => .error (.missingOperand use target)
      | some node => .ok (nodes.replace use.user { entry with node := node })

def redirect (graph : Graph) (source target : Value) : Except Fault Graph := do
  let nodes ← (graph.users source).foldlM (setOperand target) graph.nodes
  return { nodes := nodes, uses := graph.uses.redirect source target }

def erase (graph : Graph) (id : NodeId) : Graph :=
  match graph.node? id with
  | none => graph
  | some node => { nodes := graph.nodes.erase id, uses := graph.uses.eraseAll (node.readsAs id) }

end Graph

namespace Edit

/-- Makes every operand that reads `source` read `target` instead.  Both must exist and have one
type, and the node of `target` must not itself read `source`.  Nothing happens when the two are
the same value or when nothing reads `source`. -/
def replaceUses (source target : Value) : Edit Unit := do
  let sourceType ← typeOf source
  let targetType ← typeOf target
  if sourceType ≠ targetType then
    fail (.replacementTypes source sourceType target targetType)
  else if source = target then
    return ()
  else
    let users ← ask (·.users source)
    if users.any (·.user = target.node) then
      fail (.selfRead source target)
    else if ← ask (·.uses.contains source) then
      match ← ask (·.redirect source target) with
      | .error fault => fail (.broken fault)
      | .ok redirected =>
          change fun _ => redirected
          report fun _ => .usesReplaced users.length source target
    else
      return ()

def remove (id : NodeId) : Edit Node := do
  let node ← orFail (.missingNode id) (← ask (·.node? id))
  if ← ask (·.hasUses id) then
    fail (.stillUsed id)
  else
    change (·.erase id)
    return node

end Edit

end OpGraph
