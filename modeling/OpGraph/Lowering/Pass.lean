import OpGraph.Config.Basic
import OpGraph.Graph.Rewire
import OpGraph.Graph.Traversal

namespace OpGraph

/-! Lowering of gradient nodes into primitive arithmetic.

One pass visits the nodes that existed at its start, every node before the nodes that it reads.  The
readers of a gradient are made to read what the chain rule gives:

* of a sum, both gradients are the gradient of the result;
* of a product, each gradient is the other operand times the gradient of the result;
* of a difference, the left gradient is the gradient of the result and the right one its negation.

The gradient node itself stays, without readers. -/

inductive Visit where
  /-- The node is no gradient. -/
  | skipped
  /-- Nothing reads the gradients. -/
  | dead
  /-- The readers of the gradients were redirected. -/
  | lowered
  /-- The mode has no rule. -/
  | unsupported
deriving DecidableEq

namespace Stats

/-- The counts with one more visit in front. -/
def record (stats : Stats) (id : NodeId) : Visit → Stats
  | .skipped => stats
  | .dead => { stats with dead := stats.dead + 1 }
  | .lowered => { stats with lowered := stats.lowered + 1 }
  | .unsupported => { stats with unsupported := id :: stats.unsupported }

end Stats

namespace Lowering

open Edit

def addRule (id : NodeId) (resultGrad : Value) : Edit Unit := do
  replaceUses (.gradOfLhs id) resultGrad
  replaceUses (.gradOfRhs id) resultGrad

/-- Creates the two products and redirects both gradients. -/
def mulRule (id : NodeId) (lhs rhs resultGrad : Value) : Edit Unit := do
  let lhsGrad ← createArithmetic "mul.grad.lhs" rhs resultGrad .mul
  let rhsGrad ← createArithmetic "mul.grad.rhs" lhs resultGrad .mul
  replaceUses (.gradOfLhs id) lhsGrad
  replaceUses (.gradOfRhs id) rhsGrad

/-- Redirects the left gradient, then creates the negation and redirects the right one. -/
def subRule (id : NodeId) (resultGrad : Value) : Edit Unit := do
  replaceUses (.gradOfLhs id) resultGrad
  let type ← orFail (.missingResultGrad id resultGrad) (← ask (·.type? resultGrad))
  let zero ← createZero "zero" type
  let negation ← createArithmetic "sub" zero resultGrad .sub
  replaceUses (.gradOfRhs id) negation

/-- The rule for a gradient node, for the modes that have one. -/
def rule? (id : NodeId) (lhs rhs resultGrad : Value) : BinaryOp → Option (Edit Unit)
  | .add => some (addRule id resultGrad)
  | .mul => some (mulRule id lhs rhs resultGrad)
  | .sub => some (subRule id resultGrad)
  | .div | .max | .min => none

def leave (policy : UnsupportedPolicy) (id : NodeId) (op : BinaryOp) : Edit Visit :=
  match policy with
  | .error => fail (.unsupportedMode id op)
  | .warn => do
      report fun graph => .gradientLeft id ((graph.name? id).getD "") op
      return .unsupported
  | .ignore => return .unsupported

/-- Visits a gradient node: nothing is done for one that nobody reads, whatever its mode. -/
def visitGradient (config : Config) (id : NodeId) (lhs rhs resultGrad : Value) (op : BinaryOp) :
    Edit Visit := do
  let lhsUses ← ask (·.useCount (.gradOfLhs id))
  let rhsUses ← ask (·.useCount (.gradOfRhs id))
  if lhsUses = 0 ∧ rhsUses = 0 then
    return .dead
  else
    match rule? id lhs rhs resultGrad op with
    | none => leave config.unsupported id op
    | some rule =>
        rule
        reportWhen config.reportsLowering fun graph =>
          .gradientLowered op id ((graph.name? id).getD "")
        return .lowered

def visit (config : Config) (id : NodeId) : Edit Visit := do
  match ← ask (·.node? id) with
  | some (.gradient lhs rhs _ resultGrad op) => visitGradient config id lhs rhs resultGrad op
  | some _ => return .skipped
  | none => fail (.broken (.emptySlot id))

def visitAll (config : Config) : List NodeId → Edit Stats
  | [] => return .empty
  | id :: rest => do
      let visited ← visit config id
      let stats ← visitAll config rest
      return stats.record id visited

end Lowering

namespace Edit

/-- Runs one lowering pass.  The compilation mode is only reported. -/
def lower (config : Config) (mode : CompilationMode) : Edit Stats := do
  reportWhen config.reportsLowering fun graph => .loweringStarted graph.size mode
  let before ← ask Graph.size
  let order ← ask Graph.topologicalOrder
  let stats ← Lowering.visitAll config order.reverse
  let after ← ask Graph.size
  let stats := { stats with created := after - before }
  reportWhen config.reportsLowering fun _ => .loweringDone stats
  return stats

end Edit

end OpGraph
