import OpGraph.Graph.Verify
import OpGraph.Lowering.Pass
import OpGraph.Prune

namespace OpGraph

/-! The passes in their order: lowering, then dead code elimination, then verification. -/

namespace Edit

/-- Removes what nobody reads, and reports each removal and their number if that is wanted. -/
def pruneReporting (verbose : Bool) : Edit Unit := do
  let count ← prune verbose
  reportWhen verbose fun _ => .pruned count

/-- Lowers the graph, prunes it and verifies it, the latter two if the configuration asks for
them.  The answer is that of lowering. -/
def optimize (config : Config) (mode : CompilationMode) : Edit Stats := do
  reportWhen config.reportsGraph .graphBefore
  let stats ← lower config mode
  when config.prune (pruneReporting config.reportsPruning)
  reportWhen config.reportsGraph .graphAfter
  when config.verify verify
  return stats

end Edit

end OpGraph
