import OpGraph.Node

namespace OpGraph

structure Stats where
  /-- Gradient nodes whose readers were given primitive operators instead. -/
  lowered : Nat
  /-- Gradient nodes that nothing read. -/
  dead : Nat
  /-- Gradient nodes that were left because their mode has no rule, in the order of the visits. -/
  unsupported : List NodeId
  /-- How many nodes the pass added. -/
  created : Nat
deriving DecidableEq

namespace Stats

def empty : Stats :=
  { lowered := 0, dead := 0, unsupported := [], created := 0 }

instance : Inhabited Stats := ⟨empty⟩

def text (stats : Stats) : String :=
  "LowerStats \x7b lowered: " ++ stats.lowered.repr ++ ", dead: " ++ stats.dead.repr ++
    ", unsupported: [" ++
    ", ".intercalate (stats.unsupported.map NodeId.partsText) ++
    "], created: " ++ stats.created.repr ++ " \x7d"

end Stats

end OpGraph
