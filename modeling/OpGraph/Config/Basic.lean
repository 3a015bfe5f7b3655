namespace OpGraph

/-- What to do with a gradient node that has no lowering rule. -/
inductive UnsupportedPolicy where
  /-- Report it and leave it in the graph. -/
  | warn
  /-- Stop the pass. -/
  | error
  /-- Leave it in the graph. -/
  | ignore
deriving DecidableEq

structure Config where
  /-- Which details are reported, one bit each. -/
  debug : UInt32
  unsupported : UnsupportedPolicy
  /-- Whether unread nodes are removed after lowering. -/
  prune : Bool
  /-- Whether the graph is verified at the end. -/
  verify : Bool
deriving DecidableEq

namespace Config

def default : Config :=
  { debug := 0, unsupported := .warn, prune := true, verify := true }

instance : Inhabited Config := ⟨default⟩

/-- The first bit reports what lowering does. -/
def reportsLowering (config : Config) : Bool :=
  config.debug.toNat.testBit 0

/-- The second bit reports the graph before and after. -/
def reportsGraph (config : Config) : Bool :=
  config.debug.toNat.testBit 1

/-- The third bit reports what pruning removes. -/
def reportsPruning (config : Config) : Bool :=
  config.debug.toNat.testBit 2

end Config

end OpGraph
