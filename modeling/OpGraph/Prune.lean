import OpGraph.Graph.Rewire

namespace OpGraph

/-! Dead code elimination: nodes that nothing reads are removed until only wanted ones are left.
Inputs and saves are always wanted. -/

/-- A sweep that is under way: the graph, the nodes to look at with the next one first, and the
nodes removed so far with the latest one first. -/
structure Sweep where
  graph : Graph
  pending : List NodeId
  removed : List (NodeId × Entry)
deriving DecidableEq

namespace Sweep

/-- The sweep that is to look at every node, the highest id first. -/
def start (graph : Graph) : Sweep :=
  ⟨graph, graph.ids.reverse, []⟩

/-- Looks at the next node; none when no node is left to look at.  The nodes that a removed node
read may have lost their last reader and are looked at again, the last operand first. -/
def step? (sweep : Sweep) : Option Sweep :=
  match sweep.pending with
  | [] => none
  | id :: rest =>
      match sweep.graph.entry? id with
      | none => some { sweep with pending := rest }
      | some entry =>
          if entry.node.isRoot ∨ sweep.graph.hasUses id then
            some { sweep with pending := rest }
          else
            some
              { graph := sweep.graph.erase id
                pending := (sweep.graph.sources id).reverse ++ rest
                removed := (id, entry) :: sweep.removed }

/-- A removal takes one node away and adds at most four to look at for the one that was looked at,
any other step takes one away; so this number always decreases. -/
def remaining (sweep : Sweep) : Nat :=
  4 * sweep.graph.nodes.live + sweep.pending.length

theorem remaining_step? {sweep next : Sweep} (stepped : sweep.step? = some next) :
    next.remaining < sweep.remaining := by
  unfold step? at stepped
  split at stepped
  · contradiction
  · next id rest pending =>
      split at stepped
      · obtain rfl := Option.some.inj stepped
        simp [remaining, pending]
      · next entry found =>
          split at stepped
          · obtain rfl := Option.some.inj stepped
            simp [remaining, pending]
          · obtain rfl := Option.some.inj stepped
            have stored : sweep.graph.nodes.contains id := congrArg Option.isSome found
            have node : sweep.graph.node? id = some entry.node := by
              simp [Graph.node?, found]
            have fewer := Store.live_erase stored
            have operands := sweep.graph.length_sources_le id
            simp only [remaining, pending, Graph.erase, node, List.length_append,
              List.length_reverse, List.length_cons]
            omega

def finish (sweep : Sweep) : Sweep :=
  match _stepped : sweep.step? with
  | none => sweep
  | some next => finish next
termination_by sweep.remaining
decreasing_by exact remaining_step? _stepped

def events (sweep : Sweep) : List Event :=
  sweep.removed.reverse.map fun (id, entry) => .deadNodeRemoved id entry.name entry.node

end Sweep

namespace Edit

/-- Removes every node that neither is wanted nor has readers, and answers with their number. -/
def prune (verbose : Bool) : Edit Nat := fun graph =>
  let swept := (Sweep.start graph).finish
  ⟨.ok swept.removed.length, swept.graph, if verbose then swept.events else []⟩

end Edit

end OpGraph
