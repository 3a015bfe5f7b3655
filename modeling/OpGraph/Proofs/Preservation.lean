import OpGraph.Proofs.Lowering.Resolution
import OpGraph.Proofs.Semantics

namespace OpGraph

/-! Passes keep what a graph computes.  The meaning of a value in the graph before is its meaning at
every graph on the way through a lowering pass, and so it is for all that the value may be replaced
by; this needs no order of the visits and no end of the pass.  Dead code elimination keeps the
meaning of all that it keeps. -/

namespace Interpretation

variable {D : Type u} {interpretation : Interpretation D} {id : NodeId}
  {lhs rhs result resultGrad : Value} {op : BinaryOp} {type : TensorType} {operands : Nat → D}
  {output : Nat}

theorem output_of_passesOn (passes : op.passesOn output) :
    interpretation.output id (.gradient lhs rhs result resultGrad op) type operands output =
      operands 3 := by
  unfold BinaryOp.passesOn at passes
  split at passes
  · rfl
  · rfl
  · rfl
  · cases passes

end Interpretation

namespace Graph

variable {D : Type u} {interpretation : Interpretation D} {before after : Graph}
  {ledger : Ledger} {change replaced : Value → Value} {visited : List NodeId} {id : NodeId}
  {source target value : Value} {d : D}

theorem evaluates_gradient? {expansion : Expansion} {op : BinaryOp} {output : Nat}
    {lhs rhs resultGrad : Value} {type : TensorType} {operands : Nat → D}
    (gradient : expansion.gradient? op output = some target)
    (created : ∀ new ∈ expansion.entries lhs rhs resultGrad type op,
      after.entry? new.1 = some new.2)
    (lhsEvaluates : after.Evaluates interpretation lhs (operands 0))
    (rhsEvaluates : after.Evaluates interpretation rhs (operands 1))
    (resultGradEvaluates : after.Evaluates interpretation resultGrad (operands 3)) :
    after.Evaluates interpretation target (interpretation.chainRule op type operands output) := by
  unfold Expansion.gradient? at gradient
  split at gradient <;> cases gradient <;>
    simp only [Expansion.entries, List.mem_cons, List.not_mem_nil, or_false, forall_eq_or_imp,
      forall_eq] at created
  · exact .arithmetic created.1 rhsEvaluates resultGradEvaluates
  · exact .arithmetic created.2 lhsEvaluates resultGradEvaluates
  · exact .arithmetic created.2 (.splat created.1) resultGradEvaluates

theorem Expanded.evaluates_created {entry : Entry} {type : TensorType} {operands : Nat → D}
    (sound : before.WellFormed) (expanded : before.Expanded ledger change after)
    (found : before.entry? source.node = some entry)
    (typed : entry.types[source.output]? = some type)
    (created : before.created? ledger source = some target)
    (evaluates : ∀ operand value, entry.node.operands[operand]? = some value →
      after.Evaluates interpretation (change value) (operands operand)) :
    after.Evaluates interpretation target
      (interpretation.output source.node entry.node type operands source.output) := by
  obtain ⟨lhs, rhs, result, resultGrad, op, expansion, isGradient, listed, gradient⟩ :=
    created?_eq_some_iff.mp created
  obtain ⟨_, stored, isNode⟩ := node?_eq_some_iff.mp isGradient
  cases found.symm.trans stored
  obtain ⟨nodeType, types, _, _, _, resultGradType⟩ :=
    (sound.entries found).gradient_types isNode
  have sameType : type = nodeType := by
    have member := List.mem_of_getElem? typed
    rw [types] at member
    simpa using member
  rw [isNode] at evaluates
  rw [isNode, sameType]
  exact evaluates_gradient? gradient (expanded.created listed isGradient resultGradType)
    (evaluates 0 lhs rfl) (evaluates 1 rhs rfl) (evaluates 3 resultGrad rfl)

/-- What a value means before, everything means that its readers may be made to read instead.  The
induction is on that meaning and for every such target, since an operand may be replaced by anything
that a path leads to. -/
theorem Lowered.evaluates_of_follows (sound : before.WellFormed)
    (lowered : before.Lowered visited ledger replaced after)
    (evaluates : before.Evaluates interpretation source d)
    (path : Relation.ReflTransGen (before.Replaces ledger) source target) :
    after.Evaluates interpretation target d := by
  induction evaluates generalizing target with
  | @node id entry number type operands found typed _ ih =>
      have changed : ∀ operand value, entry.node.operands[operand]? = some value →
          after.Evaluates interpretation (replaced value) (operands operand) :=
        fun operand value reads => ih operand value reads (lowered.follows value)
      rcases path.cases_head with rfl | ⟨next, replaces, rest⟩
      · rw [← interpretation.output_mapOperands id entry.node type operands number replaced]
        refine .node (lowered.kept found) typed fun operand value reads => ?_
        rw [Entry.node_mapOperands, Node.operands_mapOperands, List.getElem?_map] at reads
        obtain ⟨origin, originReads, rfl⟩ := Option.map_eq_some_iff.mp reads
        exact changed operand origin originReads
      · rcases replaces with forwarded | created
        · obtain ⟨lhs, rhs, result, op, isGradient, passes⟩ := forward?_eq_some_iff.mp forwarded
          obtain ⟨_, stored, isNode⟩ := node?_eq_some_iff.mp isGradient
          cases found.symm.trans stored
          rw [isNode, Interpretation.output_of_passesOn passes]
          exact ih 3 next (by rw [isNode]; rfl) rest
        · have absent := lowered.not_contains created
          obtain rfl := eq_of_follows_absent absent rest
          exact lowered.evaluates_created sound found typed created changed

theorem Lowered.evaluates (sound : before.WellFormed)
    (lowered : before.Lowered visited ledger replaced after)
    (evaluates : before.Evaluates interpretation value d) :
    after.Evaluates interpretation value d :=
  lowered.evaluates_of_follows sound evaluates .refl

theorem Pruned.evaluates (pruned : before.Pruned after)
    (evaluates : before.Evaluates interpretation value d) (kept : after.contains value.node) :
    after.Evaluates interpretation value d := by
  induction evaluates with
  | @node id entry number type operands found typed _ ih =>
      obtain ⟨same, stored⟩ := Option.isSome_iff_exists.mp kept
      change after.entry? id = some same at stored
      cases found.symm.trans (pruned.kept stored)
      exact .node stored typed fun operand value reads => ih operand value reads
        (pruned.wellFormed.contains_operand stored (List.mem_of_getElem? reads))

def IsSave (graph : Graph) (id : NodeId) : Prop :=
  ∃ operand, graph.node? id = some (.save operand)

def Stores (interpretation : Interpretation D) (graph : Graph) (id : NodeId) (d : D) : Prop :=
  ∃ operand, graph.node? id = some (.save operand) ∧ graph.Evaluates interpretation operand d

/-- Both describe exactly one thing, the same. -/
def SameMeaning (first second : D → Prop) : Prop :=
  ∃ d, (∀ other, first other ↔ other = d) ∧ ∀ other, second other ↔ other = d

structure SameSaves (interpretation : Interpretation D) (before after : Graph) : Prop where
  saves : ∀ id, after.IsSave id ↔ before.IsSave id
  stored : ∀ id, before.IsSave id →
    SameMeaning (before.Stores interpretation id) (after.Stores interpretation id)

theorem Stores.unique {graph : Graph} {other : D} (first : graph.Stores interpretation id d)
    (second : graph.Stores interpretation id other) : d = other := by
  obtain ⟨operand, found, evaluates⟩ := first
  obtain ⟨_, same, otherEvaluates⟩ := second
  cases found.symm.trans same
  exact evaluates.unique otherEvaluates

theorem SameMeaning.of_unique {first second : D → Prop} (firstHolds : first d)
    (secondHolds : second d) (firstUnique : ∀ other, first other → other = d)
    (secondUnique : ∀ other, second other → other = d) : SameMeaning first second :=
  ⟨d, fun other => ⟨firstUnique other, fun same => same ▸ firstHolds⟩,
    fun other => ⟨secondUnique other, fun same => same ▸ secondHolds⟩⟩

theorem SameSaves.of_stores (sound : before.WellFormed) (acyclic : before.Acyclic)
    (saves : ∀ id, after.IsSave id ↔ before.IsSave id)
    (kept : ∀ id d, before.Stores interpretation id d → after.Stores interpretation id d) :
    SameSaves interpretation before after where
  saves := saves
  stored := by
    intro id isSave
    obtain ⟨operand, found⟩ := isSave
    obtain ⟨entry, stored, isNode⟩ := node?_eq_some_iff.mp found
    have member : operand ∈ entry.node.operands := by simp [isNode, Node.operands]
    obtain ⟨type, typed⟩ := sound.type?_exists stored member
    obtain ⟨d, evaluates⟩ := sound.exists_evaluates acyclic interpretation typed
    have first : before.Stores interpretation id d := ⟨operand, found, evaluates⟩
    have second := kept id d first
    exact .of_unique first second (fun _ other => other.unique first)
      fun _ other => other.unique second

theorem Expanded.isSave_iff (wellFormed : before.WellFormed)
    (expanded : before.Expanded ledger change after) : after.IsSave id ↔ before.IsSave id := by
  constructor
  · intro isSave
    obtain ⟨operand, found⟩ := isSave
    obtain ⟨entry, stored, isNode⟩ := node?_eq_some_iff.mp found
    rcases expanded.entry?_cases wellFormed stored with ⟨old, oldStored, rfl⟩ |
      ⟨_, _, _, _, _, _, _, _, _, _, _, created⟩
    · obtain ⟨oldOperand, oldNode⟩ := Node.mapOperands_eq_save isNode
      exact ⟨oldOperand, node?_eq_some_iff.mpr ⟨old, oldStored, oldNode⟩⟩
    · have isRoot := (Expansion.kind_of_entries created).2
      rw [isNode] at isRoot
      cases isRoot
  · intro isSave
    obtain ⟨operand, found⟩ := isSave
    obtain ⟨entry, stored, isNode⟩ := node?_eq_some_iff.mp found
    exact ⟨change operand, node?_eq_some_iff.mpr
      ⟨_, expanded.kept stored, by rw [Entry.node_mapOperands, isNode]; rfl⟩⟩

theorem Lowered.stores (sound : before.WellFormed)
    (lowered : before.Lowered visited ledger replaced after)
    (stores : before.Stores interpretation id d) : after.Stores interpretation id d := by
  obtain ⟨operand, found, evaluates⟩ := stores
  exact ⟨replaced operand, lowered.node? found,
    lowered.evaluates_of_follows sound evaluates (lowered.follows operand)⟩

theorem Pruned.node?_of_isRoot {node : Node} (pruned : before.Pruned after)
    (found : before.node? id = some node) (isRoot : node.isRoot) : after.node? id = some node := by
  obtain ⟨entry, stored, rfl⟩ := node?_eq_some_iff.mp found
  exact node?_eq_some_iff.mpr ⟨entry, pruned.roots stored isRoot, rfl⟩

theorem Pruned.isSave_iff (pruned : before.Pruned after) : after.IsSave id ↔ before.IsSave id := by
  constructor
  · intro isSave
    obtain ⟨operand, found⟩ := isSave
    obtain ⟨entry, stored, isNode⟩ := node?_eq_some_iff.mp found
    exact ⟨operand, node?_eq_some_iff.mpr ⟨entry, pruned.kept stored, isNode⟩⟩
  · intro isSave
    obtain ⟨operand, found⟩ := isSave
    exact ⟨operand, pruned.node?_of_isRoot found rfl⟩

theorem Pruned.stores (pruned : before.Pruned after)
    (stores : before.Stores interpretation id d) : after.Stores interpretation id d := by
  obtain ⟨operand, found, evaluates⟩ := stores
  have kept := pruned.node?_of_isRoot found rfl
  obtain ⟨entry, stored, isNode⟩ := node?_eq_some_iff.mp kept
  have member : operand ∈ entry.node.operands := by simp [isNode, Node.operands]
  exact ⟨operand, kept,
    pruned.evaluates evaluates (pruned.wellFormed.contains_operand stored member)⟩

theorem WellFormed.stopped_lower {graph : Graph} (sound : graph.WellFormed) (config : Config)
    (mode : CompilationMode) :
    graph.Stopped graph.topologicalOrder (Edit.lower config mode graph).graph := by
  refine Outcome.meets_always.mp ((Lowering.lower_meets sound config mode).mono ?_ ?_)
  · intro stats after arrived
    obtain ⟨ledger, replaced, passed⟩ := arrived
    exact ⟨ledger, replaced, passed.lowered⟩
  · exact fun _ after stopped => stopped

/-- A graph that dead code elimination may leave of one that lowering may leave. -/
def Optimized (before after : Graph) : Prop :=
  ∃ middle, before.Stopped before.topologicalOrder middle ∧ middle.Pruned after

theorem WellFormed.optimized_optimize {graph : Graph} (sound : graph.WellFormed) (config : Config)
    (mode : CompilationMode) : graph.Optimized (Edit.optimize config mode graph).graph := by
  refine Outcome.meets_always.mp
    (Edit.optimize_meets sound ((Lowering.lower_meets sound config mode).mono ?_ ?_))
  · intro stats middle arrived after pruned
    obtain ⟨ledger, replaced, passed⟩ := arrived
    exact ⟨middle, ⟨ledger, replaced, passed.lowered⟩, pruned⟩
  · intro reason middle stopped
    obtain ⟨ledger, replaced, lowered⟩ := stopped
    exact ⟨middle, ⟨ledger, replaced, lowered⟩, .refl lowered.wellFormed⟩

end Graph

open OpGraph.Graph

/-- The passes keep what an acyclic graph computes, for every meaning of the operators.  After
lowering, also after a pass that stopped on the way, all values mean what they meant; after dead
code elimination and after all passes together the same sinks store the same. -/
theorem Reachable.passes_keep_meaning {D : Type u} {graph : Graph} (reachable : Reachable graph)
    (acyclic : graph.Acyclic) (interpretation : Interpretation D) (config : Config)
    (mode : CompilationMode) (verbose : Bool) :
    (∀ value type, graph.type? value = some type →
        SameMeaning (graph.Evaluates interpretation value)
          ((Edit.lower config mode graph).graph.Evaluates interpretation value)) ∧
      SameSaves interpretation graph (Edit.prune verbose graph).graph ∧
      SameSaves interpretation graph (Edit.optimize config mode graph).graph := by
  have sound := reachable.wellFormed
  refine ⟨fun value type typed => ?_, ?_, ?_⟩
  · obtain ⟨ledger, replaced, lowered⟩ := sound.stopped_lower config mode
    obtain ⟨d, before⟩ := sound.exists_evaluates acyclic interpretation typed
    have after := lowered.evaluates sound before
    exact .of_unique before after (fun _ other => other.unique before)
      fun _ other => other.unique after
  · have pruned := Edit.pruned_prune sound verbose
    exact .of_stores sound acyclic (fun _ => pruned.isSave_iff) fun _ _ => pruned.stores
  · obtain ⟨middle, ⟨ledger, replaced, lowered⟩, pruned⟩ := sound.optimized_optimize config mode
    refine .of_stores sound acyclic (fun id => ?_) fun id d stores => ?_
    · rw [pruned.isSave_iff, lowered.isSave_iff sound]
    · exact pruned.stores (lowered.stores sound stores)

/-- The integers, where zero stands for all constants and for the gradients without a rule. -/
def Session.integers : Interpretation Int where
  binary
    | .add, lhs, rhs => lhs + rhs
    | .mul, lhs, rhs => lhs * rhs
    | .sub, lhs, rhs => lhs - rhs
    | .div, lhs, rhs => lhs / rhs
    | .max, lhs, rhs => max lhs rhs
    | .min, lhs, rhs => min lhs rhs
  splat _ _ := 0
  input id := id + 1
  gradient _ _ _ _ _ _ := 0

theorem Session.stopped_pass_keeps_meaning :
    let graph := Session.run .empty Session.chainedGradients
    graph.Acyclic ∧
      (Edit.lower Session.stopping .train graph).result = .error (.unsupportedMode 3 .div) ∧
        (∀ value type, graph.type? value = some type →
          SameMeaning (graph.Evaluates Session.integers value)
            ((Edit.lower Session.stopping .train graph).graph.Evaluates Session.integers value)) ∧
          SameSaves Session.integers graph (Edit.prune false graph).graph ∧
            SameSaves Session.integers graph
              (Edit.optimize Session.stopping .train graph).graph := by
  have acyclic : (Session.run .empty Session.chainedGradients).Acyclic :=
    acyclic_of_ascending (by decide +kernel)
  exact ⟨acyclic, by decide +kernel, Reachable.passes_keep_meaning
    (Session.reachable_run .empty Session.chainedGradients) acyclic Session.integers
    Session.stopping .train false⟩

end OpGraph
