import OpGraph.Session
import OpGraph.Proofs.Contracts
import OpGraph.Proofs.Pruning

namespace OpGraph

/-! Every graph that a session can lead to is well-formed, whatever failed on the way.  Edits are
made of edits that check what they need at the time, so a pass that stops in the middle leaves a
well-formed graph as well. -/

namespace Edit

/-- The invariant is kept, however the edit ends. -/
def Preserves (invariant : Graph → Prop) (edit : Edit α) : Prop :=
  ∀ graph, invariant graph → invariant (edit graph).graph

variable {invariant : Graph → Prop}

theorem Preserves.of_meets {edit : Edit α}
    (meets : ∀ graph, invariant graph →
      (edit graph).Meets (fun _ => invariant) (fun _ => invariant)) : Preserves invariant edit :=
  fun graph holds => Outcome.meets_always.mp (meets graph holds)

theorem Preserves.bind {first : Edit α} {second : α → Edit β}
    (firstKeeps : Preserves invariant first)
    (secondKeeps : ∀ answer, Preserves invariant (second answer)) :
    Preserves invariant (first >>= second) := by
  refine .of_meets fun graph holds => (meets_bind first second).mpr ?_
  have kept := firstKeeps graph holds
  unfold Outcome.Meets
  split
  · exact Outcome.meets_always.mpr (secondKeeps _ _ kept)
  · exact kept

theorem Preserves.pure (answer : α) : Preserves invariant (pure answer) := fun _ holds => holds

theorem Preserves.ask (question : Graph → α) : Preserves invariant (ask question) :=
  fun _ holds => holds

theorem Preserves.reportWhen (wanted : Bool) (event : Graph → Event) :
    Preserves invariant (reportWhen wanted event) := fun _ holds => holds

theorem Preserves.report (event : Graph → Event) : Preserves invariant (report event) :=
  fun _ holds => holds

theorem Preserves.fail (reason : GraphError) : Preserves invariant (fail reason : Edit α) :=
  fun _ holds => holds

theorem Preserves.orFail (reason : GraphError) (found : Option α) :
    Preserves invariant (orFail reason found) := by
  cases found with
  | none => exact .fail reason
  | some answer => exact .pure answer

theorem Preserves.when {edit : Edit Unit} (wanted : Bool) (keeps : Preserves invariant edit) :
    Preserves invariant (when wanted edit) := by
  unfold Edit.when
  split
  · exact keeps
  · exact .pure ()

theorem Preserves.map {edit : Edit α} (change : α → β) (keeps : Preserves invariant edit) :
    Preserves invariant (change <$> edit) := by
  rw [← bind_pure_comp]
  exact keeps.bind fun _ => .pure _

section

variable {graph : Graph}

theorem createInput_extends (name : String) (type : TensorType) :
    graph.ExtendedTo (createInput name type graph).graph := by
  refine Outcome.meets_always.mp ?_
  simp only [createInput, meets_bind, meets_insert, meets_pure]
  exact .insert ⟨rfl, by simp [Node.operands], rfl, by simp [Node.operands]⟩

theorem createZero_extends (name : String) (type : TensorType) :
    graph.ExtendedTo (createZero name type graph).graph := by
  refine Outcome.meets_always.mp ?_
  rw [meets_createZero]
  exact .insert Graph.WellFormed.sound_zero

theorem createSplat_extends (name : String) (value : Constant) (type : TensorType) :
    graph.ExtendedTo (createSplat name value type graph).graph := by
  refine Outcome.meets_always.mp ?_
  unfold createSplat
  split
  · next sameElement =>
      simp only [meets_bind, meets_insert, meets_pure]
      exact .insert ⟨rfl, by simp [Node.operands], ⟨sameElement, rfl⟩, by simp [Node.operands]⟩
  · exact .refl

theorem createArithmetic_extends (name : String) (lhs rhs : Value) (op : BinaryOp)
    (wellFormed : graph.WellFormed) :
    graph.ExtendedTo (createArithmetic name lhs rhs op graph).graph := by
  refine Outcome.meets_always.mp (createArithmetic_meets (fun type lhsType rhsType => ?_)
    fun _ => .refl)
  exact .insert (wellFormed.sound_arithmetic lhsType rhsType)

theorem createGradient_extends (name : String) (lhs rhs result resultGrad : Value)
    (op : BinaryOp) (wellFormed : graph.WellFormed) :
    graph.ExtendedTo (createGradient name lhs rhs result resultGrad op graph).graph := by
  refine Outcome.meets_always.mp ?_
  simp only [createGradient, meets_bind, meets_typeOf, meets_insert]
  refine ⟨fun type lhsType => requireTypes_meets (fun agreed => ?_) fun _ => .refl,
    fun _ => .refl⟩
  have typed : ∀ operand ∈ [lhs, rhs, result, resultGrad], graph.type? operand = some type := by
    simpa [lhsType] using agreed
  exact .insert ⟨rfl, fun operand member => ⟨type, typed operand member⟩, ⟨type, typed, by simp⟩,
    fun operand member => wellFormed.node_ne_nextIndex (typed operand member)⟩

theorem createSave_extends (name : String) (value : Value) (wellFormed : graph.WellFormed) :
    graph.ExtendedTo (createSave name value graph).graph := by
  refine Outcome.meets_always.mp ?_
  simp only [createSave, meets_bind, meets_typeOf, meets_insert]
  refine ⟨fun type typed => .insert ⟨rfl, ?_, trivial, ?_⟩, fun _ => .refl⟩
  · simp [Node.operands, typed]
  · simpa [Node.operands] using wellFormed.node_ne_nextIndex typed

end

theorem Preserves.of_extends {edit : Edit α}
    (extended : ∀ graph : Graph, graph.WellFormed → graph.ExtendedTo (edit graph).graph) :
    Preserves Graph.WellFormed edit :=
  fun graph wellFormed => (extended graph wellFormed).wellFormed wellFormed

theorem createZero_preserves (name : String) (type : TensorType) :
    Preserves Graph.WellFormed (createZero name type) :=
  .of_extends fun _ _ => createZero_extends name type

theorem createArithmetic_preserves (name : String) (lhs rhs : Value) (op : BinaryOp) :
    Preserves Graph.WellFormed (createArithmetic name lhs rhs op) :=
  .of_extends fun _ => createArithmetic_extends name lhs rhs op

theorem replaceUses_preserves (source target : Value) :
    Preserves Graph.WellFormed (replaceUses source target) :=
  .of_meets fun _ wellFormed => replaceUses_meets wellFormed
    (fun _ rewired => rewired.wellFormed) fun _ => wellFormed

theorem remove_preserves (id : NodeId) : Preserves Graph.WellFormed (remove id) :=
  .of_meets fun _ wellFormed => remove_meets (fun _ unused => wellFormed.erase unused)
    fun _ => wellFormed

/-- An invariant that the edits keep of which the lowering rules are made. -/
structure KeptByRules (invariant : Graph → Prop) : Prop where
  zero : ∀ name type, Preserves invariant (createZero name type)
  arithmetic : ∀ name lhs rhs op, Preserves invariant (createArithmetic name lhs rhs op)
  redirection : ∀ source target, Preserves invariant (replaceUses source target)

theorem leave_preserves (policy : UnsupportedPolicy) (id : NodeId) (op : BinaryOp) :
    Preserves invariant (Lowering.leave policy id op) := by
  cases policy with
  | warn => exact (Preserves.report _).bind fun _ => .pure _
  | error => exact .fail _
  | ignore => exact .pure _

namespace KeptByRules

theorem addRule (kept : KeptByRules invariant) (id : NodeId) (resultGrad : Value) :
    Preserves invariant (Lowering.addRule id resultGrad) :=
  (kept.redirection _ _).bind fun _ => kept.redirection _ _

theorem mulRule (kept : KeptByRules invariant) (id : NodeId) (lhs rhs resultGrad : Value) :
    Preserves invariant (Lowering.mulRule id lhs rhs resultGrad) :=
  (kept.arithmetic _ _ _ _).bind fun _ => (kept.arithmetic _ _ _ _).bind fun _ =>
    (kept.redirection _ _).bind fun _ => kept.redirection _ _

theorem subRule (kept : KeptByRules invariant) (id : NodeId) (resultGrad : Value) :
    Preserves invariant (Lowering.subRule id resultGrad) :=
  (kept.redirection _ _).bind fun _ => (Preserves.ask _).bind fun _ =>
    (Preserves.orFail _ _).bind fun _ => (kept.zero _ _).bind fun _ =>
      (kept.arithmetic _ _ _ _).bind fun _ => kept.redirection _ _

theorem rule {id : NodeId} {lhs rhs resultGrad : Value} {op : BinaryOp} {rule : Edit Unit}
    (kept : KeptByRules invariant) (found : Lowering.rule? id lhs rhs resultGrad op = some rule) :
    Preserves invariant rule := by
  cases op <;> cases found
  · exact kept.addRule id resultGrad
  · exact kept.mulRule id lhs rhs resultGrad
  · exact kept.subRule id resultGrad

theorem visitGradient (kept : KeptByRules invariant) (config : Config) (id : NodeId)
    (lhs rhs resultGrad : Value) (op : BinaryOp) :
    Preserves invariant (Lowering.visitGradient config id lhs rhs resultGrad op) := by
  refine (Preserves.ask _).bind fun lhsUses => (Preserves.ask _).bind fun rhsUses => ?_
  split
  · exact .pure _
  · split
    · exact leave_preserves _ _ _
    · next rule found =>
        exact (kept.rule found).bind fun _ => (Preserves.reportWhen _ _).bind fun _ => .pure _

theorem visit (kept : KeptByRules invariant) (config : Config) (id : NodeId) :
    Preserves invariant (Lowering.visit config id) := by
  refine (Preserves.ask _).bind fun node => ?_
  split
  · exact kept.visitGradient _ _ _ _ _ _
  · exact .pure _
  · exact .fail _

theorem visitAll (kept : KeptByRules invariant) (config : Config) (order : List NodeId) :
    Preserves invariant (Lowering.visitAll config order) := by
  induction order with
  | nil => exact .pure _
  | cons id rest ih =>
      exact (kept.visit config id).bind fun _ => ih.bind fun _ => .pure _

theorem lower (kept : KeptByRules invariant) (config : Config) (mode : CompilationMode) :
    Preserves invariant (lower config mode) :=
  (Preserves.reportWhen _ _).bind fun _ => (Preserves.ask _).bind fun _ =>
    (Preserves.ask _).bind fun order => (kept.visitAll config order.reverse).bind fun _ =>
      (Preserves.ask _).bind fun _ => (Preserves.reportWhen _ _).bind fun _ => .pure _

end KeptByRules

theorem wellFormed_kept : KeptByRules Graph.WellFormed :=
  ⟨createZero_preserves, createArithmetic_preserves, replaceUses_preserves⟩

theorem lower_preserves (config : Config) (mode : CompilationMode) :
    Preserves Graph.WellFormed (lower config mode) :=
  wellFormed_kept.lower config mode

theorem prune_preserves (verbose : Bool) : Preserves Graph.WellFormed (prune verbose) :=
  fun _ wellFormed => (pruned_prune wellFormed verbose).wellFormed

theorem verify_preserves : Preserves Graph.WellFormed verify := by
  refine (Preserves.ask _).bind fun flaw => ?_
  split
  · exact .pure _
  · exact .fail _

theorem pruneReporting_preserves (verbose : Bool) :
    Preserves Graph.WellFormed (pruneReporting verbose) :=
  (prune_preserves verbose).bind fun _ => .reportWhen _ _

theorem optimize_preserves (config : Config) (mode : CompilationMode) :
    Preserves Graph.WellFormed (optimize config mode) :=
  (Preserves.reportWhen _ _).bind fun _ => (lower_preserves config mode).bind fun _ =>
    ((pruneReporting_preserves _).when _).bind fun _ =>
      (Preserves.reportWhen _ _).bind fun _ => (verify_preserves.when _).bind fun _ => .pure _

theorem meets_optimize {graph : Graph} {config : Config} {mode : CompilationMode}
    {done : Stats → Graph → Prop} {failed : GraphError → Graph → Prop}
    (sound : graph.WellFormed) :
    (optimize config mode graph).Meets done failed ↔
      (lower config mode graph).Meets
        (fun stats middle => done stats (if config.prune then middle.swept else middle))
        failed := by
  have formed := lower_preserves config mode graph sound
  have verified : ∀ {after : Graph} {done : Unit → Graph → Prop}, after.WellFormed →
      ((when config.verify verify after).Meets done failed ↔ done () after) := by
    intro after done afterFormed
    rw [meets_when, afterFormed.verify_ok]
    split <;> rfl
  simp only [optimize, meets_bind, meets_reportWhen, meets_pure]
  refine Outcome.meets_congr fun stats _ => ?_
  rw [meets_when]
  split
  · simp only [pruneReporting, meets_bind, meets_prune, meets_reportWhen]
    exact verified (pruned_prune formed false).wellFormed
  · exact verified formed

theorem result_optimize {graph : Graph} (sound : graph.WellFormed) (config : Config)
    (mode : CompilationMode) :
    (optimize config mode graph).result = (lower config mode graph).result := by
  have same : (optimize config mode graph).Meets
      (fun stats _ => (lower config mode graph).result = .ok stats)
      (fun reason _ => (lower config mode graph).result = .error reason) :=
    (meets_optimize sound).mpr (Outcome.meets_iff.mpr ⟨fun _ ended => ended, fun _ ended => ended⟩)
  cases ended : (optimize config mode graph).result with
  | ok stats => exact (same.of_ok ended).symm
  | error reason => exact (same.of_error ended).symm

/-- After lowering, all passes together only take nodes away, and they fail only where lowering
does. -/
theorem optimize_meets {graph : Graph} {config : Config} {mode : CompilationMode}
    {done : Stats → Graph → Prop} {failed : GraphError → Graph → Prop} (sound : graph.WellFormed)
    (lowered : (lower config mode graph).Meets
      (fun stats middle => ∀ after, middle.Pruned after → done stats after) failed) :
    (optimize config mode graph).Meets done failed := by
  have formed := lower_preserves config mode graph sound
  refine (meets_optimize sound).mpr (Outcome.meets_iff.mpr ⟨fun stats ended => ?_, fun reason =>
    lowered.of_error⟩)
  have finished := lowered.of_ok ended
  split
  · exact finished _ (pruned_prune formed false)
  · exact finished _ (.refl formed)

end Edit

theorem Command.edit_preserves (command : Command) :
    Edit.Preserves Graph.WellFormed command.edit := by
  cases command with
  | createInput name type =>
      exact (Edit.Preserves.of_extends fun _ _ => Edit.createInput_extends name type).map _
  | createSplat name value type =>
      exact (Edit.Preserves.of_extends fun _ _ => Edit.createSplat_extends name value type).map _
  | createZero name type => exact (Edit.createZero_preserves name type).map _
  | createArithmetic name lhs rhs op =>
      exact (Edit.createArithmetic_preserves name lhs rhs op).map _
  | createGradient name lhs rhs result resultGrad op =>
      exact (Edit.Preserves.of_extends fun _ =>
        Edit.createGradient_extends name lhs rhs result resultGrad op).map _
  | createSave name value =>
      exact (Edit.Preserves.of_extends fun _ => Edit.createSave_extends name value).map _
  | replaceUses source target => exact (Edit.replaceUses_preserves source target).map _
  | remove id => exact (Edit.remove_preserves id).map _
  | verify => exact Edit.verify_preserves.map _
  | lower config mode => exact (Edit.lower_preserves config mode).map _
  | prune => exact (Edit.prune_preserves false).map _
  | optimize config mode => exact (Edit.optimize_preserves config mode).map _

namespace Reachable

theorem wellFormed {graph : Graph} (reachable : Reachable graph) : graph.WellFormed := by
  induction reachable with
  | empty => exact .empty
  | step command _ ih => exact command.edit_preserves _ ih

/-- Every reachable graph is well-formed, its index is the one that a scan of all nodes builds, and
verification accepts it. -/
theorem wellFormed_and_verifies {graph : Graph} (reachable : Reachable graph) :
    graph.WellFormed ∧ graph.uses = UseIndex.ofList graph.allReads ∧
      Edit.verify graph = ⟨.ok (), graph, []⟩ :=
  ⟨reachable.wellFormed, reachable.wellFormed.uses_eq, reachable.wellFormed.verify_ok⟩

end Reachable

namespace Session

def run (graph : Graph) (commands : List Command) : Graph :=
  commands.foldl (fun graph command => (command.edit graph).graph) graph

theorem reachable_run {graph : Graph} (reachable : Reachable graph) (commands : List Command) :
    Reachable (run graph commands) := by
  induction commands generalizing graph with
  | nil => exact reachable
  | cons command rest ih => exact ih (.step command reachable)

/-- The type of scalars that the sample sessions work on. -/
def scalar : TensorType := ⟨.f32, []⟩

/-- Gradients of every kind that read each other: the product reads the sum, the sum reads the
difference, the difference reads the quotient.  One node is removed and its number given out again,
and the last creation is refused. -/
def chainedGradients : List Command :=
  [.createInput "x" scalar, .createInput "unused" scalar, .remove 1, .createInput "y" scalar,
    .createArithmetic "quotient" ⟨0, 0⟩ ⟨1, 0⟩ .div,
    .createGradient "quotient.grad" ⟨0, 0⟩ ⟨1, 0⟩ ⟨2, 0⟩ ⟨0, 0⟩ .div,
    .createArithmetic "difference" ⟨3, 0⟩ ⟨1, 0⟩ .sub,
    .createGradient "difference.grad" ⟨3, 0⟩ ⟨1, 0⟩ ⟨4, 0⟩ ⟨0, 0⟩ .sub,
    .createArithmetic "sum" ⟨5, 1⟩ ⟨1, 0⟩ .add,
    .createGradient "sum.grad" ⟨5, 1⟩ ⟨1, 0⟩ ⟨6, 0⟩ ⟨5, 0⟩ .add,
    .createArithmetic "product" ⟨7, 0⟩ ⟨7, 1⟩ .mul,
    .createGradient "product.grad" ⟨7, 0⟩ ⟨7, 1⟩ ⟨8, 0⟩ ⟨7, 1⟩ .mul,
    .createSave "stored" ⟨9, 0⟩, .createSave "kept" ⟨9, 1⟩, .createSave "refused" ⟨12, 0⟩]

/-- A product and its gradient that read each other. -/
def cyclicGradient : List Command :=
  [.createInput "x" scalar, .createInput "y" scalar, .createInput "z" scalar,
    .createArithmetic "product" ⟨2, 0⟩ ⟨1, 0⟩ .mul,
    .createGradient "product.grad" ⟨3, 0⟩ ⟨1, 0⟩ ⟨3, 0⟩ ⟨0, 0⟩ .mul, .replaceUses ⟨2, 0⟩ ⟨4, 0⟩]

/-- A configuration under which a pass stops at the quotient, the last gradient it visits. -/
def stopping : Config :=
  { Config.default with unsupported := .error }

end Session

/-- The graph that such a pass leaves, in which the other gradients are lowered already. -/
theorem Session.stopped_wellFormed_and_verifies :
    let graph := Session.run .empty (Session.chainedGradients ++ [.lower Session.stopping .train])
    Reachable graph ∧ graph.size = 16 ∧ graph.WellFormed ∧
      graph.uses = UseIndex.ofList graph.allReads ∧ Edit.verify graph = ⟨.ok (), graph, []⟩ := by
  have reachable := Session.reachable_run .empty
    (Session.chainedGradients ++ [.lower Session.stopping .train])
  exact ⟨reachable, by decide +kernel, Reachable.wellFormed_and_verifies reachable⟩

end OpGraph
