import OpGraph.Proofs.Likeness
import OpGraph.Proofs.Lockstep
import OpGraph.Proofs.Reachable

namespace OpGraph

/-! Free slots can not be seen.  Every edit does the same to graphs that differ in free slots only,
whether it succeeds or fails, and leaves graphs that differ in free slots only. -/

namespace Edit

open OpGraph.Graph

def Oblivious (edit : Edit α) : Prop :=
  InStep Alike edit edit

theorem typeOf_oblivious (value : Value) : Oblivious (typeOf value) := by
  apply InStep.bind
  · apply InStep.ask
    intro graph other alike
    rw [alike.type?_eq]
  · exact fun _ => .orFail _ _

theorem insert_oblivious (name : String) (node : Node) (types : List TensorType) :
    Oblivious (insert name node types) := by
  apply InStep.bind
  · exact .ask fun _ _ alike => alike.nodes.nextIndex_eq
  · intro id
    exact (InStep.change fun _ _ alike => alike.insert _).bind fun _ => .pure _

theorem createInput_oblivious (name : String) (type : TensorType) :
    Oblivious (createInput name type) :=
  (insert_oblivious _ _ _).bind fun _ => .pure _

theorem createSplat_oblivious (name : String) (value : Constant) (type : TensorType) :
    Oblivious (createSplat name value type) := by
  unfold createSplat
  split
  · exact (insert_oblivious _ _ _).bind fun _ => .pure _
  · exact .fail _

theorem createZero_oblivious (name : String) (type : TensorType) :
    Oblivious (createZero name type) :=
  (insert_oblivious _ _ _).bind fun _ => .pure _

theorem createArithmetic_oblivious (name : String) (lhs rhs : Value) (op : BinaryOp) :
    Oblivious (createArithmetic name lhs rhs op) := by
  apply (typeOf_oblivious lhs).bind
  intro lhsType
  apply (typeOf_oblivious rhs).bind
  intro rhsType
  split
  · exact (insert_oblivious _ _ _).bind fun _ => .pure _
  · exact .fail _

theorem requireTypes_oblivious (op : BinaryOp) (name : String) (type : TensorType)
    (operands : List Value) : Oblivious (requireTypes op name type operands) := by
  induction operands with
  | nil => exact .pure _
  | cons operand rest ih =>
      apply (typeOf_oblivious operand).bind
      intro operandType
      split
      · exact ih
      · exact .fail _

theorem createGradient_oblivious (name : String) (lhs rhs result resultGrad : Value)
    (op : BinaryOp) : Oblivious (createGradient name lhs rhs result resultGrad op) :=
  (typeOf_oblivious lhs).bind fun _ =>
    (requireTypes_oblivious _ _ _ _).bind fun _ => insert_oblivious _ _ _

theorem createSave_oblivious (name : String) (value : Value) :
    Oblivious (createSave name value) :=
  (typeOf_oblivious value).bind fun _ => insert_oblivious _ _ _

inductive SameFault (related : α → α → Prop) : Except Fault α → Except Fault α → Prop where
  | error (fault : Fault) : SameFault related (.error fault) (.error fault)
  | ok {first second : α} (relates : related first second) :
      SameFault related (.ok first) (.ok second)

theorem SameFault.bind {related : α → α → Prop} {relatedNext : β → β → Prop}
    {first second : Except Fault α} {next otherNext : α → Except Fault β}
    (firsts : SameFault related first second)
    (nexts : ∀ answer other, related answer other →
      SameFault relatedNext (next answer) (otherNext other)) :
    SameFault relatedNext (first >>= next) (second >>= otherNext) := by
  cases firsts with
  | error fault => exact .error fault
  | ok relates => exact nexts _ _ relates

theorem setOperand_alike {nodes other : Store Entry} (alike : nodes.Alike other) (target : Value)
    (use : Use) :
    SameFault Store.Alike (setOperand target nodes use) (setOperand target other use) := by
  unfold setOperand
  rw [alike.get?_eq]
  split
  · exact .error _
  · split
    · exact .error _
    · exact .ok (alike.replace _ _)

theorem foldlM_setOperand_alike {nodes other : Store Entry} (alike : nodes.Alike other)
    (target : Value) (uses : List Use) :
    SameFault Store.Alike (uses.foldlM (setOperand target) nodes)
      (uses.foldlM (setOperand target) other) := by
  induction uses generalizing nodes other with
  | nil => exact .ok alike
  | cons use rest ih =>
      rw [List.foldlM_cons, List.foldlM_cons]
      exact (setOperand_alike alike target use).bind fun _ _ relates => ih relates

theorem redirect_alike {graph other : Graph} (alike : graph.Alike other) (source target : Value) :
    SameFault Alike (graph.redirect source target) (other.redirect source target) := by
  unfold redirect
  rw [alike.users_eq, alike.uses]
  apply (foldlM_setOperand_alike alike.nodes target _).bind
  exact fun _ _ nodes => .ok ⟨nodes, rfl⟩

theorem replaceUses_oblivious (source target : Value) : Oblivious (replaceUses source target) := by
  apply (typeOf_oblivious source).bind
  intro sourceType
  apply (typeOf_oblivious target).bind
  intro targetType
  split
  · exact .fail _
  split
  · exact .pure _
  apply (InStep.ask fun _ _ alike => by rw [alike.users_eq]).bind
  intro users
  split
  · exact .fail _
  apply (InStep.ask fun _ _ alike => by rw [alike.uses]).bind
  intro used
  split
  · intro graph other alike
    have redirected := redirect_alike alike source target
    simp only [bind_apply, ask]
    generalize graph.redirect source target = first, other.redirect source target = second
      at redirected ⊢
    cases redirected with
    | error fault => exact ⟨rfl, alike⟩
    | ok relates => exact ⟨rfl, relates⟩
  · exact .pure _

theorem remove_oblivious (id : NodeId) : Oblivious (remove id) := by
  apply (InStep.ask fun _ _ alike => by rw [alike.node?_eq]).bind
  intro found
  apply (InStep.orFail _ found).bind
  intro node
  apply (InStep.ask fun _ _ alike => by rw [alike.hasUses_eq]).bind
  intro used
  split
  · exact .fail _
  · exact (InStep.change fun _ _ alike => alike.erase id).bind fun _ => .pure _

theorem verify_oblivious : Oblivious verify := by
  apply (InStep.ask fun _ _ alike => alike.flaw?_eq).bind
  intro flaw
  split
  · exact .pure _
  · exact .fail _

structure SweepsAlike (sweep other : Sweep) : Prop where
  graph : sweep.graph.Alike other.graph
  pending : sweep.pending = other.pending
  removed : sweep.removed = other.removed

theorem SweepsAlike.step? {sweep other : Sweep} (alike : SweepsAlike sweep other) :
    Option.Rel SweepsAlike sweep.step? other.step? := by
  obtain ⟨graphs, pending, removed⟩ := alike
  unfold Sweep.step?
  rw [pending, removed, graphs.sources_eq, graphs.entry?_eq, graphs.hasUses_eq]
  split
  · exact .none
  · split
    · exact .some ⟨graphs, rfl, rfl⟩
    · split
      · exact .some ⟨graphs, rfl, rfl⟩
      · exact .some ⟨graphs.erase _, rfl, rfl⟩

theorem SweepsAlike.finish {sweep other : Sweep} (alike : SweepsAlike sweep other) :
    SweepsAlike sweep.finish other.finish := by
  have steps := alike.step?
  fun_induction Sweep.finish sweep generalizing other with
  | case1 sweep ended =>
      rw [ended] at steps
      cases otherEnded : other.step? with
      | none => rwa [Sweep.finish_of_done otherEnded]
      | some next =>
          rw [otherEnded] at steps
          cases steps
  | case2 sweep next stepped ih =>
      rw [stepped] at steps
      cases otherStepped : other.step? with
      | none =>
          rw [otherStepped] at steps
          cases steps
      | some otherNext =>
          rw [otherStepped] at steps
          cases steps with
          | some relates =>
              rw [Sweep.finish_of_step? otherStepped]
              exact ih relates relates.step?

theorem prune_oblivious (verbose : Bool) : Oblivious (prune verbose) := by
  intro graph other alike
  have swept : SweepsAlike (Sweep.start graph).finish (Sweep.start other).finish := by
    apply SweepsAlike.finish
    exact ⟨alike, congrArg List.reverse alike.ids_eq, rfl⟩
  refine ⟨?_, swept.graph⟩
  simp only [prune, swept.removed]

end Edit

namespace Lowering

open Edit OpGraph.Graph

theorem rule_oblivious {id : NodeId} {lhs rhs resultGrad : Value} {op : BinaryOp}
    {rule : Edit Unit} (found : rule? id lhs rhs resultGrad op = some rule) : Oblivious rule := by
  cases op with
  | add =>
      cases found
      exact (replaceUses_oblivious _ _).bind fun _ => replaceUses_oblivious _ _
  | mul =>
      cases found
      exact (createArithmetic_oblivious _ _ _ _).bind fun _ =>
        (createArithmetic_oblivious _ _ _ _).bind fun _ =>
          (replaceUses_oblivious _ _).bind fun _ => replaceUses_oblivious _ _
  | sub =>
      cases found
      apply (replaceUses_oblivious _ _).bind
      intro _
      apply (InStep.ask fun _ _ alike => by rw [alike.type?_eq]).bind
      intro type
      exact (InStep.orFail _ type).bind fun _ => (createZero_oblivious _ _).bind fun _ =>
        (createArithmetic_oblivious _ _ _ _).bind fun _ => replaceUses_oblivious _ _
  | div | max | min => cases found

theorem leave_oblivious (policy : UnsupportedPolicy) (id : NodeId) (op : BinaryOp) :
    Oblivious (leave policy id op) := by
  cases policy with
  | warn => exact (InStep.reportWhen _ _ _ _).bind fun _ => .pure _
  | error => exact .fail _
  | ignore => exact .pure _

theorem visitGradient_oblivious (config : Config) (id : NodeId) (lhs rhs resultGrad : Value)
    (op : BinaryOp) : Oblivious (visitGradient config id lhs rhs resultGrad op) := by
  apply (InStep.ask fun _ _ alike => by rw [alike.useCount_eq]).bind
  intro lhsUses
  apply (InStep.ask fun _ _ alike => by rw [alike.useCount_eq]).bind
  intro rhsUses
  split
  · exact .pure _
  · split
    · exact leave_oblivious _ _ _
    · next rule found =>
        exact (rule_oblivious found).bind fun _ =>
          (InStep.reportWhen _ _ _ _).bind fun _ => .pure _

theorem visit_oblivious (config : Config) (id : NodeId) : Oblivious (visit config id) := by
  apply (InStep.ask fun _ _ alike => by rw [alike.node?_eq]).bind
  intro found
  split
  · exact visitGradient_oblivious _ _ _ _ _ _
  · exact .pure _
  · exact .fail _

theorem visitAll_oblivious (config : Config) (order : List NodeId) :
    Oblivious (visitAll config order) := by
  induction order with
  | nil => exact .pure _
  | cons id rest ih => exact (visit_oblivious config id).bind fun _ => ih.bind fun _ => .pure _

end Lowering

namespace Edit

open OpGraph.Graph

theorem lower_oblivious (config : Config) (mode : CompilationMode) :
    Oblivious (lower config mode) := by
  apply (InStep.reportWhen _ _ _ _).bind
  intro _
  apply (InStep.ask fun _ _ alike => alike.size_eq).bind
  intro before
  apply (InStep.ask fun _ _ alike => alike.topologicalOrder_eq).bind
  intro order
  apply (Lowering.visitAll_oblivious config order.reverse).bind
  intro stats
  apply (InStep.ask fun _ _ alike => alike.size_eq).bind
  exact fun _ => (InStep.reportWhen _ _ _ _).bind fun _ => .pure _

theorem optimize_oblivious (config : Config) (mode : CompilationMode) :
    Oblivious (optimize config mode) :=
  (InStep.reportWhen _ _ _ _).bind fun _ => (lower_oblivious config mode).bind fun _ =>
    (((prune_oblivious _).bind fun _ => InStep.reportWhen _ _ _ _).when _).bind fun _ =>
      (InStep.reportWhen _ _ _ _).bind fun _ => (verify_oblivious.when _).bind fun _ => .pure _

end Edit

theorem Command.edit_oblivious (command : Command) : Edit.Oblivious command.edit := by
  cases command with
  | createInput name type => exact (Edit.createInput_oblivious name type).map _
  | createSplat name value type => exact (Edit.createSplat_oblivious name value type).map _
  | createZero name type => exact (Edit.createZero_oblivious name type).map _
  | createArithmetic name lhs rhs op =>
      exact (Edit.createArithmetic_oblivious name lhs rhs op).map _
  | createGradient name lhs rhs result resultGrad op =>
      exact (Edit.createGradient_oblivious name lhs rhs result resultGrad op).map _
  | createSave name value => exact (Edit.createSave_oblivious name value).map _
  | replaceUses source target => exact (Edit.replaceUses_oblivious source target).map _
  | remove id => exact (Edit.remove_oblivious id).map _
  | verify => exact Edit.verify_oblivious.map _
  | lower config mode => exact (Edit.lower_oblivious config mode).map _
  | prune => exact (Edit.prune_oblivious false).map _
  | optimize config mode => exact (Edit.optimize_oblivious config mode).map _

/-- Something that is done with a graph or asked of it. -/
inductive Request where
  | edit (command : Command)
  | ask (query : Query)

namespace Request

def answer (graph : Graph) : Request → Except GraphError Answer
  | .edit command => (command.edit graph).result
  | .ask query => query.answer graph

def after (graph : Graph) : Request → Graph
  | .edit command => (command.edit graph).graph
  | .ask _ => graph

theorem inStep {graph other : Graph} (alike : graph.Alike other) (request : Request) :
    request.answer graph = request.answer other ∧
      (request.after graph).Alike (request.after other) := by
  cases request with
  | edit command =>
      obtain ⟨result, left⟩ := command.edit_oblivious alike
      exact ⟨result, left⟩
  | ask query => exact ⟨alike.answer_eq query, alike⟩

end Request

namespace Session

def answers (graph : Graph) : List Request → List (Except GraphError Answer)
  | [] => []
  | request :: rest => request.answer graph :: answers (request.after graph) rest

def after (graph : Graph) : List Request → Graph
  | [] => graph
  | request :: rest => after (request.after graph) rest

theorem inStep {graph other : Graph} (alike : graph.Alike other) (requests : List Request) :
    answers graph requests = answers other requests ∧
      (after graph requests).Alike (after other requests) := by
  induction requests generalizing graph other with
  | nil => exact ⟨rfl, alike⟩
  | cons request rest ih =>
      obtain ⟨sameAnswer, alikeAfter⟩ := request.inStep alike
      obtain ⟨sameAnswers, alikeFinally⟩ := ih alikeAfter
      refine ⟨?_, alikeFinally⟩
      rw [answers, answers, sameAnswer, sameAnswers]

end Session

/-- Graphs with the same nodes give the same answers in every session, also where it fails, and have
the same nodes after it.  Whether they are equal, freed slots included, does not matter. -/
theorem Reachable.free_slots_unobservable {graph other : Graph} (reachable : Reachable graph)
    (otherReachable : Reachable other) (agree : ∀ id, graph.entry? id = other.entry? id)
    (requests : List Request) :
    Session.answers graph requests = Session.answers other requests ∧
      ∀ id, Graph.entry? (Session.after graph requests) id =
        Graph.entry? (Session.after other requests) id := by
  have alike := reachable.wellFormed.alike otherReachable.wellFormed agree
  obtain ⟨sameAnswers, alikeFinally⟩ := Session.inStep alike requests
  exact ⟨sameAnswers, fun id => congrFun alikeFinally.entry?_eq id⟩

namespace Session

/-- Removing the latest node leaves a free slot behind. -/
def freedSlot : List Command :=
  [.createInput "x" scalar, .createInput "y" scalar, .remove 1]

def unusedSlot : List Command :=
  [.createInput "x" scalar]

/-- The next two nodes get the same ids in both graphs. -/
def nextNodes : List Request :=
  [.edit (.createSave "first" ⟨0, 0⟩), .edit (.createSave "second" ⟨0, 0⟩),
    .edit (.createSave "refused" ⟨3, 0⟩), .ask .ids, .edit (.optimize .default .train)]

theorem freed_unobservable :
    let graph := run .empty freedSlot
    let other := run .empty unusedSlot
    graph ≠ other ∧ (∀ id, graph.entry? id = other.entry? id) ∧
      answers graph nextNodes = answers other nextNodes ∧
        ∀ id, Graph.entry? (after graph nextNodes) id =
          Graph.entry? (after other nextNodes) id := by
  have agree : ∀ id,
      Graph.entry? (run .empty freedSlot) id = Graph.entry? (run .empty unusedSlot) id := by
    intro id
    rcases Nat.lt_or_ge id 2 with small | large
    · decide +revert +kernel
    · have slots : (run .empty freedSlot).nodes.slots.size = 2 := by decide +kernel
      have otherSlots : (run .empty unusedSlot).nodes.slots.size = 1 := by decide +kernel
      unfold Graph.entry?
      rw [Store.get?_of_size_le (by omega), Store.get?_of_size_le (by omega)]
  exact ⟨by decide +kernel, agree, Reachable.free_slots_unobservable
    (reachable_run .empty freedSlot) (reachable_run .empty unusedSlot) agree nextNodes⟩

end Session

end OpGraph
