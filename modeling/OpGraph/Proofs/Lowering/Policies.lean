import Mathlib.Data.List.Forall2
import OpGraph.Proofs.Lockstep
import OpGraph.Proofs.Lowering.Idempotence

namespace OpGraph

/-! What the policy for gradients without a rule changes in a pass.  Visits of all other nodes do
not look at it.  So a pass that reports such gradients does the same as one that keeps silent, and
one that must not meet them does the same up to the first of them. -/

def Outcome.warnings (outcome : Outcome α) : List Event :=
  outcome.events.filter fun event => event.level = .warn

/-- The report that a gradient node of this number was left. -/
def Graph.Warns (graph : Graph) (id : NodeId) (event : Event) : Prop :=
  ∃ name op, graph.name? id = some name ∧ graph.gradientOp? id = some op ∧
    event = .gradientLeft id name op

theorem Graph.Lowered.warns_before {before after : Graph} {visited : List NodeId}
    {ledger : Ledger} {replaced : Value → Value} {id : NodeId} {event : Event}
    (sound : before.WellFormed) (lowered : before.Lowered visited ledger replaced after)
    (warns : after.Warns id event) : before.Warns id event := by
  obtain ⟨name, op, named, isGradient, rfl⟩ := warns
  rw [lowered.gradientOp?_eq sound] at isGradient
  obtain ⟨_, _, _, _, found⟩ := exists_gradient isGradient
  obtain ⟨entry, stored, _⟩ := node?_eq_some_iff.mp found
  refine ⟨name, op, ?_, isGradient, rfl⟩
  simpa [name?, stored, lowered.kept stored] using named

namespace Edit

def Quiet (edit : Edit α) : Prop :=
  ∀ graph, (edit graph).warnings = []

theorem Quiet.bind {first : Edit α} {second : α → Edit β} (firstQuiet : Quiet first)
    (secondQuiet : ∀ answer, Quiet (second answer)) : Quiet (first >>= second) := by
  intro graph
  cases ended : (first graph).result with
  | error reason =>
      rw [bind_of_error ended]
      exact firstQuiet graph
  | ok answer =>
      have quiet := firstQuiet graph
      have quietNext := secondQuiet answer (first graph).graph
      rw [bind_of_ok ended]
      simp only [Outcome.warnings, List.filter_append] at quiet quietNext ⊢
      rw [quiet, quietNext, List.append_nil]

theorem Quiet.pure (answer : α) : Quiet (pure answer) := fun _ => rfl

theorem Quiet.ask (question : Graph → α) : Quiet (ask question) := fun _ => rfl

theorem Quiet.change (step : Graph → Graph) : Quiet (change step) := fun _ => rfl

theorem Quiet.fail (reason : GraphError) : Quiet (fail reason : Edit α) := fun _ => rfl

theorem Quiet.reportWhen {event : Graph → Event} (wanted : Bool)
    (minor : ∀ graph, (event graph).level ≠ .warn) : Quiet (reportWhen wanted event) := by
  intro graph
  cases wanted with
  | false => rfl
  | true => simp [Outcome.warnings, Edit.reportWhen, minor graph]

theorem Quiet.orFail (reason : GraphError) (found : Option α) : Quiet (orFail reason found) := by
  cases found with
  | none => exact .fail reason
  | some answer => exact .pure answer

theorem typeOf_quiet (value : Value) : Quiet (typeOf value) :=
  (Quiet.ask _).bind fun _ => .orFail _ _

theorem insert_quiet (name : String) (node : Node) (types : List TensorType) :
    Quiet (insert name node types) :=
  (Quiet.ask _).bind fun _ => (Quiet.change _).bind fun _ => .pure _

theorem createZero_quiet (name : String) (type : TensorType) : Quiet (createZero name type) :=
  (insert_quiet _ _ _).bind fun _ => .pure _

theorem createArithmetic_quiet (name : String) (lhs rhs : Value) (op : BinaryOp) :
    Quiet (createArithmetic name lhs rhs op) := by
  refine (typeOf_quiet lhs).bind fun lhsType => (typeOf_quiet rhs).bind fun rhsType => ?_
  split
  · exact (insert_quiet _ _ _).bind fun _ => .pure _
  · exact .fail _

theorem replaceUses_quiet (source target : Value) : Quiet (replaceUses source target) := by
  refine (typeOf_quiet source).bind fun sourceType =>
    (typeOf_quiet target).bind fun targetType => ?_
  split
  · exact .fail _
  split
  · exact .pure _
  apply (Quiet.ask _).bind
  intro users
  split
  · exact .fail _
  apply (Quiet.ask _).bind
  intro used
  split
  · apply (Quiet.ask _).bind
    intro redirected
    split
    · exact .fail _
    · exact (Quiet.change _).bind fun _ => .reportWhen _ fun _ => nofun
  · exact .pure _

end Edit

namespace Lowering

open Edit OpGraph.Graph

theorem rule_quiet {id : NodeId} {lhs rhs resultGrad : Value} {op : BinaryOp} {rule : Edit Unit}
    (found : rule? id lhs rhs resultGrad op = some rule) : Quiet rule := by
  cases op <;> cases found
  · exact (replaceUses_quiet _ _).bind fun _ => replaceUses_quiet _ _
  · exact (createArithmetic_quiet _ _ _ _).bind fun _ =>
      (createArithmetic_quiet _ _ _ _).bind fun _ =>
        (replaceUses_quiet _ _).bind fun _ => replaceUses_quiet _ _
  · exact (replaceUses_quiet _ _).bind fun _ => (Quiet.ask _).bind fun _ =>
      (Quiet.orFail _ _).bind fun _ => (createZero_quiet _ _).bind fun _ =>
        (createArithmetic_quiet _ _ _ _).bind fun _ => replaceUses_quiet _ _

variable {graph : Graph} {config : Config} {id : NodeId} {lhs rhs result resultGrad : Value}
  {op : BinaryOp}

/-- What a visit does that does not look at the policy. -/
structure Unconcerned (graph : Graph) (id : NodeId) : Prop where
  agree : ∀ first second, (visit first id graph).Matches Eq (visit second id graph)
  supported : ∀ config, (visit config id graph).result ≠ .ok .unsupported
  quiet : ∀ config, (visit config id graph).warnings = []

theorem Unconcerned.of_eq {outcome : Outcome Visit}
    (visits : ∀ config, visit config id graph = outcome)
    (supported : outcome.result ≠ .ok .unsupported) (quiet : outcome.warnings = []) :
    Unconcerned graph id := by
  constructor <;> intros <;> simp only [visits]
  · exact ⟨rfl, rfl⟩
  · exact supported
  · exact quiet

theorem Unconcerned.of_rule {rule : Edit Unit}
    (isGradient : graph.node? id = some (.gradient lhs rhs result resultGrad op))
    (read : ¬ (graph.useCount (.gradOfLhs id) = 0 ∧ graph.useCount (.gradOfRhs id) = 0))
    (found : rule? id lhs rhs resultGrad op = some rule) : Unconcerned graph id := by
  let reports (config : Config) : Edit Unit := reportWhen config.reportsLowering fun graph =>
    .gradientLowered op id ((graph.name? id).getD "")
  have visits : ∀ config, visit config id graph =
      (rule >>= fun _ => reports config >>= fun _ => pure Visit.lowered) graph := by
    intro config
    simp only [visit, visitGradient, bind_apply, ask, isGradient, if_neg read, found]
    rfl
  constructor <;> intros <;> simp only [visits]
  · exact ((InStep.refl rule).bind fun _ => (InStep.reportWhen _ _ _ _).bind fun _ => .pure _) rfl
  · rw [bind_apply]
    rcases rule graph with ⟨_ | _, _, _⟩ <;> intro same <;> cases same
  · have minor : ∀ config, Quiet (reports config) :=
      fun _ => .reportWhen _ fun _ => by simp [Event.level]
    exact ((rule_quiet found).bind fun _ => (minor _).bind fun _ => .pure _) graph

theorem visit_policy (graph : Graph) (id : NodeId) :
    Unconcerned graph id ∨ ∃ op, graph.gradientOp? id = some op ∧
      ∀ config, visit config id graph = leave config.unsupported id op graph := by
  have ends (visit : Visit) (different : visit ≠ .unsupported)
      (visits : ∀ config, Lowering.visit config id graph = ⟨.ok visit, graph, []⟩) :
      Unconcerned graph id :=
    .of_eq visits (fun same => different (Except.ok.inj same)) rfl
  cases found : graph.node? id with
  | none =>
      have visits : ∀ config, visit config id graph =
          ⟨.error (.broken (.emptySlot id)), graph, []⟩ := by
        intro config
        simp only [visit, bind_apply, ask, found, fail]
        rfl
      exact .inl (.of_eq visits (by simp) rfl)
  | some node =>
      cases node with
      | gradient lhs rhs result resultGrad op =>
          by_cases unread :
              graph.useCount (.gradOfLhs id) = 0 ∧ graph.useCount (.gradOfRhs id) = 0
          · refine .inl (ends .dead (by decide) fun config => ?_)
            simp only [visit, visitGradient, bind_apply, ask, found, if_pos unread]
            rfl
          · cases rule : rule? id lhs rhs resultGrad op with
            | some edit => exact .inl (.of_rule found unread rule)
            | none =>
                refine .inr ⟨op, gradientOp?_of_gradient found, fun config => ?_⟩
                simp only [visit, visitGradient, bind_apply, ask, found, if_neg unread, rule]
                rcases leave config.unsupported id op graph with ⟨_ | _, _, _⟩ <;> rfl
      | input | splat | arithmetic | save =>
          refine .inl (ends .skipped (by decide) fun config => ?_)
          simp only [visit, bind_apply, ask, found]
          rfl

theorem visitAll_cons_of_ok {visited : Visit} {rest : List NodeId}
    (ended : (visit config id graph).result = .ok visited) :
    visitAll config (id :: rest) graph =
      ⟨(visitAll config rest (visit config id graph).graph).result.map (·.record id visited),
        (visitAll config rest (visit config id graph).graph).graph,
        (visit config id graph).events ++
          (visitAll config rest (visit config id graph).graph).events⟩ := by
  rw [visitAll, bind_of_ok ended, bind_apply]
  rcases visitAll config rest (visit config id graph).graph with ⟨_ | _, _, _⟩ <;>
    simp [pure_apply, Except.map]

theorem visitAll_cons_of_error {reason : GraphError} {rest : List NodeId}
    (ended : (visit config id graph).result = .error reason) :
    visitAll config (id :: rest) graph =
      ⟨.error reason, (visit config id graph).graph, (visit config id graph).events⟩ := by
  rw [visitAll, bind_of_error ended]

theorem exists_of_visitAll_cons {rest : List NodeId} {stats : Stats}
    (completed : (visitAll config (id :: rest) graph).result = .ok stats) :
    ∃ visited counted, (visit config id graph).result = .ok visited ∧
      (visitAll config rest (visit config id graph).graph).result = .ok counted ∧
        stats = counted.record id visited := by
  cases ended : (visit config id graph).result with
  | error reason =>
      rw [visitAll_cons_of_error ended] at completed
      cases completed
  | ok visited =>
      rw [visitAll_cons_of_ok ended] at completed
      cases others : (visitAll config rest (visit config id graph).graph).result with
      | error reason =>
          rw [others] at completed
          cases completed
      | ok counted =>
          rw [others] at completed
          cases completed
          exact ⟨visited, counted, rfl, rfl, rfl⟩

def listed (id : NodeId) (visit : Visit) : List NodeId :=
  if visit = .unsupported then [id] else []

theorem unsupported_record (stats : Stats) (id : NodeId) (visit : Visit) :
    (stats.record id visit).unsupported = listed id visit ++ stats.unsupported := by
  cases visit <;> rfl

variable {first second strict tolerant : Config} {order : List NodeId} {stats : Stats}

theorem leave_of_tolerant {policy : UnsupportedPolicy} (tolerates : policy ≠ .error)
    (id : NodeId) (op : BinaryOp) (graph : Graph) :
    (leave policy id op graph).result = .ok .unsupported ∧
      (leave policy id op graph).graph = graph := by
  cases policy with
  | warn => exact ⟨rfl, rfl⟩
  | error => contradiction
  | ignore => exact ⟨rfl, rfl⟩

/-- Under both policies gradients without rule are treated the same, reports apart. -/
def Interchangeable (first second : UnsupportedPolicy) : Prop :=
  ∀ id op, InStep Eq (leave first id op) (leave second id op)

theorem Interchangeable.of_eq {first second : UnsupportedPolicy} (same : first = second) :
    Interchangeable first second :=
  fun id op => same ▸ InStep.refl (leave first id op)

theorem Interchangeable.of_tolerant {first second : UnsupportedPolicy}
    (firstTolerates : first ≠ .error) (secondTolerates : second ≠ .error) :
    Interchangeable first second := by
  rintro id op graph _ rfl
  obtain ⟨firstLeft, firstUnchanged⟩ := leave_of_tolerant firstTolerates id op graph
  obtain ⟨secondLeft, secondUnchanged⟩ := leave_of_tolerant secondTolerates id op graph
  exact ⟨firstLeft.trans secondLeft.symm, firstUnchanged.trans secondUnchanged.symm⟩

theorem Interchangeable.visit (alike : Interchangeable first.unsupported second.unsupported)
    (id : NodeId) : InStep Eq (visit first id) (visit second id) := by
  rintro graph _ rfl
  rcases visit_policy graph id with unconcerned | ⟨op, _, leaves⟩
  · exact unconcerned.agree first second
  · rw [leaves first, leaves second]
    exact alike id op rfl

theorem Interchangeable.visitAll (alike : Interchangeable first.unsupported second.unsupported)
    (order : List NodeId) : InStep Eq (visitAll first order) (visitAll second order) := by
  induction order with
  | nil => exact .pure _
  | cons id rest ih => exact (alike.visit id).bind fun _ => ih.bind fun _ => .pure _

theorem visitAll_inStep (firstTolerates : first.unsupported ≠ .error)
    (secondTolerates : second.unsupported ≠ .error) (order : List NodeId) :
    InStep Eq (visitAll first order) (visitAll second order) :=
  (Interchangeable.of_tolerant firstTolerates secondTolerates).visitAll order

/-- A run ends at a gradient node without rule, in the graph at which a tolerant one arrives when it
is to visit that node. -/
def EndsAt (tolerant : Config) (order : List NodeId) (graph : Graph) (id : NodeId)
    (outcome : Outcome Stats) : Prop :=
  ∃ done rest counted op, order = done ++ id :: rest ∧
    (visitAll tolerant done graph).result = .ok counted ∧
      (visitAll tolerant done graph).graph.gradientOp? id = some op ∧
        outcome.result = .error (.unsupportedMode id op) ∧
          outcome.graph = (visitAll tolerant done graph).graph

theorem EndsAt.cons {outcome : Outcome Stats} {visited : Visit} {other : NodeId}
    (ended : (visit tolerant other graph).result = .ok visited)
    (endsAt : EndsAt tolerant order (visit tolerant other graph).graph id outcome)
    (events : List Event) :
    EndsAt tolerant (other :: order) graph id
      ⟨outcome.result.map (·.record other visited), outcome.graph, events⟩ := by
  obtain ⟨done, rest, counted, op, rfl, completed, isGradient, result, left⟩ := endsAt
  refine ⟨other :: done, rest, counted.record other visited, op, rfl, ?_⟩
  rw [visitAll_cons_of_ok ended, completed, result]
  exact ⟨rfl, isGradient, rfl, left⟩

theorem EndsAt.gradientOp? {outcome : Outcome Stats} (sound : graph.WellFormed)
    (endsAt : EndsAt tolerant graph.topologicalOrder.reverse graph id outcome) :
    ∃ op, graph.gradientOp? id = some op ∧ outcome.result = .error (.unsupportedMode id op) := by
  obtain ⟨done, rest, counted, op, ordered, completed, isGradient, result, _⟩ := endsAt
  obtain ⟨_, ledger, replaced, passed⟩ :=
    (visitAll_prefix_meets sound ordered tolerant).of_ok completed
  rw [passed.lowered.gradientOp?_eq sound] at isGradient
  exact ⟨op, isGradient, result⟩

/-- Where a tolerant run succeeds, a strict one does the same up to the first gradient without rule
that the tolerant one lists. -/
theorem visitAll_strict (fails : strict.unsupported = .error)
    (tolerates : tolerant.unsupported ≠ .error)
    (completed : (visitAll tolerant order graph).result = .ok stats) :
    (stats.unsupported = [] →
        (visitAll strict order graph).Matches Eq (visitAll tolerant order graph)) ∧
      ∀ id later, stats.unsupported = id :: later →
        EndsAt tolerant order graph id (visitAll strict order graph) := by
  induction order generalizing graph stats with
  | nil =>
      cases completed
      exact ⟨fun _ => ⟨rfl, rfl⟩, nofun⟩
  | cons id rest ih =>
      obtain ⟨visited, counted, ended, others, rfl⟩ := exists_of_visitAll_cons completed
      obtain ⟨agrees, endsAt⟩ := ih others
      rw [unsupported_record]
      rcases visit_policy graph id with unconcerned | ⟨op, isGradient, leaves⟩
      · obtain ⟨sameResult, sameGraph⟩ := unconcerned.agree strict tolerant
        have different : visited ≠ .unsupported := fun same =>
          unconcerned.supported tolerant (same ▸ ended)
        rw [listed, if_neg different, List.nil_append, visitAll_cons_of_ok ended,
          visitAll_cons_of_ok (sameResult.trans ended), sameGraph]
        refine ⟨fun none => ?_, fun other later listed => ?_⟩
        · obtain ⟨restResult, restGraph⟩ := agrees none
          exact ⟨congrArg (Except.map _) restResult, restGraph⟩
        · exact (endsAt other later listed).cons ended _
      · obtain ⟨left, unchanged⟩ := leave_of_tolerant tolerates id op graph
        rw [leaves tolerant, left] at ended
        obtain rfl : Visit.unsupported = visited := Except.ok.inj ended
        have failed : (visit strict id graph).result = .error (.unsupportedMode id op) := by
          rw [leaves, fails]
          rfl
        have untouched : (visit strict id graph).graph = graph := by
          rw [leaves, fails]
          rfl
        refine ⟨nofun, fun other later listed => ?_⟩
        obtain ⟨rfl, rfl⟩ := List.cons.inj listed
        rw [visitAll_cons_of_error failed]
        exact ⟨[], rest, .empty, op, rfl, rfl, isGradient, rfl, untouched⟩

theorem visit_warns {visited : Visit} (warns : config.unsupported = .warn)
    (completed : (visit config id graph).result = .ok visited) :
    List.Forall₂ graph.Warns (listed id visited) (visit config id graph).warnings := by
  rcases visit_policy graph id with unconcerned | ⟨op, isGradient, leaves⟩
  · have different : visited ≠ .unsupported := fun same =>
      unconcerned.supported config (same ▸ completed)
    rw [unconcerned.quiet, listed, if_neg different]
    exact .nil
  · rw [leaves, warns] at completed ⊢
    obtain rfl : Visit.unsupported = visited := Except.ok.inj completed
    obtain ⟨_, _, _, _, found⟩ := exists_gradient isGradient
    obtain ⟨entry, stored, _⟩ := node?_eq_some_iff.mp found
    have named : graph.name? id = some entry.name := by simp [name?, stored]
    have warned : graph.Warns id (.gradientLeft id ((graph.name? id).getD "") op) :=
      ⟨entry.name, op, named, isGradient, by rw [named, Option.getD_some]⟩
    exact .cons warned .nil

theorem visitAll_warns (sound : graph.WellFormed)
    (warns : config.unsupported = .warn) (stored : ∀ id ∈ order, graph.contains id)
    (completed : (visitAll config order graph).result = .ok stats) :
    List.Forall₂ graph.Warns stats.unsupported (visitAll config order graph).warnings := by
  induction order generalizing graph stats with
  | nil =>
      cases completed
      exact .nil
  | cons id rest ih =>
      obtain ⟨visited, counted, ended, others, rfl⟩ := exists_of_visitAll_cons completed
      have run := visit_meets sound (.refl sound) List.not_mem_nil (stored id (by simp)) config
      obtain ⟨_, ledger, replaced, passed⟩ := run.of_ok ended
      have lowered := passed.lowered
      have kept : ∀ other ∈ rest, (visit config id graph).graph.contains other := by
        intro other member
        obtain ⟨entry, found⟩ := Option.isSome_iff_exists.mp (stored other (by simp [member]))
        exact Store.contains_of_get? (lowered.kept found)
      have later := (ih lowered.wellFormed kept others).imp fun _ _ => lowered.warns_before sound
      rw [unsupported_record, visitAll_cons_of_ok ended, Outcome.warnings, List.filter_append]
      exact List.rel_append (visit_warns warns ended) later

theorem visit_quiet (ignores : config.unsupported = .ignore) (id : NodeId) :
    Quiet (visit config id) := by
  intro graph
  rcases visit_policy graph id with unconcerned | ⟨op, _, leaves⟩
  · exact unconcerned.quiet config
  · rw [leaves, ignores]
    rfl

theorem visitAll_quiet (ignores : config.unsupported = .ignore) (order : List NodeId) :
    Quiet (visitAll config order) := by
  induction order with
  | nil => exact .pure _
  | cons id rest ih => exact (visit_quiet ignores id).bind fun _ => ih.bind fun _ => .pure _

end Lowering

namespace Edit

variable (config : Config) (mode : CompilationMode) (graph : Graph)

theorem lower_visits :
    let visits := Lowering.visitAll config graph.topologicalOrder.reverse graph
    (lower config mode graph).result =
        visits.result.map (fun stats => { stats with created := visits.graph.size - graph.size }) ∧
      (lower config mode graph).graph = visits.graph ∧
        (lower config mode graph).warnings = visits.warnings := by
  simp only [lower, bind_apply, ask, reportWhen]
  rcases Lowering.visitAll config graph.topologicalOrder.reverse graph with
    ⟨_ | stats, after, events⟩
  · cases config.reportsLowering <;> simp [Except.map, Outcome.warnings, Event.level]
  · cases config.reportsLowering <;>
      simp [Except.map, Outcome.warnings, Event.level, pure_apply]

variable {config mode graph}

theorem lower_completed {stats : Stats} (completed : (lower config mode graph).result = .ok stats) :
    ∃ counted, stats.unsupported = counted.unsupported ∧
      (Lowering.visitAll config graph.topologicalOrder.reverse graph).result = .ok counted := by
  rw [(lower_visits config mode graph).1] at completed
  cases visits : (Lowering.visitAll config graph.topologicalOrder.reverse graph).result with
  | error reason =>
      rw [visits] at completed
      cases completed
  | ok counted =>
      rw [visits] at completed
      cases completed
      exact ⟨counted, rfl, rfl⟩

theorem lower_matches {first second : Config} {other : CompilationMode}
    (visits : (Lowering.visitAll first graph.topologicalOrder.reverse graph).Matches Eq
      (Lowering.visitAll second graph.topologicalOrder.reverse graph)) :
    (lower first mode graph).Matches Eq (lower second other graph) := by
  obtain ⟨firstResult, firstGraph, _⟩ := lower_visits first mode graph
  obtain ⟨secondResult, secondGraph, _⟩ := lower_visits second other graph
  obtain ⟨sameResult, sameGraph⟩ := visits
  constructor
  · rw [firstResult, secondResult, sameResult, sameGraph]
  · rw [firstGraph, secondGraph, sameGraph]

theorem lower_endsAt {tolerant : Config} {order : List NodeId} {id : NodeId}
    (endsAt : Lowering.EndsAt tolerant order graph id
      (Lowering.visitAll config graph.topologicalOrder.reverse graph)) :
    Lowering.EndsAt tolerant order graph id (lower config mode graph) := by
  obtain ⟨done, rest, counted, op, ordered, completed, isGradient, failed, left⟩ := endsAt
  obtain ⟨result, unchanged, _⟩ := lower_visits config mode graph
  refine ⟨done, rest, counted, op, ordered, completed, isGradient, ?_, unchanged.trans left⟩
  rw [result, failed]
  rfl

end Edit

/-- The policies for gradients without a rule are one computation.  Whether they are reported or
ignored, the pass gives the same answer and graph; it warns of each of them once, in the order in
which it lists them, or of nothing.  Where they are errors, the pass does the same if it meets none,
and otherwise stops before it visits the first. -/
theorem Reachable.policies_agree {graph : Graph} (reachable : Reachable graph)
    {warning silent strict : Config} (warns : warning.unsupported = .warn)
    (ignores : silent.unsupported = .ignore) (fails : strict.unsupported = .error)
    (mode : CompilationMode) :
    (Edit.lower warning mode graph).Matches Eq (Edit.lower silent mode graph) ∧
      ∀ stats, (Edit.lower silent mode graph).result = .ok stats →
        List.Forall₂ graph.Warns stats.unsupported (Edit.lower warning mode graph).warnings ∧
          (Edit.lower silent mode graph).warnings = [] ∧
            (stats.unsupported = [] →
              (Edit.lower strict mode graph).Matches Eq (Edit.lower silent mode graph)) ∧
              ∀ id later, stats.unsupported = id :: later →
                Lowering.EndsAt silent graph.topologicalOrder.reverse graph id
                    (Edit.lower strict mode graph) ∧
                  ∃ op, graph.gradientOp? id = some op ∧
                    (Edit.lower strict mode graph).result = .error (.unsupportedMode id op) := by
  have sound := reachable.wellFormed
  have warningTolerates : warning.unsupported ≠ .error := by simp [warns]
  have silentTolerates : silent.unsupported ≠ .error := by simp [ignores]
  have sameVisits := Lowering.visitAll_inStep warningTolerates silentTolerates
    graph.topologicalOrder.reverse (rfl : graph = graph)
  refine ⟨Edit.lower_matches sameVisits, fun stats completed => ?_⟩
  obtain ⟨counted, sameList, visits⟩ := Edit.lower_completed completed
  obtain ⟨agrees, ends⟩ := Lowering.visitAll_strict fails silentTolerates visits
  rw [sameList]
  refine ⟨?_, ?_, fun none => Edit.lower_matches (agrees none), fun id later listed => ?_⟩
  · rw [(Edit.lower_visits warning mode graph).2.2]
    apply Lowering.visitAll_warns sound warns
    · intro id member
      exact graph.mem_topologicalOrder.mp (List.mem_reverse.mp member)
    · exact sameVisits.result.trans visits
  · rw [(Edit.lower_visits silent mode graph).2.2]
    exact Lowering.visitAll_quiet ignores _ graph
  · have endsAt : Lowering.EndsAt silent graph.topologicalOrder.reverse graph id
        (Edit.lower strict mode graph) := Edit.lower_endsAt (ends id later listed)
    exact ⟨endsAt, endsAt.gradientOp? sound⟩

namespace Session

/-- Gradients without a rule are passed over in silence. -/
def silent : Config :=
  { Config.default with unsupported := .ignore }

/-- The quotient is met after three gradients were lowered. -/
theorem chained_policies_agree :
    let graph := run .empty chainedGradients
    let order := graph.topologicalOrder.reverse
    Config.default.unsupported = .warn ∧ silent.unsupported = .ignore ∧
      stopping.unsupported = .error ∧ (Edit.lower silent .train graph).result = .ok ⟨3, 0, [3], 4⟩ ∧
        (Edit.lower .default .train graph).Matches Eq (Edit.lower silent .train graph) ∧
          List.Forall₂ graph.Warns [3] (Edit.lower .default .train graph).warnings ∧
            (Edit.lower silent .train graph).warnings = [] ∧
              Lowering.EndsAt silent order graph 3 (Edit.lower stopping .train graph) ∧
                graph.gradientOp? 3 = some .div ∧
                  (Edit.lower stopping .train graph).result = .error (.unsupportedMode 3 .div) := by
  have completed : (Edit.lower silent .train (run .empty chainedGradients)).result =
      .ok ⟨3, 0, [3], 4⟩ := by decide +kernel
  have isQuotient : (run .empty chainedGradients).gradientOp? 3 = some .div := by decide +kernel
  have warns : Config.default.unsupported = .warn := rfl
  have ignores : silent.unsupported = .ignore := rfl
  have fails : stopping.unsupported = .error := rfl
  obtain ⟨agree, ends⟩ := Reachable.policies_agree (reachable_run .empty chainedGradients)
    warns ignores fails .train
  obtain ⟨warned, quiet, _, stops⟩ := ends _ completed
  obtain ⟨endsAt, op, isGradient, failed⟩ := stops 3 [] rfl
  cases isQuotient.symm.trans isGradient
  exact ⟨warns, ignores, fails, completed, agree, warned, quiet, endsAt, isQuotient, failed⟩

end Session

end OpGraph
