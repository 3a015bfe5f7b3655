import OpGraph.Proofs.Rewiring

namespace OpGraph

/-! Contracts of edits.  A contract says what holds of the answer and the graph after a success, and
of the reason and the graph after a failure; the contract of a sequence is computed from those of
its parts. -/

def Outcome.Meets (outcome : Outcome α) (done : α → Graph → Prop)
    (failed : GraphError → Graph → Prop) : Prop :=
  match outcome.result with
  | .ok answer => done answer outcome.graph
  | .error reason => failed reason outcome.graph

namespace Outcome

variable {outcome : Outcome α} {done weaker : α → Graph → Prop}
  {failed weakerFailed : GraphError → Graph → Prop}

theorem Meets.mono (meets : outcome.Meets done failed)
    (doneWeaker : ∀ answer graph, done answer graph → weaker answer graph)
    (failedWeaker : ∀ reason graph, failed reason graph → weakerFailed reason graph) :
    outcome.Meets weaker weakerFailed := by
  unfold Meets at meets ⊢
  split
  · next answer ended =>
      rw [ended] at meets
      exact doneWeaker _ _ meets
  · next reason ended =>
      rw [ended] at meets
      exact failedWeaker _ _ meets

theorem Meets.of_ok {answer : α} (meets : outcome.Meets done failed)
    (ended : outcome.result = .ok answer) : done answer outcome.graph := by
  simpa only [Meets, ended] using meets

theorem Meets.of_error {reason : GraphError} (meets : outcome.Meets done failed)
    (ended : outcome.result = .error reason) : failed reason outcome.graph := by
  simpa only [Meets, ended] using meets

theorem meets_iff : outcome.Meets done failed ↔
    (∀ answer, outcome.result = .ok answer → done answer outcome.graph) ∧
      ∀ reason, outcome.result = .error reason → failed reason outcome.graph := by
  unfold Meets
  split <;> next ended => simp [ended]

theorem meets_congr {other : α → Graph → Prop}
    (same : ∀ answer, outcome.result = .ok answer →
      (done answer outcome.graph ↔ other answer outcome.graph)) :
    outcome.Meets done failed ↔ outcome.Meets other failed := by
  rw [meets_iff, meets_iff]
  exact and_congr_left fun _ => forall₂_congr same

theorem Meets.exists_ok (meets : outcome.Meets done fun _ _ => False) :
    ∃ answer, outcome.result = .ok answer ∧ done answer outcome.graph := by
  cases ended : outcome.result with
  | ok answer => exact ⟨answer, rfl, meets.of_ok ended⟩
  | error reason => exact (meets.of_error ended).elim

theorem Meets.exists_error (meets : outcome.Meets (fun _ _ => False) failed) :
    ∃ reason, outcome.result = .error reason ∧ failed reason outcome.graph := by
  cases ended : outcome.result with
  | ok answer => exact (meets.of_ok ended).elim
  | error reason => exact ⟨reason, rfl, meets.of_error ended⟩

theorem meets_always {holds : Graph → Prop} :
    outcome.Meets (fun _ => holds) (fun _ => holds) ↔ holds outcome.graph := by
  unfold Meets
  split <;> rfl

end Outcome

namespace Graph

/-- Why a graph refuses operands that are to have a type.  The first one that does not exist or has
another type decides. -/
inductive RefusesOperands (graph : Graph) (op : BinaryOp) (name : String)
    (type : TensorType) : List Value → GraphError → Prop where
  | missing {operand : Value} {rest : List Value} (absent : graph.type? operand = none) :
      RefusesOperands graph op name type (operand :: rest) (.missingValue operand)
  | types {operand : Value} {rest : List Value} {operandType : TensorType}
      (typed : graph.type? operand = some operandType) (different : operandType ≠ type) :
      RefusesOperands graph op name type (operand :: rest)
        (.gradientTypes op name type operand operandType)
  | later {operand : Value} {rest : List Value} {reason : GraphError}
      (typed : graph.type? operand = some type)
      (refuses : RefusesOperands graph op name type rest reason) :
      RefusesOperands graph op name type (operand :: rest) reason

/-- Why a redirection is refused: one of its values does not exist, they differ in type, or the node
of the target would read itself. -/
inductive RefusesRedirection (graph : Graph) (source target : Value) : GraphError → Prop where
  | missingSource (absent : graph.type? source = none) :
      RefusesRedirection graph source target (.missingValue source)
  | missingTarget {type : TensorType} (sourceTyped : graph.type? source = some type)
      (absent : graph.type? target = none) :
      RefusesRedirection graph source target (.missingValue target)
  | types {sourceType targetType : TensorType} (sourceTyped : graph.type? source = some sourceType)
      (targetTyped : graph.type? target = some targetType) (different : sourceType ≠ targetType) :
      RefusesRedirection graph source target (.replacementTypes source sourceType target targetType)
  | selfRead {type : TensorType} (sourceTyped : graph.type? source = some type)
      (targetTyped : graph.type? target = some type) (different : source ≠ target)
      (reads : graph.ReadBy target.node source) :
      RefusesRedirection graph source target (.selfRead source target)

theorem WellFormed.any_users_iff {graph : Graph} {id : NodeId} {value : Value}
    (wellFormed : graph.WellFormed) :
    (graph.users value).any (·.user = id) ↔ graph.ReadBy id value := by
  simp only [List.any_eq_true, decide_eq_true_eq, wellFormed.mem_users]
  constructor
  · intro used
    obtain ⟨⟨user, operand⟩, makes, rfl⟩ := used
    exact ⟨operand, makes⟩
  · intro reads
    obtain ⟨operand, makes⟩ := reads
    exact ⟨_, makes, rfl⟩

end Graph

namespace Edit

variable {graph : Graph} {done : α → Graph → Prop} {failed : GraphError → Graph → Prop}

@[simp] theorem meets_pure (answer : α) :
    ((pure answer : Edit α) graph).Meets done failed ↔ done answer graph := Iff.rfl

@[simp] theorem meets_bind (first : Edit β) (second : β → Edit α) :
    ((first >>= second) graph).Meets done failed ↔
      (first graph).Meets (fun answer middle => (second answer middle).Meets done failed)
        failed := by
  rw [bind_apply]
  rcases first graph with ⟨_ | _, _, _⟩ <;> rfl

@[simp] theorem meets_map (change : β → α) (edit : Edit β) :
    ((change <$> edit) graph).Meets done failed ↔
      (edit graph).Meets (fun answer => done (change answer)) failed := by
  rw [← bind_pure_comp, meets_bind]
  simp

@[simp] theorem graph_map (change : β → α) (edit : Edit β) :
    ((change <$> edit) graph).graph = (edit graph).graph := by
  rw [← bind_pure_comp, bind_apply]
  rcases edit graph with ⟨_ | _, _, _⟩ <;> rfl

@[simp] theorem meets_ask (question : Graph → α) :
    (ask question graph).Meets done failed ↔ done (question graph) graph := Iff.rfl

@[simp] theorem meets_change {done : Unit → Graph → Prop} (step : Graph → Graph) :
    (change step graph).Meets done failed ↔ done () (step graph) := Iff.rfl

@[simp] theorem meets_reportWhen {done : Unit → Graph → Prop} (wanted : Bool)
    (event : Graph → Event) :
    (reportWhen wanted event graph).Meets done failed ↔ done () graph := Iff.rfl

@[simp] theorem meets_report {done : Unit → Graph → Prop} (event : Graph → Event) :
    (report event graph).Meets done failed ↔ done () graph := Iff.rfl

@[simp] theorem meets_fail (reason : GraphError) :
    ((fail reason : Edit α) graph).Meets done failed ↔ failed reason graph := Iff.rfl

@[simp] theorem meets_orFail (reason : GraphError) (found : Option α) :
    (orFail reason found graph).Meets done failed ↔
      (∀ answer, found = some answer → done answer graph) ∧
        (found = none → failed reason graph) := by
  cases found <;> simp [orFail]

@[simp] theorem meets_insert {done : NodeId → Graph → Prop} (name : String) (node : Node)
    (types : List TensorType) :
    (insert name node types graph).Meets done failed ↔
      done graph.nodes.nextIndex (graph.insert ⟨name, node, types⟩) := Iff.rfl

@[simp] theorem meets_typeOf {done : TensorType → Graph → Prop} (value : Value) :
    (typeOf value graph).Meets done failed ↔
      (∀ type, graph.type? value = some type → done type graph) ∧
        (graph.type? value = none → failed (.missingValue value) graph) := by
  simp [typeOf]

theorem createArithmetic_meets {done : Value → Graph → Prop} {name : String} {lhs rhs : Value}
    {op : BinaryOp}
    (created : ∀ type, graph.type? lhs = some type → graph.type? rhs = some type →
      done ⟨graph.nodes.nextIndex, 0⟩ (graph.insert ⟨name, .arithmetic lhs rhs op, [type]⟩))
    (refused : ∀ reason, failed reason graph) :
    (createArithmetic name lhs rhs op graph).Meets done failed := by
  simp only [createArithmetic, meets_bind, meets_typeOf]
  refine ⟨fun lhsType lhsTyped => ⟨fun rhsType rhsTyped => ?_, fun _ => refused _⟩,
    fun _ => refused _⟩
  split
  · next same => exact created lhsType lhsTyped (same ▸ rhsTyped)
  · exact refused _

@[simp] theorem meets_createZero {done : Value → Graph → Prop} (name : String)
    (type : TensorType) :
    (createZero name type graph).Meets done failed ↔
      done ⟨graph.nodes.nextIndex, 0⟩
        (graph.insert ⟨name, .splat (.zero type.element) type, [type]⟩) := by
  simp [createZero]

theorem meets_createArithmetic {done : Value → Graph → Prop} {name : String} {lhs rhs : Value}
    {op : BinaryOp} {type : TensorType} (lhsType : graph.type? lhs = some type)
    (rhsType : graph.type? rhs = some type) :
    (createArithmetic name lhs rhs op graph).Meets done failed ↔
      done ⟨graph.nodes.nextIndex, 0⟩
        (graph.insert ⟨name, .arithmetic lhs rhs op, [type]⟩) := by
  simp [createArithmetic, lhsType, rhsType]

@[simp] theorem meets_when {done : Unit → Graph → Prop} (wanted : Bool) (edit : Edit Unit) :
    (when wanted edit graph).Meets done failed ↔
      if wanted then (edit graph).Meets done failed else done () graph := by
  unfold when
  split <;> rfl

theorem requireTypes_ends (op : BinaryOp) (name : String) (type : TensorType)
    (operands : List Value) :
    (requireTypes op name type operands graph).Meets
      (fun _ after => (∀ operand ∈ operands, graph.type? operand = some type) ∧ after = graph)
      (fun reason after => graph.RefusesOperands op name type operands reason ∧ after = graph) := by
  induction operands with
  | nil => exact ⟨by simp, rfl⟩
  | cons operand rest ih =>
      simp only [requireTypes, meets_bind, meets_typeOf]
      refine ⟨fun operandType typed => ?_, fun absent => ⟨.missing absent, trivial⟩⟩
      split
      · next same =>
          refine ih.mono (fun _ _ accepted => ?_) fun _ _ refused => ?_
          · exact ⟨by simpa [typed, same] using accepted.1, accepted.2⟩
          · exact ⟨.later (same ▸ typed) refused.1, refused.2⟩
      · next different => exact ⟨.types typed different, rfl⟩

theorem requireTypes_meets {done : Unit → Graph → Prop} {op : BinaryOp} {name : String}
    {type : TensorType} {operands : List Value}
    (agreed : (∀ operand ∈ operands, graph.type? operand = some type) → done () graph)
    (refused : ∀ reason, failed reason graph) :
    (requireTypes op name type operands graph).Meets done failed := by
  refine (requireTypes_ends op name type operands).mono ?_ ?_
  · rintro _ _ ⟨agree, rfl⟩
    exact agreed agree
  · rintro reason _ ⟨_, rfl⟩
    exact refused reason

/-- A redirection is carried out, or refused for the first of these reasons that applies, and then
nothing has changed. -/
theorem replaceUses_ends (wellFormed : graph.WellFormed) (source target : Value) :
    (replaceUses source target graph).Meets
      (fun _ after => graph.Rewired source target after ∧
        (source = target ∨ ¬ graph.ReadBy target.node source))
      (fun reason after => graph.RefusesRedirection source target reason ∧ after = graph) := by
  simp only [replaceUses, meets_bind, meets_typeOf]
  refine ⟨fun sourceType sourceTyped => ⟨fun targetType targetTyped => ?_,
    fun absent => ⟨.missingTarget sourceTyped absent, trivial⟩⟩,
    fun absent => ⟨.missingSource absent, trivial⟩⟩
  split
  · next different => exact ⟨.types sourceTyped targetTyped different, rfl⟩
  · next agree =>
      obtain rfl : sourceType = targetType := not_not.mp agree
      split
      · next same => exact ⟨.refl wellFormed fun _ _ => same, .inl same⟩
      · next different =>
          simp only [meets_bind, meets_ask]
          split
          · next used =>
              have reads := wellFormed.any_users_iff.mp used
              exact ⟨.selfRead sourceTyped targetTyped different reads, rfl⟩
          · next unused =>
              have apart : ¬ graph.ReadBy target.node source := fun reads =>
                unused (wellFormed.any_users_iff.mpr reads)
              simp only [meets_bind, meets_ask]
              split
              · obtain ⟨after, redirected, rewired⟩ := wellFormed.redirect sourceTyped targetTyped
                  fun use makes same => apart ⟨use.operand, same ▸ makes⟩
                simp only [meets_bind, meets_ask, redirected, meets_change, meets_report]
                exact ⟨rewired, .inr apart⟩
              · next unread =>
                  refine ⟨.refl wellFormed fun use makes => ?_, .inr apart⟩
                  exact absurd (wellFormed.contains_uses_iff.mpr ⟨use, makes⟩) unread

theorem replaceUses_meets_of_types {done : Unit → Graph → Prop} {source target : Value}
    {type : TensorType} (wellFormed : graph.WellFormed)
    (sourceTyped : graph.type? source = some type) (targetTyped : graph.type? target = some type)
    (rewired : source = target ∨ ¬ graph.ReadBy target.node source →
      ∀ after, graph.Rewired source target after → done () after)
    (refused : graph.ReadBy target.node source → failed (.selfRead source target) graph) :
    (replaceUses source target graph).Meets done failed := by
  refine (replaceUses_ends wellFormed source target).mono ?_ ?_
  · intro _ after carriedOut
    exact rewired carriedOut.2 after carriedOut.1
  · rintro reason _ ⟨refuses, rfl⟩
    cases refuses with
    | missingSource absent => cases sourceTyped.symm.trans absent
    | missingTarget _ absent => cases targetTyped.symm.trans absent
    | types otherSource otherTarget different =>
        cases sourceTyped.symm.trans otherSource
        cases targetTyped.symm.trans otherTarget
        exact absurd rfl different
    | selfRead _ _ _ reads => exact refused reads

theorem replaceUses_meets {done : Unit → Graph → Prop} {source target : Value}
    (wellFormed : graph.WellFormed)
    (rewired : ∀ after, graph.Rewired source target after → done () after)
    (refused : ∀ reason, failed reason graph) :
    (replaceUses source target graph).Meets done failed := by
  refine (replaceUses_ends wellFormed source target).mono ?_ ?_
  · exact fun _ after carriedOut => rewired after carriedOut.1
  · rintro reason _ ⟨_, rfl⟩
    exact refused reason

theorem remove_of_unread {id : NodeId} {node : Node} (found : graph.node? id = some node)
    (unread : graph.hasUses id = false) : remove id graph = ⟨.ok node, graph.erase id, []⟩ := by
  simp only [remove, bind_apply, ask, found, orFail, pure_apply, unread]
  rfl

theorem remove_meets {done : Node → Graph → Prop} {id : NodeId}
    (removed : ∀ node, graph.hasUses id = false → done node (graph.erase id))
    (refused : ∀ reason, failed reason graph) : (remove id graph).Meets done failed := by
  simp only [remove, meets_bind, meets_ask, meets_orFail]
  refine ⟨fun node _ => ?_, fun _ => refused _⟩
  split
  · exact refused _
  · next unused => exact removed node (by simpa using unused)

end Edit

end OpGraph
