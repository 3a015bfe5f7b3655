import OpGraph.Graph.Edit

namespace OpGraph

/-! Two edits in step.  From related graphs they give the same answer, or fail for the same reason,
and they leave related graphs; what they report may differ.  The relation is a parameter: equality
for edits that differ in their reports only, or a coarser one for a difference between graphs that
no edit can see. -/

structure Outcome.Matches (related : Graph → Graph → Prop) (first second : Outcome α) : Prop where
  result : first.result = second.result
  graph : related first.graph second.graph

namespace Edit

variable {graph : Graph} {first : Edit α} {second : α → Edit β}

theorem bind_of_ok {answer : α} (ended : (first graph).result = .ok answer) :
    (first >>= second) graph =
      { second answer (first graph).graph with
        events := (first graph).events ++ (second answer (first graph).graph).events } := by
  rw [bind_apply]
  generalize first graph = outcome at ended ⊢
  obtain ⟨result, middle, events⟩ := outcome
  obtain rfl : result = .ok answer := ended
  rfl

theorem bind_of_error {reason : GraphError} (ended : (first graph).result = .error reason) :
    (first >>= second) graph =
      ⟨.error reason, (first graph).graph, (first graph).events⟩ := by
  rw [bind_apply]
  generalize first graph = outcome at ended ⊢
  obtain ⟨result, middle, events⟩ := outcome
  obtain rfl : result = .error reason := ended
  rfl

def InStep (related : Graph → Graph → Prop) (first second : Edit α) : Prop :=
  ∀ ⦃graph other⦄, related graph other → (first graph).Matches related (second other)

namespace InStep

variable {related : Graph → Graph → Prop}

theorem refl (edit : Edit α) : InStep Eq edit edit := by
  intro graph other same
  subst same
  exact ⟨rfl, rfl⟩

theorem pure (answer : α) : InStep related (pure answer) (pure answer) :=
  fun _ _ relates => ⟨rfl, relates⟩

theorem fail (reason : GraphError) : InStep related (fail reason : Edit α) (fail reason) :=
  fun _ _ relates => ⟨rfl, relates⟩

theorem ask {question : Graph → α}
    (unseen : ∀ graph other, related graph other → question graph = question other) :
    InStep related (ask question) (ask question) :=
  fun _ _ relates => ⟨congrArg Except.ok (unseen _ _ relates), relates⟩

theorem change {step : Graph → Graph}
    (keeps : ∀ graph other, related graph other → related (step graph) (step other)) :
    InStep related (change step) (change step) :=
  fun _ _ relates => ⟨rfl, keeps _ _ relates⟩

theorem reportWhen (wanted otherWanted : Bool) (event otherEvent : Graph → Event) :
    InStep related (reportWhen wanted event) (reportWhen otherWanted otherEvent) :=
  fun _ _ relates => ⟨rfl, relates⟩

theorem orFail (reason : GraphError) (found : Option α) :
    InStep related (orFail reason found) (orFail reason found) := by
  cases found with
  | none => exact fail reason
  | some answer => exact pure answer

theorem bind {first second : Edit α} {next otherNext : α → Edit β}
    (firsts : InStep related first second)
    (nexts : ∀ answer, InStep related (next answer) (otherNext answer)) :
    InStep related (first >>= next) (second >>= otherNext) := by
  intro graph other relates
  obtain ⟨sameResult, relatesNow⟩ := firsts relates
  cases ended : (first graph).result with
  | error reason =>
      rw [bind_of_error ended, bind_of_error (sameResult.symm.trans ended)]
      exact ⟨rfl, relatesNow⟩
  | ok answer =>
      rw [bind_of_ok ended, bind_of_ok (sameResult.symm.trans ended)]
      obtain ⟨nextResult, nextRelates⟩ := nexts answer relatesNow
      exact ⟨nextResult, nextRelates⟩

theorem map {first second : Edit α} (change : α → β) (firsts : InStep related first second) :
    InStep related (change <$> first) (change <$> second) := by
  rw [← bind_pure_comp, ← bind_pure_comp]
  exact firsts.bind fun _ => pure _

theorem when {first second : Edit Unit} (wanted : Bool) (firsts : InStep related first second) :
    InStep related (when wanted first) (when wanted second) := by
  unfold Edit.when
  split
  · exact firsts
  · exact pure ()

end InStep

end Edit

end OpGraph
