import OpGraph.Graph.Error
import OpGraph.Graph.Event

namespace OpGraph

/-! Edits: computations that change one graph, report events and may fail.  A failed edit leaves the
graph as it was at the point of the failure, with all that was done before. -/

/-- How an edit ended: its answer or the reason of its failure, the graph that it left, and its
reports in order. -/
structure Outcome (α : Type) where
  result : Except GraphError α
  graph : Graph
  events : List Event

def Edit (α : Type) : Type :=
  Graph → Outcome α

namespace Edit

protected def pure (answer : α) : Edit α := fun graph =>
  ⟨.ok answer, graph, []⟩

/-- One edit after another; a failure of the first ends both. -/
protected def bind (first : Edit α) (second : α → Edit β) : Edit β := fun graph =>
  match first graph with
  | ⟨.ok answer, middle, events⟩ =>
      let outcome := second answer middle
      ⟨outcome.result, outcome.graph, events ++ outcome.events⟩
  | ⟨.error reason, middle, events⟩ => ⟨.error reason, middle, events⟩

instance : Monad Edit where
  pure := Edit.pure
  bind := Edit.bind

def ask (question : Graph → α) : Edit α := fun graph =>
  ⟨.ok (question graph), graph, []⟩

def change (step : Graph → Graph) : Edit Unit := fun graph =>
  ⟨.ok (), step graph, []⟩

/-- Reports something about the graph as it is, if that is wanted. -/
def reportWhen (wanted : Bool) (event : Graph → Event) : Edit Unit := fun graph =>
  ⟨.ok (), graph, if wanted then [event graph] else []⟩

def fail (reason : GraphError) : Edit α := fun graph =>
  ⟨.error reason, graph, []⟩

/-- The value if there is one, and a failure otherwise. -/
def orFail (reason : GraphError) : Option α → Edit α
  | some value => pure value
  | none => fail reason

def report (event : Graph → Event) : Edit Unit :=
  reportWhen true event

def when (wanted : Bool) (edit : Edit Unit) : Edit Unit :=
  if wanted then edit else pure ()

variable {graph : Graph}

theorem pure_apply (answer : α) : (pure answer : Edit α) graph = ⟨.ok answer, graph, []⟩ :=
  rfl

theorem bind_apply (first : Edit α) (second : α → Edit β) :
    (first >>= second) graph =
      match first graph with
      | ⟨.ok answer, middle, events⟩ =>
          ⟨(second answer middle).result, (second answer middle).graph,
            events ++ (second answer middle).events⟩
      | ⟨.error reason, middle, events⟩ => ⟨.error reason, middle, events⟩ := rfl

instance : LawfulMonad Edit := by
  refine LawfulMonad.mk' Edit (fun edit => ?_) (fun _ _ => rfl) (fun first second third => ?_)
  · funext graph
    change Edit.bind edit (fun answer => Edit.pure answer) graph = edit graph
    rcases ended : edit graph with ⟨_ | _, _, _⟩ <;> simp [Edit.bind, Edit.pure, ended]
  · funext graph
    change Edit.bind (Edit.bind first second) third graph =
      Edit.bind first (fun answer => Edit.bind (second answer) third) graph
    rcases firstEnded : first graph with ⟨_ | answer, middle, _⟩
    · simp [Edit.bind, firstEnded]
    · rcases secondEnded : second answer middle with ⟨_ | _, _, _⟩ <;>
        simp [Edit.bind, firstEnded, secondEnded]

end Edit

end OpGraph
