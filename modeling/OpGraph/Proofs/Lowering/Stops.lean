import OpGraph.Proofs.Lowering.Run

namespace OpGraph

/-! Where a lowering pass stops that fails: at the visit of one node, all visits before it having
succeeded. -/

namespace Lowering

open Edit

variable {graph : Graph}

theorem visitAll_stops {config : Config} {order : List NodeId} {reason : GraphError}
    {after : Graph} {events : List Event}
    (failed : visitAll config order graph = ⟨.error reason, after, events⟩) :
    ∃ done id rest start, order = done ++ id :: rest ∧
      (∃ stats events, visitAll config done graph = ⟨.ok stats, start, events⟩) ∧
        ∃ events, visit config id start = ⟨.error reason, after, events⟩ := by
  induction order generalizing graph events with
  | nil => cases failed
  | cons id rest ih =>
      simp only [visitAll, bind_apply] at failed
      rcases visited : visit config id graph with ⟨_ | visit, middle, first⟩
      · rw [visited] at failed
        cases failed
        exact ⟨[], id, rest, graph, rfl, ⟨.empty, [], rfl⟩, events, visited⟩
      · rw [visited] at failed
        rcases later : visitAll config rest middle with ⟨_ | stats, _, _⟩
        · simp only [later, Outcome.mk.injEq, Except.error.injEq] at failed
          obtain ⟨rfl, rfl, _⟩ := failed
          obtain ⟨done, stop, others, start, rfl, ⟨stats, events, completed⟩, stopped⟩ := ih later
          refine ⟨id :: done, stop, others, start, rfl,
            ⟨stats.record id visit, first ++ (events ++ []), ?_⟩, stopped⟩
          simp only [visitAll, bind_apply, visited, completed, pure_apply]
        · simp only [later, pure_apply] at failed
          cases failed

end Lowering

namespace Edit

variable {graph after start : Graph} {config : Config} {mode : CompilationMode}
  {reason : GraphError} {done : List NodeId} {id : NodeId}

/-- A pass stops at a node: all visits before it succeeded, and its visit failed. -/
structure StopsAt (config : Config) (graph : Graph) (done : List NodeId) (id : NodeId)
    (start : Graph) (reason : GraphError) (after : Graph) : Prop where
  ordered : ∃ rest, graph.topologicalOrder.reverse = done ++ id :: rest
  completed : ∃ stats events, Lowering.visitAll config done graph = ⟨.ok stats, start, events⟩
  stopped : ∃ events, Lowering.visit config id start = ⟨.error reason, after, events⟩

theorem lower_stopsAt (failed : (lower config mode graph).result = .error reason) :
    ∃ done id start, StopsAt config graph done id start reason (lower config mode graph).graph := by
  have stops : (lower config mode graph).Meets (fun _ _ => True) fun reason after =>
      ∃ done id start, StopsAt config graph done id start reason after := by
    rw [meets_lower]
    rcases ended : Lowering.visitAll config graph.topologicalOrder.reverse graph with
      ⟨_ | _, after, events⟩
    · obtain ⟨done, id, rest, start, ordered, completed, stopped⟩ := Lowering.visitAll_stops ended
      exact ⟨done, id, start, ⟨rest, ordered⟩, completed, stopped⟩
    · exact trivial
  exact stops.of_error failed

/-- The graph at which a pass stops comes of complete visits of other nodes, and one more visit
refuses it. -/
theorem StopsAt.refuses (sound : graph.WellFormed)
    (stops : StopsAt config graph done id start reason after) :
    graph.Arrived done.reverse start ∧ id ∉ done ∧ graph.contains id ∧
      start.Refuses config.unsupported id reason after := by
  obtain ⟨⟨rest, ordered⟩, ⟨stats, events, completed⟩, ⟨_, stopped⟩⟩ := stops
  have listed : ∀ other ∈ done ++ id :: rest, graph.contains other := fun other member =>
    graph.mem_topologicalOrder.mp (List.mem_reverse.mp (ordered ▸ member))
  have once : (done ++ id :: rest).Nodup :=
    ordered ▸ (List.reverse_perm _).nodup_iff.mpr graph.nodup_topologicalOrder
  obtain ⟨_, _, apart⟩ := List.nodup_append.mp once
  have run := Lowering.visitAll_prefix_meets sound ordered config
  rw [completed] at run
  obtain ⟨_, ledger, replaced, passed⟩ := run
  have fresh : id ∉ done := fun member => apart id member id (by simp) rfl
  have stored : graph.contains id := listed id (by simp)
  have ended := Lowering.visit_meets sound passed (by simpa using fresh) stored config
  rw [stopped] at ended
  exact ⟨⟨ledger, replaced, passed⟩, fresh, stored, ended.1⟩

end Edit

end OpGraph
