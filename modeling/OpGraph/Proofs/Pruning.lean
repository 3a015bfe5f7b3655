import OpGraph.Prune
import OpGraph.Proofs.Acyclicity
import OpGraph.Proofs.Contracts

namespace OpGraph

/-! Dead code elimination removes nodes one by one, each at a time at which nothing reads it.  What
is left is unchanged, and wanted nodes are never touched. -/

namespace Graph

/-- A node that nothing wants and nothing reads. -/
def Removable (graph : Graph) (id : NodeId) : Prop :=
  ∃ entry, graph.entry? id = some entry ∧ ¬ entry.node.isRoot ∧ graph.hasUses id = false

/-- Nodes are removed in some order, each of them when it is removable. -/
inductive Eliminates : Graph → List NodeId → Graph → Prop where
  | done (graph : Graph) : Eliminates graph [] graph
  | remove {graph after : Graph} {id : NodeId} {rest : List NodeId}
      (removable : graph.Removable id) (later : Eliminates (graph.erase id) rest after) :
      Eliminates graph (id :: rest) after

/-- A well-formed graph that some nodes were taken from, none of them a root. -/
structure Pruned (before after : Graph) : Prop where
  wellFormed : after.WellFormed
  kept : ∀ {id : NodeId} {entry : Entry},
    after.entry? id = some entry → before.entry? id = some entry
  roots : ∀ {id : NodeId} {entry : Entry},
    before.entry? id = some entry → entry.node.isRoot → after.entry? id = some entry

variable {graph before middle after : Graph} {id user source : NodeId} {ids : List NodeId}

theorem reads_erase_iff :
    (graph.erase id).Reads user source ↔ user ≠ id ∧ graph.Reads user source := by
  rw [reads_iff, reads_iff, WellFormed.entry?_erase]
  by_cases same : user = id <;> simp [same]

namespace Pruned

theorem refl (wellFormed : before.WellFormed) : before.Pruned before :=
  ⟨wellFormed, fun found => found, fun found _ => found⟩

theorem trans (first : before.Pruned middle) (second : middle.Pruned after) :
    before.Pruned after :=
  ⟨second.wellFormed, fun found => first.kept (second.kept found),
    fun found isRoot => second.roots (first.roots found isRoot) isRoot⟩

theorem erase {entry : Entry} (wellFormed : before.WellFormed)
    (found : before.entry? id = some entry) (unwanted : ¬ entry.node.isRoot)
    (unread : before.hasUses id = false) : before.Pruned (before.erase id) where
  wellFormed := wellFormed.erase unread
  kept := by
    intro other kept stored
    rw [WellFormed.entry?_erase] at stored
    split at stored
    · cases stored
    · exact stored
  roots := by
    intro other root stored isRoot
    have different : other ≠ id := by
      intro same
      subst same
      cases found.symm.trans stored
      exact unwanted isRoot
    rw [WellFormed.entry?_erase, if_neg different, stored]

theorem reads_before (pruned : before.Pruned after) (reads : after.Reads user source) :
    before.Reads user source := by
  obtain ⟨entry, found, operand, member, rfl⟩ := reads_iff.mp reads
  exact reads_of_operand (pruned.kept found) member

end Pruned

theorem Eliminates.pruned (eliminates : before.Eliminates ids after)
    (wellFormed : before.WellFormed) : before.Pruned after := by
  induction eliminates with
  | done graph => exact .refl wellFormed
  | remove removable _ ih =>
      obtain ⟨entry, found, unwanted, unread⟩ := removable
      have first := Pruned.erase wellFormed found unwanted unread
      exact first.trans (ih first.wellFormed)

end Graph

namespace Sweep

variable {sweep next : Sweep}

/-- A step passes over a node that is not removable, or removes a node and turns to those that the
node read. -/
theorem step?_cases (stepped : sweep.step? = some next) :
    ∃ id rest, sweep.pending = id :: rest ∧
      ((¬ sweep.graph.Removable id ∧ next = ⟨sweep.graph, rest, sweep.removed⟩) ∨
        ∃ entry, sweep.graph.Removable id ∧
          next = ⟨sweep.graph.erase id, (sweep.graph.sources id).reverse ++ rest,
            (id, entry) :: sweep.removed⟩) := by
  unfold step? at stepped
  split at stepped
  · cases stepped
  · next id rest pending =>
      refine ⟨id, rest, pending, ?_⟩
      split at stepped
      · next absent =>
          cases stepped
          refine .inl ⟨fun removable => ?_, rfl⟩
          obtain ⟨_, found, _⟩ := removable
          cases absent.symm.trans found
      · next entry found =>
          split at stepped
          · next needed =>
              cases stepped
              refine .inl ⟨fun removable => ?_, rfl⟩
              obtain ⟨_, same, unwanted, unread⟩ := removable
              cases found.symm.trans same
              simp [unwanted, unread] at needed
          · next removable =>
              cases stepped
              simp only [not_or, Bool.not_eq_true] at removable
              exact .inr ⟨entry, ⟨entry, found, by simp [removable.1], removable.2⟩, rfl⟩

theorem finish_of_done (ended : sweep.step? = none) : sweep.finish = sweep := by
  rw [finish]
  split
  · rfl
  · next stepped => cases ended.symm.trans stepped

theorem finish_of_step? (stepped : sweep.step? = some next) : sweep.finish = next.finish := by
  rw [finish]
  split
  · next ended => cases stepped.symm.trans ended
  · next later again => rw [Option.some.inj (stepped.symm.trans again)]

theorem pending_of_ended (ended : sweep.step? = none) : sweep.pending = [] := by
  unfold step? at ended
  split at ended
  · assumption
  · split at ended
    · cases ended
    · split at ended <;> cases ended

theorem pending_finish (sweep : Sweep) : sweep.finish.pending = [] := by
  fun_induction finish sweep with
  | case1 sweep ended => exact pending_of_ended ended
  | case2 sweep next stepped ih => exact ih

theorem eliminates_finish (sweep : Sweep) :
    ∃ ids, sweep.graph.Eliminates ids sweep.finish.graph ∧
      sweep.finish.removed.length = ids.length + sweep.removed.length := by
  fun_induction finish sweep with
  | case1 sweep ended => exact ⟨[], .done _, by simp⟩
  | case2 sweep next stepped ih =>
      obtain ⟨ids, eliminates, counted⟩ := ih
      obtain ⟨id, rest, pending, ⟨_, rfl⟩ | ⟨entry, removable, rfl⟩⟩ := step?_cases stepped
      · exact ⟨ids, eliminates, counted⟩
      · refine ⟨id :: ids, .remove removable eliminates, ?_⟩
        simp only [List.length_cons] at counted ⊢
        omega

end Sweep

def Graph.swept (graph : Graph) : Graph :=
  (Sweep.start graph).finish.graph

namespace Edit

variable {graph : Graph}

theorem prune_eliminates (graph : Graph) (verbose : Bool) :
    ∃ ids, (prune verbose graph).result = .ok ids.length ∧ graph.Eliminates ids graph.swept := by
  obtain ⟨ids, eliminates, counted⟩ := (Sweep.start graph).eliminates_finish
  exact ⟨ids, congrArg Except.ok counted, eliminates⟩

@[simp] theorem meets_prune {done : Nat → Graph → Prop} {failed : GraphError → Graph → Prop}
    (verbose : Bool) :
    (prune verbose graph).Meets done failed ↔
      done (Sweep.start graph).finish.removed.length graph.swept := Iff.rfl

theorem pruned_prune (wellFormed : graph.WellFormed) (verbose : Bool) :
    graph.Pruned (prune verbose graph).graph := by
  obtain ⟨ids, _, eliminates⟩ := prune_eliminates graph verbose
  exact eliminates.pruned wellFormed

end Edit

end OpGraph
