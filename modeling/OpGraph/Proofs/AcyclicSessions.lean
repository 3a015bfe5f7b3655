import OpGraph.Proofs.Lowering.Completion
import OpGraph.Proofs.TopologicalOrder

namespace OpGraph

/-! Which sessions build cycles.  A redirection is refused if the node of its target itself reads
its source, but not if it reads the source through other nodes, and then a cycle is closed.  No
other command closes one. -/

open OpGraph.Graph

namespace Command

variable {graph : Graph}

/-- A redirection that is carried out although the node of its target depends on its source. -/
def ClosesCycle (graph : Graph) : Command → Prop
  | .replaceUses source target =>
      (Edit.replaceUses source target graph).result = .ok () ∧ graph.DependsOn target.node source
  | _ => False

theorem replaceUses_acyclic_iff {source target : Value} (wellFormed : graph.WellFormed)
    (acyclic : graph.Acyclic) :
    (Edit.replaceUses source target graph).graph.Acyclic ↔
      ¬ (Command.replaceUses source target).ClosesCycle graph := by
  have ends : (Edit.replaceUses source target graph).Meets
      (fun _ after => graph.Rewired source target after) (fun _ after => after = graph) :=
    Edit.replaceUses_meets wellFormed (fun _ rewired => rewired) fun _ => rfl
  cases ended : (Edit.replaceUses source target graph).result with
  | ok done =>
      rw [(ends.of_ok ended).acyclic_iff acyclic]
      simp [ClosesCycle, ended]
  | error reason =>
      rw [ends.of_error ended]
      simp [ClosesCycle, ended, acyclic]

theorem acyclic_iff (wellFormed : graph.WellFormed) (acyclic : graph.Acyclic)
    (command : Command) :
    (command.edit graph).graph.Acyclic ↔ ¬ command.ClosesCycle graph := by
  have extended : ∀ {after}, graph.ExtendedTo after → after.Acyclic :=
    acyclic.extended wellFormed
  cases command <;> rw [Command.edit, Edit.graph_map]
  case replaceUses source target => exact replaceUses_acyclic_iff wellFormed acyclic
  case createInput name type =>
    exact iff_of_true (extended (Edit.createInput_extends name type)) nofun
  case createSplat name value type =>
    exact iff_of_true (extended (Edit.createSplat_extends name value type)) nofun
  case createZero name type =>
    exact iff_of_true (extended (Edit.createZero_extends name type)) nofun
  case createArithmetic name lhs rhs op =>
    exact iff_of_true (extended (Edit.createArithmetic_extends name lhs rhs op wellFormed)) nofun
  case createGradient name lhs rhs result resultGrad op =>
    exact iff_of_true
      (extended (Edit.createGradient_extends name lhs rhs result resultGrad op wellFormed)) nofun
  case createSave name value =>
    exact iff_of_true (extended (Edit.createSave_extends name value wellFormed)) nofun
  case remove id =>
    refine iff_of_true (Outcome.meets_always.mp ?_) nofun
    exact Edit.remove_meets (fun _ _ => acyclic.erase id) fun _ => acyclic
  case verify =>
    rw [wellFormed.verify_ok]
    exact iff_of_true acyclic nofun
  case lower config mode =>
    obtain ⟨ledger, replaced, lowered⟩ := wellFormed.stopped_lower config mode
    exact iff_of_true (lowered.acyclic wellFormed acyclic) nofun
  case prune => exact iff_of_true (acyclic.pruned (Edit.pruned_prune wellFormed false)) nofun
  case optimize config mode =>
    obtain ⟨middle, ⟨ledger, replaced, lowered⟩, pruned⟩ :=
      wellFormed.optimized_optimize config mode
    exact iff_of_true ((lowered.acyclic wellFormed acyclic).pruned pruned) nofun

end Command

namespace Session

variable {graph : Graph} {commands : List Command}

/-- Commands of which none closes a cycle at its time. -/
inductive Orderly : Graph → List Command → Prop where
  | nil {graph : Graph} : Orderly graph []
  | cons {graph : Graph} {command : Command} {rest : List Command}
      (keeps : ¬ command.ClosesCycle graph) (later : Orderly (command.edit graph).graph rest) :
      Orderly graph (command :: rest)

theorem Orderly.acyclic (orderly : Orderly graph commands) (wellFormed : graph.WellFormed)
    (acyclic : graph.Acyclic) : (run graph commands).Acyclic := by
  induction orderly with
  | nil => exact acyclic
  | @cons graph command rest keeps _ ih =>
      exact ih (command.edit_preserves graph wellFormed)
        ((command.acyclic_iff wellFormed acyclic).mpr keeps)

theorem acyclic_empty : Graph.empty.Acyclic :=
  acyclic_of_ascending (by decide)

/-- As long as no redirection closes a cycle, graphs are acyclic, the topological order lists every
node after the nodes that it reads, a pass visits every node before them, and the next command
closes a cycle only if it is such a redirection. -/
theorem Orderly.acyclic_and_sorted (orderly : Orderly .empty commands) :
    let graph := run .empty commands
    graph.Acyclic ∧
      (∀ user source, graph.Reads user source →
        [source, user].Sublist graph.topologicalOrder ∧
          [user, source].Sublist graph.topologicalOrder.reverse) ∧
        ∀ command : Command,
          (command.edit graph).graph.Acyclic ↔ ¬ command.ClosesCycle graph := by
  have wellFormed := (reachable_run .empty commands).wellFormed
  have acyclic := orderly.acyclic .empty acyclic_empty
  refine ⟨acyclic, fun user source reads => ?_, Command.acyclic_iff wellFormed acyclic⟩
  have sorted := wellFormed.sublist_topologicalOrder acyclic reads
  exact ⟨sorted, sorted.reverse⟩

/-- A redirection that is carried out, and one that is refused. -/
def redirections : List Command :=
  [.createInput "x" scalar, .createInput "y" scalar, .createArithmetic "inner" ⟨0, 0⟩ ⟨0, 0⟩ .add,
    .createArithmetic "outer" ⟨2, 0⟩ ⟨0, 0⟩ .mul, .createSave "kept" ⟨3, 0⟩,
    .replaceUses ⟨0, 0⟩ ⟨1, 0⟩, .replaceUses ⟨1, 0⟩ ⟨2, 0⟩, .optimize .default .train]

theorem redirections_sorted :
    let graph := run .empty redirections
    Orderly .empty redirections ∧ graph.Acyclic ∧
      (∀ user source, graph.Reads user source →
        [source, user].Sublist graph.topologicalOrder ∧
          [user, source].Sublist graph.topologicalOrder.reverse) ∧
        ∀ command : Command,
          (command.edit graph).graph.Acyclic ↔ ¬ command.ClosesCycle graph := by
  let created := run .empty (redirections.take 5)
  have formed : created.WellFormed := (reachable_run .empty (redirections.take 5)).wellFormed
  have acyclic : created.Acyclic := acyclic_of_ascending (by decide +kernel)
  have carriedOut : ¬ (Command.replaceUses ⟨0, 0⟩ ⟨1, 0⟩).ClosesCycle created :=
    (Command.acyclic_iff formed acyclic _).mp (acyclic_of_ascending (by decide +kernel))
  have refused : ¬ (Command.replaceUses ⟨1, 0⟩ ⟨2, 0⟩).ClosesCycle
      (run .empty (redirections.take 6)) := by
    intro closes
    have failed : (Edit.replaceUses ⟨1, 0⟩ ⟨2, 0⟩ (run .empty (redirections.take 6))).result =
        .error (.selfRead ⟨1, 0⟩ ⟨2, 0⟩) := by decide +kernel
    cases failed.symm.trans closes.1
  have orderly : Orderly .empty redirections :=
    .cons nofun (.cons nofun (.cons nofun (.cons nofun (.cons nofun
      (.cons carriedOut (.cons refused (.cons nofun .nil)))))))
  exact ⟨orderly, Orderly.acyclic_and_sorted orderly⟩

/-- A node, one that reads it, and a redirection of the first node's operand to the second one. -/
def indirectCycle : List Command :=
  [.createInput "x" scalar, .createInput "y" scalar, .createArithmetic "inner" ⟨0, 0⟩ ⟨1, 0⟩ .add,
    .createArithmetic "outer" ⟨2, 0⟩ ⟨1, 0⟩ .mul, .replaceUses ⟨0, 0⟩ ⟨3, 0⟩]

/-- The redirection is carried out, and the two nodes read each other. -/
theorem indirectCycle_not_acyclic :
    let graph := run .empty indirectCycle
    Reachable graph ∧ graph.Reads 2 3 ∧ graph.Reads 3 2 ∧ ¬ graph.Acyclic ∧
      graph.topologicalOrder = [0, 1, 3, 2] := by
  have inner : (run .empty indirectCycle).Reads 2 3 := by
    change 3 ∈ (run .empty indirectCycle).sources 2
    decide +kernel
  have outer : (run .empty indirectCycle).Reads 3 2 := by
    change 2 ∈ (run .empty indirectCycle).sources 3
    decide +kernel
  exact ⟨reachable_run .empty indirectCycle, inner, outer,
    fun acyclic => acyclic 2 (.tail (.single inner) outer), by decide +kernel⟩

end Session

end OpGraph
