import OpGraph.Proofs.Lowering.Failure
import OpGraph.Proofs.Lowering.Statistics
import OpGraph.Proofs.Refusals

namespace OpGraph

/-! Faults do not occur.  Edits rely on each other: a redirection looks up the nodes and operands
that the index names, a pass the nodes that the order lists, a removal the node that it has checked.
Whatever was done before, also by passes that stopped on the way and in cyclic graphs, they find
what they look up.  Edits are refused, but for other reasons. -/

/-- Success, or a refusal that is no fault. -/
def Outcome.Unbroken (outcome : Outcome α) : Prop :=
  ∀ fault, outcome.result ≠ .error (.broken fault)

theorem Outcome.unbroken_iff_meets {outcome : Outcome α} : outcome.Unbroken ↔
    outcome.Meets (fun _ _ => True) fun reason _ => ∀ fault, reason ≠ .broken fault := by
  rw [Outcome.meets_iff]
  constructor
  · intro unbroken
    exact ⟨fun _ _ => trivial, fun reason failed fault same => unbroken fault (same ▸ failed)⟩
  · rintro ⟨_, refused⟩ fault failed
    exact refused _ failed fault rfl

open Outcome

namespace Edit

variable {graph : Graph}

theorem unbroken_map (change : α → β) (edit : Edit α) :
    ((change <$> edit) graph).Unbroken ↔ (edit graph).Unbroken := by
  rw [unbroken_iff_meets, unbroken_iff_meets, meets_map]

theorem lower_unbroken (wellFormed : graph.WellFormed) (config : Config)
    (mode : CompilationMode) : (lower config mode graph).Unbroken := by
  intro fault failed
  obtain ⟨done, id, start, stops⟩ := lower_stopsAt failed
  obtain ⟨_, _, _, refuses⟩ := stops.refuses wellFormed
  cases refuses

theorem optimize_unbroken (wellFormed : graph.WellFormed) (config : Config)
    (mode : CompilationMode) : (optimize config mode graph).Unbroken := by
  rw [Outcome.Unbroken, result_optimize wellFormed]
  exact lower_unbroken wellFormed config mode

end Edit

theorem Command.unbroken {graph : Graph} (wellFormed : graph.WellFormed) (command : Command) :
    (command.edit graph).Unbroken := by
  by_cases elementary : command.isElementary
  · intro fault failed
    obtain ⟨refused, _⟩ := (Command.refused_of_error wellFormed elementary).of_error failed
    exact refused.toldAsMeant.ne_broken fault rfl
  · cases command <;> rw [Command.edit, Edit.unbroken_map]
    case verify =>
      rw [wellFormed.verify_ok]
      simp [Outcome.Unbroken]
    case lower config mode => exact Edit.lower_unbroken wellFormed config mode
    case prune => simp [Outcome.Unbroken, Edit.prune]
    case optimize config mode => exact Edit.optimize_unbroken wellFormed config mode
    all_goals exact absurd rfl elementary

namespace Graph

/-- Everything that is looked up is there, and every difference of numbers is one. -/
structure Faultless (graph : Graph) : Prop where
  commands : ∀ command : Command, (command.edit graph).Unbroken
  /-- Only a node that does not exist is no answer. -/
  queries : ∀ (query : Query) reason, query.answer graph = .error reason ↔
    ∃ id, query = .existingNode id ∧ graph.contains id = false ∧ reason = .broken (.emptySlot id)
  /-- A removal that is not refused finds the node in the storage. -/
  removal : ∀ id, graph.contains id → graph.hasUses id = false →
    ∃ entry, graph.nodes.get? id = some entry ∧
      Edit.remove id graph = ⟨.ok entry.node,
        ⟨graph.nodes.erase id, graph.uses.eraseAll (entry.node.readsAs id)⟩, []⟩
  /-- There are no more emptied slots than slots. -/
  size : graph.nodes.free.size ≤ graph.nodes.slots.size
  /-- A complete pass leaves as many nodes more as it counts. -/
  created : ∀ config mode stats, (Edit.lower config mode graph).result = .ok stats →
    graph.size + stats.created = (Edit.lower config mode graph).graph.size
  /-- The slot for the next node is an emptied one, or the first behind all slots. -/
  nextSlot : ∀ index, graph.nodes.lowestFree? = some index → index < graph.nodes.slots.size
  /-- Ids have 32 bits: with fewer slots than such numbers, every node has one, the next too. -/
  ids : graph.nodes.slots.size < 2 ^ 32 →
    ∀ id, graph.contains id ∨ id = graph.nodes.nextIndex → id < 2 ^ 32
  /-- Verification finds the type of the first output. -/
  firstOutput : ∀ id entry, graph.entry? id = some entry →
    0 < entry.node.outputCount → 0 < entry.types.length
  /-- Verification finds the type of the first operand. -/
  firstOperand : ∀ id entry, graph.entry? id = some entry →
    0 < entry.node.operands.length → 0 < (entry.node.operands.filterMap graph.type?).length
  /-- Every edge of the drawing has a name. -/
  inputNames : ∀ id entry, graph.entry? id = some entry →
    ∀ operand < entry.node.operands.length, operand < entry.node.inputNames.length

/-- The graphs between the single steps of the passes: those that lowering leaves after some visits,
whether it stops or goes on, and those that elimination leaves after some removals. -/
inductive Through (graph : Graph) : Graph → Prop where
  | visits (config : Config) (done : List NodeId) :
      Through graph (Lowering.visitAll config done graph).graph
  | removals {sweep : Sweep}
      (steps : Relation.ReflTransGen (fun sweep next => sweep.step? = some next)
        (Sweep.start graph) sweep) :
      Through graph sweep.graph

variable {graph middle : Graph} {id : NodeId} {entry : Entry}

theorem answer_eq_error_iff (query : Query) (reason : GraphError) :
    query.answer graph = .error reason ↔ ∃ id, query = .existingNode id ∧
      graph.contains id = false ∧ reason = .broken (.emptySlot id) := by
  cases query
  case existingNode id =>
    cases found : graph.entry? id with
    | none =>
        have absent : graph.contains id = false := Store.contains_eq_false_iff.mpr found
        simp only [Query.answer, node?_of_absent found]
        constructor
        · intro same
          exact ⟨id, rfl, absent, (Except.error.inj same).symm⟩
        · rintro ⟨_, same, _, rfl⟩
          cases same
          rfl
    | some entry =>
        have stored : graph.contains id = true := Store.contains_of_get? found
        simp only [Query.answer, node?_eq_some_iff.mpr ⟨entry, found, rfl⟩]
        refine iff_of_false nofun ?_
        rintro ⟨_, same, absent, _⟩
        cases same
        cases stored.symm.trans absent
  all_goals exact iff_of_false nofun nofun

theorem WellFormed.faultless (wellFormed : graph.WellFormed) : graph.Faultless where
  commands := Command.unbroken wellFormed
  queries := answer_eq_error_iff
  removal := by
    intro id stored unread
    obtain ⟨entry, found⟩ := Option.isSome_iff_exists.mp stored
    have foundNode : graph.node? id = some entry.node := node?_eq_some_iff.mpr ⟨entry, found, rfl⟩
    refine ⟨entry, found, ?_⟩
    rw [Edit.remove_of_unread foundNode unread, WellFormed.erase_of_node? foundNode]
  size := wellFormed.storage.size_free_le
  created := by
    intro config mode stats completed
    have summary := ((Lowering.lower_summarizes wellFormed config mode).of_ok completed).1
    exact summary.size_eq.symm
  nextSlot := fun _ => wellFormed.storage.lowestFree?_lt
  ids := by
    rintro fits id (stored | rfl)
    · exact (Store.lt_size_of_contains stored).trans fits
    · exact wellFormed.storage.nextIndex_le.trans_lt fits
  firstOutput := by
    intro id entry found present
    rwa [(wellFormed.entries found).typeCount]
  firstOperand := by
    intro id entry found present
    rwa [(wellFormed.entries found).length_operandTypes]
  inputNames := by
    intro id entry _ operand inRange
    rwa [entry.node.length_inputNames]

end Graph

namespace Reachable

open OpGraph.Graph

variable {graph middle : Graph}

theorem kept_by_rules : Edit.KeptByRules Reachable where
  zero := by
    intro name type graph reachable
    have created := Reachable.step (.createZero name type) reachable
    rwa [Command.edit, Edit.graph_map] at created
  arithmetic := by
    intro name lhs rhs op graph reachable
    have created := Reachable.step (.createArithmetic name lhs rhs op) reachable
    rwa [Command.edit, Edit.graph_map] at created
  redirection := by
    intro source target graph reachable
    have redirected := Reachable.step (.replaceUses source target) reachable
    rwa [Command.edit, Edit.graph_map] at redirected

theorem erase {id : NodeId} (reachable : Reachable graph) (removable : graph.Removable id) :
    Reachable (graph.erase id) := by
  obtain ⟨entry, found, _, unread⟩ := removable
  have removed := Reachable.step (.remove id) reachable
  have foundNode : graph.node? id = some entry.node := node?_eq_some_iff.mpr ⟨entry, found, rfl⟩
  rwa [Command.edit, Edit.graph_map, Edit.remove_of_unread foundNode unread] at removed

theorem removals {sweep : Sweep} (reachable : Reachable graph)
    (steps : Relation.ReflTransGen (fun sweep next => sweep.step? = some next)
      (Sweep.start graph) sweep) :
    Reachable sweep.graph := by
  induction steps with
  | refl => exact reachable
  | tail _ stepped ih =>
      obtain ⟨id, rest, _, ⟨_, rfl⟩ | ⟨entry, removable, rfl⟩⟩ := Sweep.step?_cases stepped
      · exact ih
      · exact ih.erase removable

theorem through (reachable : Reachable graph) (through : graph.Through middle) :
    Reachable middle := by
  cases through with
  | visits config done => exact kept_by_rules.visitAll config done graph reachable
  | removals steps => exact reachable.removals steps

/-- No fault occurs in a reachable graph, nor in any graph that a pass goes through. -/
theorem faultless_throughout (reachable : Reachable graph) :
    graph.Faultless ∧ ∀ middle, graph.Through middle → middle.Faultless :=
  ⟨reachable.wellFormed.faultless,
    fun _ through => (reachable.through through).wellFormed.faultless⟩

end Reachable

namespace Session

/-- A pass over a sum and its gradient that read each other has stopped in the middle of a rule. -/
theorem stopped_faultless :
    let graph := run .empty (cyclicSum ++ [.lower .default .train])
    (Edit.lower .default .train (run .empty cyclicSum)).result =
        .error (.selfRead ⟨4, 1⟩ ⟨3, 0⟩) ∧
      Reachable graph ∧ graph.Reads 3 4 ∧ graph.Reads 4 3 ∧ graph.Faultless ∧
        ∀ middle, graph.Through middle → middle.Faultless := by
  let graph := run .empty (cyclicSum ++ [.lower .default .train])
  have reachable : Reachable graph := reachable_run .empty _
  have forth : 4 ∈ graph.sources 3 := by decide +kernel
  have back : 3 ∈ graph.sources 4 := by decide +kernel
  exact ⟨by decide +kernel, reachable, forth, back, Reachable.faultless_throughout reachable⟩

end Session

end OpGraph
