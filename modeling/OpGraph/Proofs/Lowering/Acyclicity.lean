import OpGraph.Proofs.Lowering.Invariant

namespace OpGraph.Graph

/-! Lowering closes no cycle.  Nodes of an acyclic graph can be placed such that every node stands
above what it reads; the two nodes that are created for a gradient are placed right below it, above
all that it reads, and no replacement leads upwards. -/

variable {before after : Graph} {visited : List NodeId} {ledger : Ledger}
  {change replaced : Value → Value} {source target : Value} {user id other : NodeId}
  {rank : NodeId → Nat} {place : Nat}

/-- Places of the nodes that have ranks in a graph, and of those created for its gradients. -/
inductive Placed (before : Graph) (ledger : Ledger) (rank : NodeId → Nat) :
    NodeId → Nat → Prop where
  | old {id : NodeId} (stored : before.contains id) : Placed before ledger rank id (3 * rank id + 2)
  | first {id : NodeId} {expansion : Expansion} (listed : ledger id = some expansion) :
      Placed before ledger rank expansion.first (3 * rank id)
  | second {id : NodeId} {expansion : Expansion} (listed : ledger id = some expansion) :
      Placed before ledger rank expansion.second (3 * rank id + 1)

/-- A ranking that the reads of a graph descend. -/
def Descends (graph : Graph) (rank : NodeId → Nat) : Prop :=
  ∀ user source, graph.Reads user source → rank source < rank user

theorem Replaces.placed (sound : before.WellFormed) (descends : before.Descends rank)
    (replaces : before.Replaces ledger source target) :
    ∃ place, place < 3 * rank source.node + 2 ∧ before.Placed ledger rank target.node place := by
  rcases replaces with forwarded | created
  · obtain ⟨_, _, _, _, found, _⟩ := forward?_eq_some_iff.mp forwarded
    have reads : before.Reads source.node target.node :=
      reads_of_node? found (by simp [Node.operands])
    have lower := descends _ _ reads
    exact ⟨3 * rank target.node + 2, by omega, .old (sound.contains_of_reads reads)⟩
  · obtain ⟨_, _, _, _, _, expansion, _, listed, gradient⟩ := created?_eq_some_iff.mp created
    rcases node_of_gradient? gradient with isFirst | isSecond
    · exact ⟨3 * rank source.node, by omega, isFirst ▸ .first listed⟩
    · exact ⟨3 * rank source.node + 1, by omega, isSecond ▸ .second listed⟩

theorem Placed.old_or_absent (expanded : before.Expanded ledger change after)
    (placed : before.Placed ledger rank id place) :
    (before.contains id ∧ place = 3 * rank id + 2) ∨ before.entry? id = none := by
  cases placed with
  | old stored => exact .inl ⟨stored, rfl⟩
  | first listed => exact .inr (expanded.fresh listed).1
  | second listed => exact .inr (expanded.fresh listed).2.1

theorem placed_of_follows (sound : before.WellFormed) (descends : before.Descends rank)
    (expanded : before.Expanded ledger change after)
    (path : Relation.ReflTransGen (before.Replaces ledger) source target)
    (stored : before.contains source.node) :
    ∃ place, place ≤ 3 * rank source.node + 2 ∧ before.Placed ledger rank target.node place := by
  induction path using Relation.ReflTransGen.head_induction_on with
  | refl => exact ⟨_, Nat.le_refl _, .old stored⟩
  | head replaces rest ih =>
      obtain ⟨place, below, placed⟩ := replaces.placed sound descends
      rcases placed.old_or_absent expanded with ⟨nextStored, rfl⟩ | absent
      · obtain ⟨last, notAbove, lastPlaced⟩ := ih nextStored
        exact ⟨last, by omega, lastPlaced⟩
      · rw [eq_of_follows_absent absent rest]
        exact ⟨place, Nat.le_of_lt below, placed⟩

theorem Lowered.placed_operand (sound : before.WellFormed) (descends : before.Descends rank)
    (lowered : before.Lowered visited ledger replaced after)
    (reads : before.Reads user source.node) :
    ∃ place, place < 3 * rank user ∧ before.Placed ledger rank (replaced source).node place := by
  have lower := descends _ _ reads
  obtain ⟨place, below, placed⟩ := placed_of_follows sound descends lowered.toExpanded
    (lowered.follows source) (sound.contains_of_reads reads)
  exact ⟨place, by omega, placed⟩

theorem Lowered.placed_created {expansion : Expansion} {operand : Value}
    (sound : before.WellFormed) (descends : before.Descends rank)
    (lowered : before.Lowered visited ledger replaced after)
    (listed : ledger id = some expansion)
    (created : user = expansion.first ∨ user = expansion.second)
    (reads : after.ReadBy user operand) :
    (∃ place, place < 3 * rank id ∧ before.Placed ledger rank operand.node place) ∨
      operand.node = expansion.first := by
  obtain ⟨entry, found, member⟩ := readBy_iff.mp reads
  obtain ⟨lhs, rhs, result, resultGrad, op, type, new, isGradient, _, newMember, stored⟩ :=
    lowered.created_at sound listed created
  cases found.symm.trans stored
  refine (Expansion.operands_of_entries newMember member).imp_left fun changed => ?_
  have mapped : operand ∈ [lhs, rhs, resultGrad].map replaced := changed
  obtain ⟨origin, originMember, rfl⟩ := List.mem_map.mp mapped
  refine lowered.placed_operand sound descends (reads_of_node? isGradient ?_)
  simp only [Node.operands, List.mem_cons] at originMember ⊢
  tauto

theorem Lowered.placed_source (sound : before.WellFormed) (descends : before.Descends rank)
    (lowered : before.Lowered visited ledger replaced after)
    (placed : before.Placed ledger rank user place) (reads : after.Reads user other) :
    ∃ lower, lower < place ∧ before.Placed ledger rank other lower := by
  obtain ⟨operand, readBy, rfl⟩ := reads_iff_readBy.mp reads
  obtain ⟨entry, found, member⟩ := readBy_iff.mp readBy
  have apart := (lowered.wellFormed.entries found).noSelfRead operand member
  cases placed with
  | old stored =>
      obtain ⟨old, oldFound⟩ := Option.isSome_iff_exists.mp stored
      cases found.symm.trans (lowered.kept oldFound)
      obtain ⟨origin, originMember, rfl⟩ := Entry.mem_operands_mapOperands.mp member
      obtain ⟨lower, below, lowerPlaced⟩ :=
        lowered.placed_operand sound descends (reads_of_operand oldFound originMember)
      exact ⟨lower, by omega, lowerPlaced⟩
  | first listed =>
      rcases lowered.placed_created sound descends listed (.inl rfl) readBy with below | isFirst
      · exact below
      · exact absurd isFirst apart
  | @second id expansion listed =>
      rcases lowered.placed_created sound descends listed (.inr rfl) readBy with
        ⟨lower, below, lowerPlaced⟩ | isFirst
      · exact ⟨lower, by omega, lowerPlaced⟩
      · exact ⟨3 * rank id, by omega, isFirst ▸ .first listed⟩

theorem Lowered.exists_placed (lowered : before.Lowered visited ledger replaced after)
    (stored : after.contains id) : ∃ place, before.Placed ledger rank id place := by
  rcases lowered.complete stored with old | ⟨gradient, expansion, listed, rfl | rfl⟩
  · exact ⟨_, .old old⟩
  · exact ⟨_, .first listed⟩
  · exact ⟨_, .second listed⟩

/-- At every point of a pass over an acyclic graph the graph is acyclic.  A cycle would lead around to
ever lower places of one node. -/
theorem Lowered.acyclic (sound : before.WellFormed) (acyclic : before.Acyclic)
    (lowered : before.Lowered visited ledger replaced after) : after.Acyclic := by
  obtain ⟨rank, descends⟩ := acyclic.exists_rank
  have below : ∀ {user other place}, Relation.TransGen after.Reads user other →
      before.Placed ledger rank user place →
      ∃ lower, lower < place ∧ before.Placed ledger rank other lower := by
    intro user other place path placed
    induction path with
    | single reads => exact lowered.placed_source sound descends placed reads
    | tail _ reads ih =>
        obtain ⟨middle, middleBelow, middlePlaced⟩ := ih
        obtain ⟨lower, lowerBelow, lowerPlaced⟩ :=
          lowered.placed_source sound descends middlePlaced reads
        exact ⟨lower, Nat.lt_trans lowerBelow middleBelow, lowerPlaced⟩
  intro id cycle
  have stored : after.contains id := by
    obtain ⟨_, reads, _⟩ := Relation.TransGen.head'_iff.mp cycle
    exact reads.contains
  have noPlace : ∀ place, ¬ before.Placed ledger rank id place := by
    intro place
    induction place using Nat.strong_induction_on with
    | _ place ih =>
        intro placed
        obtain ⟨lower, lowerBelow, lowerPlaced⟩ := below cycle placed
        exact ih lower lowerBelow lowerPlaced
  obtain ⟨place, placed⟩ := lowered.exists_placed stored
  exact noPlace place placed

end OpGraph.Graph
