import OpGraph.Proofs.Reachable

namespace OpGraph

/-! Which nodes dead code elimination removes: those that nothing wants and that only such nodes
read.  It removes no other nodes, since a node is removed after all its readers; and it misses none,
since a node becomes removable only by the removal of its last reader, and then it is looked at
again. -/

namespace Graph

/-- Nothing wants the node, and all nodes that read it are dead.  This is the least such set, so
that nodes which read each other in a cycle do not make each other dead. -/
inductive Dead (graph : Graph) : NodeId → Prop where
  | intro {id : NodeId} {entry : Entry} (found : graph.entry? id = some entry)
      (unwanted : ¬ entry.node.isRoot) (readers : ∀ user, graph.Reads user id → graph.Dead user) :
      graph.Dead id

/-- No node is left that can be removed. -/
def Settled (graph : Graph) : Prop :=
  ∀ id, ¬ graph.Removable id

variable {graph before after : Graph} {id other : NodeId} {entry : Entry} {ids : List NodeId}

theorem Removable.dead (removable : graph.Removable id) (wellFormed : graph.WellFormed) :
    graph.Dead id := by
  obtain ⟨entry, found, unwanted, unread⟩ := removable
  refine .intro found unwanted fun user reads => ?_
  have used := wellFormed.hasUses_iff_reads.mpr ⟨user, reads⟩
  cases unread.symm.trans used

theorem Dead.of_erase (dead : (before.erase id).Dead other) (gone : before.Dead id) :
    before.Dead other := by
  induction dead with
  | @intro other entry found unwanted _ ih =>
      rw [WellFormed.entry?_erase] at found
      split at found
      · cases found
      · refine .intro found unwanted fun user reads => ?_
        by_cases same : user = id
        · exact same ▸ gone
        · exact ih user (reads_erase_iff.mpr ⟨same, reads⟩)

namespace Eliminates

theorem entry?_eq_some_iff (eliminates : before.Eliminates ids after) :
    after.entry? id = some entry ↔ before.entry? id = some entry ∧ id ∉ ids := by
  induction eliminates with
  | done graph => simp
  | @remove graph after first rest removable _ ih =>
      rw [ih, WellFormed.entry?_erase, List.mem_cons, not_or]
      by_cases same : id = first <;> simp [same]

theorem contains (eliminates : before.Eliminates ids after) (member : id ∈ ids) :
    before.contains id := by
  induction eliminates with
  | done graph => cases member
  | @remove graph after first rest removable _ ih =>
      rcases List.mem_cons.mp member with rfl | later
      · obtain ⟨entry, found, _⟩ := removable
        exact Store.contains_of_get? found
      · obtain ⟨entry, found⟩ := Option.isSome_iff_exists.mp (ih later)
        change Graph.entry? _ id = some entry at found
        rw [WellFormed.entry?_erase] at found
        split at found
        · cases found
        · exact Store.contains_of_get? found

theorem nodup (eliminates : before.Eliminates ids after) : ids.Nodup := by
  induction eliminates with
  | done graph => exact .nil
  | @remove graph after first rest removable later ih =>
      refine List.nodup_cons.mpr ⟨fun again => ?_, ih⟩
      obtain ⟨entry, found⟩ := Option.isSome_iff_exists.mp (later.contains again)
      change Graph.entry? _ first = some entry at found
      rw [WellFormed.entry?_erase, if_pos rfl] at found
      cases found

theorem dead (eliminates : before.Eliminates ids after) (wellFormed : before.WellFormed)
    (member : id ∈ ids) : before.Dead id := by
  induction eliminates with
  | done graph => cases member
  | @remove graph after first rest removable _ ih =>
      have gone := removable.dead wellFormed
      obtain ⟨_, _, _, unread⟩ := removable
      rcases List.mem_cons.mp member with rfl | later
      · exact gone
      · exact (ih (wellFormed.erase unread) later).of_erase gone

theorem mem_of_dead (eliminates : before.Eliminates ids after) (formed : after.WellFormed)
    (settled : after.Settled) (dead : before.Dead id) : id ∈ ids := by
  induction dead with
  | @intro id entry found unwanted _ ih =>
      by_contra left
      refine settled id ⟨entry, eliminates.entry?_eq_some_iff.mpr ⟨found, left⟩, unwanted, ?_⟩
      refine Bool.eq_false_iff.mpr fun used => ?_
      obtain ⟨user, reads⟩ := formed.hasUses_iff_reads.mp used
      obtain ⟨reader, stored, operand, member, rfl⟩ := reads_iff.mp reads
      obtain ⟨earlier, kept⟩ := eliminates.entry?_eq_some_iff.mp stored
      exact kept (ih user (reads_of_operand earlier member))

theorem size_eq (eliminates : before.Eliminates ids after) (wellFormed : before.WellFormed) :
    after.size + ids.length = before.size := by
  induction eliminates with
  | done graph => rfl
  | @remove graph after first rest removable _ ih =>
      obtain ⟨entry, found, _, unread⟩ := removable
      have erased : (graph.erase first).size + 1 = graph.size := by
        rw [size, WellFormed.nodes_erase]
        exact wellFormed.storage.size_erase (Store.contains_of_get? found)
      have later := ih (wellFormed.erase unread)
      rw [List.length_cons]
      omega

end Eliminates

theorem Dead.not_isRoot {node : Node} (dead : graph.Dead id)
    (found : graph.node? id = some node) : ¬ node.isRoot := by
  obtain ⟨stored, unwanted, _⟩ := dead
  obtain ⟨_, same, rfl⟩ := node?_eq_some_iff.mp found
  cases stored.symm.trans same
  exact unwanted

theorem Dead.not_below_save {save : NodeId} {value : Value} (dead : graph.Dead id)
    (isSave : graph.node? save = some (.save value)) :
    ¬ Relation.ReflTransGen graph.Reads save id := by
  induction dead with
  | @intro id entry found unwanted readers ih =>
      intro path
      rcases path.cases_tail with rfl | ⟨user, earlier, reads⟩
      · exact (Dead.intro found unwanted readers).not_isRoot isSave rfl
      · exact ih user reads earlier

theorem not_reads_of_input {type : TensorType} (isInput : graph.node? id = some (.input type)) :
    ¬ graph.Reads id other := by
  simp [Reads, sources, isInput, Node.operands]

/-- A node that is neither a root nor dead has a reader that is not dead, so in an acyclic graph the
readers lead up to a root, and only inputs have no save above them. -/
theorem Acyclic.input_or_below_save (acyclic : graph.Acyclic) (wellFormed : graph.WellFormed)
    (found : graph.entry? id = some entry) (alive : ¬ graph.Dead id) :
    (∃ type, graph.node? id = some (.input type)) ∨
      ∃ save value, graph.node? save = some (.save value) ∧
        Relation.ReflTransGen graph.Reads save id := by
  induction id using (acyclic.wellFounded_readers wellFormed).induction generalizing entry with
  | h id ih =>
      have foundNode : graph.node? id = some entry.node := node?_eq_some_iff.mpr ⟨_, found, rfl⟩
      by_cases isRoot : entry.node.isRoot
      · cases isNode : entry.node with
        | input type => exact .inl ⟨type, isNode ▸ foundNode⟩
        | save value => exact .inr ⟨id, value, isNode ▸ foundNode, .refl⟩
        | splat value type => simp [isNode, Node.isRoot] at isRoot
        | arithmetic lhs rhs op => simp [isNode, Node.isRoot] at isRoot
        | gradient lhs rhs result resultGrad op => simp [isNode, Node.isRoot] at isRoot
      · have needed : ∃ user, graph.Reads user id ∧ ¬ graph.Dead user := by
          by_contra unneeded
          exact alive (.intro found isRoot fun user reads =>
            by_contra fun userAlive => unneeded ⟨user, reads, userAlive⟩)
        obtain ⟨user, reads, userAlive⟩ := needed
        obtain ⟨reader, stored, _⟩ := reads_iff.mp reads
        rcases ih user reads stored userAlive with ⟨type, isInput⟩ | ⟨save, value, isSave, path⟩
        · exact absurd reads (not_reads_of_input isInput)
        · exact .inr ⟨save, value, isSave, path.tail reads⟩

/-- A graph without its dead nodes, and their number. -/
structure Cleared (before : Graph) (count : Nat) (after : Graph) : Prop where
  entry?_eq_some_iff : ∀ id entry,
    after.entry? id = some entry ↔ before.entry? id = some entry ∧ ¬ before.Dead id
  counted : ∃ dead : List NodeId,
    dead.Nodup ∧ (∀ id, id ∈ dead ↔ before.Dead id) ∧ count = dead.length
  size_eq : after.size + count = before.size
  mem_uses_iff : ∀ read, read ∈ after.uses ↔ read ∈ before.uses ∧ ¬ before.Dead read.use.user
  tight : after.uses.Tight
  used : ∀ id node, after.node? id = some node → ¬ node.isRoot → after.hasUses id
  contains_iff : before.Acyclic → ∀ id, after.contains id ↔
    (∃ type, before.node? id = some (.input type)) ∨
      ∃ save value, before.node? save = some (.save value) ∧
        Relation.ReflTransGen before.Reads save id

theorem Settled.hasUses {node : Node} (settled : graph.Settled)
    (found : graph.node? id = some node) (unwanted : ¬ node.isRoot) : graph.hasUses id := by
  obtain ⟨entry, stored, rfl⟩ := node?_eq_some_iff.mp found
  by_contra unread
  exact settled id ⟨entry, stored, unwanted, by simpa using unread⟩

/-- Removals that leave nothing to remove take away exactly the dead nodes, in whatever order. -/
theorem Eliminates.cleared (eliminates : before.Eliminates ids after)
    (wellFormed : before.WellFormed) (settled : after.Settled) :
    before.Cleared ids.length after := by
  have formed := (eliminates.pruned wellFormed).wellFormed
  have member_iff : ∀ id, id ∈ ids ↔ before.Dead id := fun id =>
    ⟨eliminates.dead wellFormed, eliminates.mem_of_dead formed settled⟩
  have kept_iff : ∀ id entry,
      after.entry? id = some entry ↔ before.entry? id = some entry ∧ ¬ before.Dead id := by
    intro id entry
    rw [← member_iff]
    exact eliminates.entry?_eq_some_iff
  refine ⟨kept_iff, ⟨ids, eliminates.nodup, member_iff, rfl⟩, eliminates.size_eq wellFormed, ?_,
    formed.tight, fun id node => settled.hasUses, fun acyclic id => ⟨fun stored => ?_, ?_⟩⟩
  · intro read
    rw [formed.indexed, wellFormed.indexed]
    simp only [Makes, kept_iff]
    grind
  · obtain ⟨entry, found⟩ := Option.isSome_iff_exists.mp stored
    obtain ⟨earlier, alive⟩ := (kept_iff id entry).mp found
    exact acyclic.input_or_below_save wellFormed earlier alive
  · have kept : before.contains id → ¬ before.Dead id → after.contains id := by
      intro stored alive
      obtain ⟨entry, found⟩ := Option.isSome_iff_exists.mp stored
      exact Store.contains_of_get? ((kept_iff id entry).mpr ⟨found, alive⟩)
    rintro (⟨type, isInput⟩ | ⟨save, value, isSave, path⟩)
    · exact kept (contains_of_node? isInput) fun dead => dead.not_isRoot isInput rfl
    · refine kept ?_ fun dead => dead.not_below_save isSave path
      rcases path.cases_tail with rfl | ⟨user, _, reads⟩
      · exact contains_of_node? isSave
      · exact wellFormed.contains_of_reads reads

end Graph

namespace Sweep

open OpGraph.Graph

variable {sweep next : Sweep}

/-- Every node that can be removed is still to be looked at. -/
def Watchful (sweep : Sweep) : Prop :=
  ∀ id, sweep.graph.Removable id → id ∈ sweep.pending

theorem watchful_start (graph : Graph) : (start graph).Watchful := by
  intro id removable
  obtain ⟨entry, found, _⟩ := removable
  exact List.mem_reverse.mpr (Store.mem_indices.mpr (Store.contains_of_get? found))

theorem Watchful.step? (watchful : sweep.Watchful) (wellFormed : sweep.graph.WellFormed)
    (stepped : sweep.step? = some next) : next.Watchful := by
  obtain ⟨id, rest, pending, ⟨needed, rfl⟩ | ⟨entry, removable, rfl⟩⟩ := step?_cases stepped
  · intro other removable
    have waits := watchful other removable
    rw [pending, List.mem_cons] at waits
    exact waits.resolve_left fun same => needed (same ▸ removable)
  · intro other later
    obtain ⟨_, _, _, idUnread⟩ := removable
    have formed := wellFormed.erase idUnread
    obtain ⟨otherEntry, found, unwanted, unread⟩ := later
    rw [WellFormed.entry?_erase] at found
    split at found
    · cases found
    · next different =>
        by_cases used : sweep.graph.hasUses other
        · obtain ⟨user, reads⟩ := wellFormed.hasUses_iff_reads.mp used
          have last : user = id := by
            by_contra kept
            have stillUsed :=
              formed.hasUses_iff_reads.mpr ⟨user, reads_erase_iff.mpr ⟨kept, reads⟩⟩
            cases unread.symm.trans stillUsed
          exact List.mem_append_left _ (List.mem_reverse.mpr (last ▸ reads))
        · have waits := watchful other ⟨otherEntry, found, unwanted, by simpa using used⟩
          rw [pending, List.mem_cons] at waits
          exact List.mem_append_right _ (waits.resolve_left different)

theorem Watchful.finish (watchful : sweep.Watchful) (wellFormed : sweep.graph.WellFormed) :
    sweep.finish.Watchful := by
  fun_induction Sweep.finish sweep with
  | case1 sweep ended => exact watchful
  | case2 sweep next stepped ih =>
      refine ih (watchful.step? wellFormed stepped) ?_
      obtain ⟨id, rest, _, ⟨_, rfl⟩ | ⟨entry, removable, rfl⟩⟩ := step?_cases stepped
      · exact wellFormed
      · obtain ⟨_, _, _, unread⟩ := removable
        exact wellFormed.erase unread

end Sweep

theorem Graph.WellFormed.settled_swept {graph : Graph} (wellFormed : graph.WellFormed) :
    graph.swept.Settled := by
  intro id removable
  have waits := (Sweep.watchful_start graph).finish wellFormed id removable
  simp [Sweep.pending_finish] at waits

/-- Dead code elimination removes exactly the dead nodes and counts them, also when the graph is
cyclic. -/
theorem Reachable.prune_clears {graph : Graph} (reachable : Reachable graph) (verbose : Bool) :
    ∃ count, (Edit.prune verbose graph).result = .ok count ∧
      graph.Cleared count (Edit.prune verbose graph).graph := by
  have wellFormed := reachable.wellFormed
  obtain ⟨ids, counted, eliminates⟩ := Edit.prune_eliminates graph verbose
  exact ⟨ids.length, counted, eliminates.cleared wellFormed wellFormed.settled_swept⟩

/-- After lowering, the chained gradient nodes and all that only they read are dead. -/
theorem Session.chained_prune_clears :
    let graph := Session.run .empty (Session.chainedGradients ++ [.lower .default .train])
    (Edit.prune false graph).result = .ok 10 ∧
      graph.Cleared 10 (Edit.prune false graph).graph := by
  let commands := Session.chainedGradients ++ [.lower .default .train]
  have counted : (Edit.prune false (Session.run .empty commands)).result = .ok 10 := by
    decide +kernel
  obtain ⟨count, same, cleared⟩ :=
    Reachable.prune_clears (Session.reachable_run .empty commands) false
  cases counted.symm.trans same
  exact ⟨counted, cleared⟩

end OpGraph
