import OpGraph.Proofs.Acyclicity
import OpGraph.Proofs.Pruning

namespace OpGraph.Graph

/-! What edits do to cycles.  A new node is read by nothing, and a removed node takes its reads with
it, so that neither closes a cycle.  A redirection does exactly if the node of its target reads its
source, be it through other nodes. -/

variable {before after : Graph} {user id other : NodeId} {entry : Entry}
  {source target value : Value}

/-- The node reads the value, directly or through the nodes that it reads. -/
def DependsOn (graph : Graph) (id : NodeId) (value : Value) : Prop :=
  ∃ reader, Relation.ReflTransGen graph.Reads id reader ∧ graph.ReadBy reader value

theorem WellFormed.reads_insert (wellFormed : before.WellFormed)
    (sound : entry.Sound before.type? before.nodes.nextIndex)
    (reads : (before.insert entry).Reads user other) :
    other ≠ before.nodes.nextIndex ∧ (user = before.nodes.nextIndex ∨ before.Reads user other) := by
  obtain ⟨reader, found, operand, member, rfl⟩ := reads_iff.mp reads
  rw [wellFormed.entry?_insert] at found
  split at found
  · next added =>
      cases found
      exact ⟨sound.noSelfRead operand member, .inl added⟩
  · obtain ⟨type, typed⟩ := wellFormed.type?_exists found member
    exact ⟨wellFormed.node_ne_nextIndex typed, .inr (reads_of_operand found member)⟩

theorem Acyclic.insert (acyclic : before.Acyclic) (wellFormed : before.WellFormed)
    (sound : entry.Sound before.type? before.nodes.nextIndex) :
    (before.insert entry).Acyclic := by
  have old : ∀ {user other}, Relation.TransGen (before.insert entry).Reads user other →
      other ≠ before.nodes.nextIndex ∧
        (user = before.nodes.nextIndex ∨ Relation.TransGen before.Reads user other) := by
    intro user other path
    induction path with
    | single reads => exact (wellFormed.reads_insert sound reads).imp_right (.imp_right .single)
    | tail _ reads ih =>
        obtain ⟨present, added | earlier⟩ := wellFormed.reads_insert sound reads
        · exact absurd added ih.1
        · exact ⟨present, ih.2.imp_right (·.tail earlier)⟩
  intro id cycle
  obtain ⟨present, added | earlier⟩ := old cycle
  · exact present added
  · exact acyclic id earlier

theorem Acyclic.extended (acyclic : before.Acyclic) (wellFormed : before.WellFormed)
    (extended : before.ExtendedTo after) : after.Acyclic := by
  cases extended with
  | refl => exact acyclic
  | insert sound => exact acyclic.insert wellFormed sound

theorem Acyclic.erase (acyclic : before.Acyclic) (id : NodeId) : (before.erase id).Acyclic :=
  acyclic.mono fun _ _ reads => (reads_erase_iff.mp reads).2

theorem Acyclic.pruned (acyclic : before.Acyclic) (pruned : before.Pruned after) :
    after.Acyclic :=
  acyclic.mono fun _ _ => pruned.reads_before

namespace Rewired

theorem readBy_iff (rewired : before.Rewired source target after) :
    after.ReadBy user value ↔
      ∃ old, before.ReadBy user old ∧ source.redirect target old = value := by
  simp only [Graph.readBy_iff, rewired.entry?_eq]
  cases found : before.entry? user with
  | none => simp
  | some entry => simp

theorem readBy_target (rewired : before.Rewired source target after)
    (reads : before.ReadBy user source) : after.ReadBy user target :=
  rewired.readBy_iff.mpr ⟨source, reads, Value.redirect_source source target⟩

theorem reads_before (rewired : before.Rewired source target after)
    (reads : after.Reads user other) :
    before.Reads user other ∨ (before.ReadBy user source ∧ other = target.node) := by
  obtain ⟨value, readBy, rfl⟩ := reads_iff_readBy.mp reads
  obtain ⟨old, oldReadBy, rfl⟩ := rewired.readBy_iff.mp readBy
  by_cases same : old = source
  · subst same
    exact .inr ⟨oldReadBy, by rw [Value.redirect_source]⟩
  · rw [Value.redirect_of_ne same]
    exact .inl (reads_iff_readBy.mpr ⟨old, oldReadBy, rfl⟩)

theorem reads_of_not_readBy (rewired : before.Rewired source target after)
    (unread : ¬ before.ReadBy user source) (reads : before.Reads user other) :
    after.Reads user other := by
  obtain ⟨value, readBy, rfl⟩ := reads_iff_readBy.mp reads
  have different : value ≠ source := fun same => unread (same ▸ readBy)
  exact reads_iff_readBy.mpr
    ⟨value, rewired.readBy_iff.mpr ⟨value, readBy, Value.redirect_of_ne different⟩, rfl⟩

/-- A chain of reads is an old one, or it leads to a reader of the source at first and from the
target in the end. -/
theorem path_before (rewired : before.Rewired source target after)
    (path : Relation.TransGen after.Reads user other) :
    Relation.TransGen before.Reads user other ∨
      (before.DependsOn user source ∧ Relation.ReflTransGen before.Reads target.node other) := by
  induction path with
  | single reads =>
      rcases rewired.reads_before reads with earlier | ⟨moved, rfl⟩
      · exact .inl (.single earlier)
      · exact .inr ⟨⟨user, .refl, moved⟩, .refl⟩
  | tail _ reads ih =>
      rcases rewired.reads_before reads with earlier | ⟨moved, rfl⟩
      · exact ih.imp (·.tail earlier) (.imp_right (·.tail earlier))
      · rcases ih with oldPath | ⟨depends, _⟩
        · exact .inr ⟨⟨_, oldPath.to_reflTransGen, moved⟩, .refl⟩
        · exact .inr ⟨depends, .refl⟩

/-- The first reader of the source on an old chain of reads is still reached: no read before it was
redirected. -/
theorem exists_reader (rewired : before.Rewired source target after)
    (depends : before.DependsOn id source) :
    ∃ reader, Relation.ReflTransGen after.Reads id reader ∧ before.ReadBy reader source := by
  obtain ⟨last, path, lastReads⟩ := depends
  induction path using Relation.ReflTransGen.head_induction_on with
  | refl => exact ⟨last, .refl, lastReads⟩
  | @head user next reads _ ih =>
      by_cases readsSource : before.ReadBy user source
      · exact ⟨user, .refl, readsSource⟩
      · obtain ⟨reader, rest, readerReads⟩ := ih
        exact ⟨reader, .head (rewired.reads_of_not_readBy readsSource reads) rest, readerReads⟩

theorem acyclic_iff (rewired : before.Rewired source target after) (acyclic : before.Acyclic) :
    after.Acyclic ↔ ¬ before.DependsOn target.node source := by
  constructor
  · intro stillAcyclic depends
    obtain ⟨reader, path, reads⟩ := rewired.exists_reader depends
    have back : after.Reads reader target.node :=
      reads_iff_readBy.mpr ⟨target, rewired.readBy_target reads, rfl⟩
    exact stillAcyclic target.node (.tail' path back)
  · intro independent id cycle
    rcases rewired.path_before cycle with earlier | ⟨⟨reader, path, reads⟩, fromTarget⟩
    · exact acyclic id earlier
    · exact independent ⟨reader, fromTarget.trans path, reads⟩

end Rewired

end OpGraph.Graph
