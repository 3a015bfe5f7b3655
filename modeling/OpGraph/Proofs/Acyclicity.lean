import Mathlib.Logic.Relation
import Mathlib.Order.WellFounded
import OpGraph.Proofs.WellFormed

namespace OpGraph.Graph

/-! Acyclic graphs.  A graph has finitely many nodes, so that no cycle is closed exactly if nodes
can be ranked such that every node stands above all nodes that it reads. -/

variable {graph : Graph} {user source : NodeId}

/-- Some operand of one node is an output of the other. -/
def Reads (graph : Graph) (user source : NodeId) : Prop :=
  source ∈ graph.sources user

/-- No chain of reads leads from a node back to it. -/
def Acyclic (graph : Graph) : Prop :=
  ∀ id, ¬ Relation.TransGen graph.Reads id id

theorem reads_iff : graph.Reads user source ↔
    ∃ entry, graph.entry? user = some entry ∧ ∃ operand ∈ entry.node.operands,
      operand.node = source := by
  cases found : graph.entry? user <;> simp [Reads, sources, node?, found]

theorem reads_of_operand {entry : Entry} {operand : Value} (found : graph.entry? user = some entry)
    (member : operand ∈ entry.node.operands) : graph.Reads user operand.node :=
  reads_iff.mpr ⟨entry, found, operand, member, rfl⟩

theorem reads_iff_readBy :
    graph.Reads user source ↔ ∃ value, graph.ReadBy user value ∧ value.node = source := by
  rw [reads_iff]
  constructor
  · intro reads
    obtain ⟨entry, found, operand, member, same⟩ := reads
    exact ⟨operand, readBy_iff.mpr ⟨entry, found, member⟩, same⟩
  · intro reads
    obtain ⟨operand, readBy, same⟩ := reads
    obtain ⟨entry, found, member⟩ := readBy_iff.mp readBy
    exact ⟨entry, found, operand, member, same⟩

theorem Reads.contains (reads : graph.Reads user source) : graph.contains user := by
  obtain ⟨entry, found, _⟩ := reads_iff.mp reads
  exact Store.contains_of_get? found

theorem WellFormed.contains_of_reads (wellFormed : graph.WellFormed)
    (reads : graph.Reads user source) : graph.contains source := by
  obtain ⟨entry, found, operand, member, rfl⟩ := reads_iff.mp reads
  exact wellFormed.contains_operand found member

theorem WellFormed.hasUses_iff_reads (wellFormed : graph.WellFormed) :
    graph.hasUses source ↔ ∃ user, graph.Reads user source := by
  rw [wellFormed.hasUses_iff]
  constructor
  · intro used
    obtain ⟨read, makes, rfl⟩ := used
    obtain ⟨entry, found, member⟩ := operand_of_makes makes
    exact ⟨read.use.user, reads_of_operand found member⟩
  · intro used
    obtain ⟨user, reads⟩ := used
    obtain ⟨entry, found, operand, member, rfl⟩ := reads_iff.mp reads
    obtain ⟨number, makes⟩ := makes_of_operand found member
    exact ⟨_, makes, rfl⟩

theorem Acyclic.mono {other : Graph} (acyclic : graph.Acyclic)
    (fewer : ∀ user source, other.Reads user source → graph.Reads user source) : other.Acyclic :=
  fun id cycle => acyclic id (Relation.TransGen.mono fewer _ _ cycle)

theorem acyclic_of_rank (rank : NodeId → Nat)
    (descends : ∀ user source, graph.Reads user source → rank source < rank user) :
    graph.Acyclic := by
  have below : ∀ {user source}, Relation.TransGen graph.Reads user source →
      rank source < rank user := by
    intro user source path
    induction path with
    | single reads => exact descends _ _ reads
    | tail _ reads ih => exact Nat.lt_trans (descends _ _ reads) ih
  exact fun id cycle => Nat.lt_irrefl _ (below cycle)

theorem acyclic_of_ascending
    (ascending : ∀ id ∈ graph.ids, ∀ source ∈ graph.sources id, source < id) : graph.Acyclic :=
  acyclic_of_rank (fun id => id) fun user source reads =>
    ascending user (Store.mem_indices.mpr reads.contains) source reads

/-- The rank of a node is the number of nodes that chains lead to, itself included. -/
theorem exists_rank_of_listed {related : NodeId → NodeId → Prop} (nodes : List NodeId)
    (listed : ∀ upper lower, related upper lower → upper ∈ nodes)
    (acyclic : ∀ id, ¬ Relation.TransGen related id id) :
    ∃ rank : NodeId → Nat, ∀ upper lower, related upper lower → rank lower < rank upper := by
  classical
  let below (id : NodeId) : List NodeId :=
    nodes.filter fun other => Relation.ReflTransGen related id other
  refine ⟨fun id => (below id).length, fun upper lower step => ?_⟩
  have narrowed : below lower = (below upper).filter fun other =>
      Relation.ReflTransGen related lower other := by
    rw [List.filter_filter]
    refine List.filter_congr fun other _ => ?_
    simpa using fun path => Relation.ReflTransGen.head step path
  have own : upper ∈ below upper := List.mem_filter.mpr ⟨listed _ _ step, decide_eq_true .refl⟩
  have outside : ¬ Relation.ReflTransGen related lower upper := fun path =>
    acyclic upper (Relation.TransGen.head' step path)
  change (below lower).length < (below upper).length
  rw [narrowed]
  exact List.length_filter_lt_length_iff_exists.mpr ⟨upper, own, by simpa using outside⟩

theorem Acyclic.exists_rank (acyclic : graph.Acyclic) :
    ∃ rank : NodeId → Nat, ∀ user source, graph.Reads user source → rank source < rank user :=
  exists_rank_of_listed graph.ids (fun _ _ reads => Store.mem_indices.mpr reads.contains) acyclic

theorem Acyclic.wellFounded (acyclic : graph.Acyclic) :
    WellFounded fun source user => graph.Reads user source := by
  obtain ⟨rank, descends⟩ := acyclic.exists_rank
  exact Subrelation.wf (fun {source user} reads => descends user source reads)
    (InvImage.wf rank Nat.lt_wfRel.wf)

theorem Acyclic.wellFounded_readers (acyclic : graph.Acyclic) (wellFormed : graph.WellFormed) :
    WellFounded graph.Reads := by
  have listed : ∀ source user, graph.Reads user source → source ∈ graph.ids := fun _ _ reads =>
    Store.mem_indices.mpr (wellFormed.contains_of_reads reads)
  obtain ⟨rank, descends⟩ := exists_rank_of_listed graph.ids listed
    fun id cycle => acyclic id (Relation.transGen_swap.mp cycle)
  exact Subrelation.wf (fun {user source} reads => descends source user reads)
    (InvImage.wf rank Nat.lt_wfRel.wf)

end OpGraph.Graph
