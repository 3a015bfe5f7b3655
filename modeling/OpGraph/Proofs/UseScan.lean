import OpGraph.Proofs.Redirection

namespace OpGraph

/-! The index answers what a scan of all nodes answers.  Ids ascend along the nodes and operand
numbers along the operands of each, so a scan meets the readers of a value in the order in which the
index keeps them.  Whether a node is read at all is a question about a range of the index, which has
a value in it only as long as that value has readers. -/

/-- The order of places: by node, and within a node by operand. -/
def Use.Before (first second : Use) : Prop :=
  first.user < second.user ∨ first.user = second.user ∧ first.operand < second.operand

theorem Use.compare_eq_lt_iff {first second : Use} :
    compare first second = .lt ↔ first.Before second := by
  simp [Use.compare_eq, Use.Before, Ordering.then_eq_lt, Nat.compare_eq_lt]

theorem Use.Before.not_before {first second : Use} (before : first.Before second) :
    ¬ second.Before first := by
  grind [Use.Before]

theorem Use.Before.ne {first second : Use} (before : first.Before second) : first ≠ second := by
  rintro rfl
  exact before.not_before before

/-- The values from the first possible output of a node to its last one, in the order of values. -/
def Value.InRangeOf (id : NodeId) (value : Value) : Prop :=
  (compare (⟨id, 0⟩ : Value) value).isLE ∧ (compare value ⟨id, 255⟩).isLE

theorem Value.inRangeOf_iff {id : NodeId} {value : Value} :
    value.InRangeOf id ↔ value.node = id ∧ value.output ≤ 255 := by
  simp only [InRangeOf, Value.compare_eq, Ordering.isLE_then_iff_or, Nat.compare_eq_lt,
    Nat.isLE_compare, Nat.compare_eq_eq]
  grind

theorem Node.outputCount_le (node : Node) : node.outputCount ≤ 2 := by
  cases node <;> simp [outputCount, outputNames]

namespace Graph

variable {graph : Graph} {id : NodeId} {value : Value} {read : Read}

/-- The places that read a value, found by looking at all nodes. -/
def scan (graph : Graph) (value : Value) : List Use :=
  (graph.allReads.filter (·.value = value)).map (·.use)

theorem mem_scan {use : Use} : use ∈ graph.scan value ↔ graph.Makes ⟨value, use⟩ := by
  simp only [scan, List.mem_map, List.mem_filter, mem_allReads, decide_eq_true_eq]
  constructor
  · rintro ⟨read, ⟨makes, rfl⟩, rfl⟩
    exact makes
  · intro makes
    exact ⟨⟨value, use⟩, ⟨makes, rfl⟩, rfl⟩

theorem readsAs_ascending (node : Node) (id : NodeId) :
    (node.readsAs id).Pairwise fun first second => first.use.Before second.use := by
  have numbered : node.operands.zipIdx.Pairwise fun first second => first.2 < second.2 := by
    rw [← List.pairwise_map (R := (· < ·)), List.zipIdx_map_snd]
    exact List.pairwise_lt_range'
  exact List.pairwise_map.mpr (numbered.imp fun before => .inr ⟨rfl, before⟩)

theorem allReads_ascending (graph : Graph) :
    graph.allReads.Pairwise fun first second => first.use.Before second.use := by
  refine List.pairwise_flatMap.mpr ⟨fun entry _ => readsAs_ascending _ _, ?_⟩
  refine graph.nodes.pairwise_entries.imp fun before first firstReads second secondReads => .inl ?_
  rw [(mem_readsAs.mp firstReads).1, (mem_readsAs.mp secondReads).1]
  exact before

theorem scan_ascending (graph : Graph) (value : Value) : (graph.scan value).Pairwise Use.Before :=
  List.pairwise_map.mpr (graph.allReads_ascending.filter _)

namespace WellFormed

/-- Two lists that ascend are equal if they have the same members. -/
theorem users_eq_scan (wellFormed : graph.WellFormed) (value : Value) :
    graph.users value = graph.scan value := by
  have ascending : (graph.users value).Pairwise Use.Before :=
    (graph.uses.users_ascending value).imp Use.compare_eq_lt_iff.mp
  have once : (graph.scan value).Nodup := (graph.scan_ascending value).imp Use.Before.ne
  have same : (graph.users value).Perm (graph.scan value) := by
    refine (List.perm_ext_iff_of_nodup (graph.uses.nodup_users value) once).mpr fun use => ?_
    exact wellFormed.mem_users.trans mem_scan.symm
  exact same.eq_of_pairwise (fun _ _ _ _ before after => absurd after before.not_before)
    ascending (graph.scan_ascending value)

theorem output_le (wellFormed : graph.WellFormed) (makes : graph.Makes read) :
    read.value.output ≤ 255 := by
  obtain ⟨entry, found, member⟩ := operand_of_makes makes
  obtain ⟨type, typed⟩ := wellFormed.type?_exists found member
  obtain ⟨source, stored, output⟩ := type?_eq_some_iff.mp typed
  have inRange := (List.getElem?_eq_some_iff.mp output).1
  have bounded := source.node.outputCount_le
  rw [(wellFormed.entries stored).typeCount] at inRange
  omega

theorem hasUses_iff_inRange (wellFormed : graph.WellFormed) :
    graph.hasUses id ↔ ∃ value, graph.uses.contains value ∧ value.InRangeOf id := by
  simp only [wellFormed.hasUses_iff, wellFormed.contains_uses_iff, Value.inRangeOf_iff]
  constructor
  · rintro ⟨⟨value, use⟩, makes, rfl⟩
    exact ⟨value, ⟨use, makes⟩, rfl, wellFormed.output_le makes⟩
  · rintro ⟨value, ⟨use, makes⟩, same, _⟩
    exact ⟨⟨value, use⟩, makes, same⟩

theorem hasUses_iff_reads_output (wellFormed : graph.WellFormed) :
    graph.hasUses id ↔ ∃ output ≤ 255, ∃ user entry, graph.entry? user = some entry ∧
      ⟨id, output⟩ ∈ entry.node.operands := by
  rw [wellFormed.hasUses_iff]
  constructor
  · rintro ⟨⟨⟨_, output⟩, use⟩, makes, rfl⟩
    obtain ⟨entry, found, member⟩ := operand_of_makes makes
    exact ⟨output, wellFormed.output_le makes, use.user, entry, found, member⟩
  · rintro ⟨output, _, user, entry, found, member⟩
    obtain ⟨number, makes⟩ := makes_of_operand found member
    exact ⟨_, makes, rfl⟩

end WellFormed

end Graph

/-- What the index says of a value, and of a node that exists or not, is what the nodes say. -/
theorem Reachable.index_answers_scan {graph : Graph} (reachable : Reachable graph) :
    (∀ value, graph.users value = graph.scan value ∧
      (graph.users value).Pairwise Use.Before ∧
      (∀ user operand, ⟨user, operand⟩ ∈ graph.users value ↔
        ∃ entry, graph.entry? user = some entry ∧ entry.node.operands[operand]? = some value) ∧
      graph.useCount value = (graph.scan value).length) ∧
    ∀ id, (graph.hasUses id ↔ ∃ value, graph.uses.contains value ∧ value.InRangeOf id) ∧
      (graph.hasUses id ↔ ∃ output ≤ 255, ∃ user entry, graph.entry? user = some entry ∧
        ⟨id, output⟩ ∈ entry.node.operands) := by
  have wellFormed := reachable.wellFormed
  refine ⟨fun value => ?_, fun id => ⟨wellFormed.hasUses_iff_inRange,
    wellFormed.hasUses_iff_reads_output⟩⟩
  have scanned := wellFormed.users_eq_scan value
  exact ⟨scanned, scanned ▸ graph.scan_ascending value, fun _ _ => wellFormed.mem_users,
    congrArg List.length scanned⟩

namespace Session

/-- Two operands of one node and one of another move to a value that is read before and behind
them; the node that takes the removed one's id reads it as well. -/
def rewiredReaders : List Command :=
  [.createInput "x" scalar, .createInput "unused" scalar, .createInput "y" scalar,
    .createArithmetic "twice" ⟨0, 0⟩ ⟨0, 0⟩ .mul, .createArithmetic "both" ⟨0, 0⟩ ⟨2, 0⟩ .add,
    .createSave "kept" ⟨0, 0⟩, .remove 1, .createSave "first" ⟨2, 0⟩, .replaceUses ⟨0, 0⟩ ⟨2, 0⟩,
    .remove 0]

/-- The node that was redirected away from is gone, and nothing reads it any more. -/
theorem rewiredReaders_scan :
    let graph := run .empty rewiredReaders
    Reachable graph ∧ graph.scan ⟨2, 0⟩ = [⟨1, 0⟩, ⟨3, 0⟩, ⟨3, 1⟩, ⟨4, 0⟩, ⟨4, 1⟩, ⟨5, 0⟩] ∧
      graph.users ⟨2, 0⟩ = graph.scan ⟨2, 0⟩ ∧ graph.useCount ⟨2, 0⟩ = 6 ∧
        graph.users ⟨0, 0⟩ = [] ∧ ¬ graph.hasUses 0 := by
  have reachable := reachable_run .empty rewiredReaders
  have answers := Reachable.index_answers_scan reachable
  have found : (run .empty rewiredReaders).scan ⟨2, 0⟩ =
      [⟨1, 0⟩, ⟨3, 0⟩, ⟨3, 1⟩, ⟨4, 0⟩, ⟨4, 1⟩, ⟨5, 0⟩] := by
    decide +kernel
  have none : (run .empty rewiredReaders).scan ⟨0, 0⟩ = [] := by decide +kernel
  have unread : (run .empty rewiredReaders).hasUses 0 = false := by decide +kernel
  exact ⟨reachable, found, (answers.1 _).1, (answers.1 _).2.2.2.trans (congrArg List.length found),
    (answers.1 _).1.trans none, by simp [unread]⟩

end Session

end OpGraph
