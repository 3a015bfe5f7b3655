import OpGraph.Graph.Verify
import OpGraph.Graph.Rewire
import OpGraph.Proofs.Operands
import OpGraph.Proofs.Storage

namespace OpGraph

/-! Well-formed graphs: operands exist, types agree, no node reads itself, and the index holds
exactly the reads that the nodes make. -/

/-- All operands and all outputs have one common type. -/
def Entry.OneType (typeOf : Value → Option TensorType) (entry : Entry) : Prop :=
  ∃ type, (∀ operand ∈ entry.node.operands, typeOf operand = some type) ∧
    ∀ output ∈ entry.types, output = type

/-- The types of a node agree with each other, with those of its operands, and with what the node
says of itself. -/
def Entry.WellTyped (typeOf : Value → Option TensorType) (entry : Entry) : Prop :=
  match entry.node with
  | .input type => entry.types = [type]
  | .splat value type => value.element = type.element ∧ entry.types = [type]
  | .arithmetic _ _ _ | .gradient _ _ _ _ _ => entry.OneType typeOf
  | .save _ => True

/-- What holds of every entry of a graph in which values have the given types. -/
structure Entry.Sound (typeOf : Value → Option TensorType) (id : NodeId) (entry : Entry) :
    Prop where
  typeCount : entry.types.length = entry.node.outputCount
  operandsExist : ∀ operand ∈ entry.node.operands, ∃ type, typeOf operand = some type
  wellTyped : entry.WellTyped typeOf
  noSelfRead : ∀ operand ∈ entry.node.operands, operand.node ≠ id

/-- Some node has the read's value at the read's place. -/
def Graph.Makes (graph : Graph) (read : Read) : Prop :=
  ∃ entry, graph.entry? read.use.user = some entry ∧
    entry.node.operands[read.use.operand]? = some read.value

/-- Some operand of the node is the value. -/
def Graph.ReadBy (graph : Graph) (user : NodeId) (value : Value) : Prop :=
  ∃ operand, graph.Makes ⟨value, ⟨user, operand⟩⟩

structure Graph.WellFormed (graph : Graph) : Prop where
  storage : graph.nodes.Sound
  entries : ∀ {id : NodeId} {entry : Entry}, graph.entry? id = some entry →
    entry.Sound graph.type? id
  indexed : ∀ read, read ∈ graph.uses ↔ graph.Makes read
  tight : graph.uses.Tight

namespace Entry

variable {typeOf otherTypeOf : Value → Option TensorType} {id : NodeId} {entry : Entry}

theorem OneType.mapOperands {change : Value → Value} (typed : entry.OneType typeOf)
    (keepsTypes : ∀ value ∈ entry.node.operands, otherTypeOf (change value) = typeOf value) :
    (entry.mapOperands change).OneType otherTypeOf := by
  obtain ⟨type, operandTypes, outputTypes⟩ := typed
  refine ⟨type, fun operand member => ?_, outputTypes⟩
  obtain ⟨value, present, rfl⟩ := mem_operands_mapOperands.mp member
  rw [keepsTypes value present]
  exact operandTypes value present

/-- Changed operands are as good as the old ones if they have their types and are no outputs of
the node itself. -/
theorem Sound.mapOperands {change : Value → Value} (sound : entry.Sound typeOf id)
    (keepsTypes : ∀ value ∈ entry.node.operands, otherTypeOf (change value) = typeOf value)
    (apart : ∀ value ∈ entry.node.operands, (change value).node ≠ id) :
    (entry.mapOperands change).Sound otherTypeOf id where
  typeCount := by simpa using sound.typeCount
  operandsExist := by
    intro operand member
    obtain ⟨value, present, rfl⟩ := mem_operands_mapOperands.mp member
    rw [keepsTypes value present]
    exact sound.operandsExist value present
  wellTyped := by
    have typed := sound.wellTyped
    obtain ⟨name, node, types⟩ := entry
    cases node with
    | input type => exact typed
    | splat value type => exact typed
    | arithmetic lhs rhs op => exact OneType.mapOperands typed keepsTypes
    | gradient lhs rhs result resultGrad op => exact OneType.mapOperands typed keepsTypes
    | save value => trivial
  noSelfRead := by
    intro operand member
    obtain ⟨value, present, rfl⟩ := mem_operands_mapOperands.mp member
    exact apart value present

theorem Sound.congr (sound : entry.Sound typeOf id)
    (keepsTypes : ∀ value ∈ entry.node.operands, otherTypeOf value = typeOf value) :
    entry.Sound otherTypeOf id := by
  have changed : (entry.mapOperands fun value => value).Sound otherTypeOf id :=
    sound.mapOperands keepsTypes sound.noSelfRead
  exact (mapOperands_id entry).subst changed

theorem Sound.gradient_types {lhs rhs result resultGrad : Value} {op : BinaryOp}
    (sound : entry.Sound typeOf id)
    (isGradient : entry.node = .gradient lhs rhs result resultGrad op) :
    ∃ type, entry.types = [type, type] ∧ typeOf lhs = some type ∧ typeOf rhs = some type ∧
      typeOf result = some type ∧ typeOf resultGrad = some type := by
  have typed := sound.wellTyped
  have count := sound.typeCount
  simp only [WellTyped, OneType, isGradient, Node.operands, List.mem_cons, List.not_mem_nil,
    or_false, forall_eq_or_imp, forall_eq] at typed
  obtain ⟨type, ⟨lhsType, rhsType, resultType, resultGradType⟩, outputs⟩ := typed
  refine ⟨type, ?_, lhsType, rhsType, resultType, resultGradType⟩
  rw [isGradient] at count
  exact List.eq_replicate_iff.mpr ⟨count, outputs⟩

theorem Sound.length_operandTypes (sound : entry.Sound typeOf id) :
    (entry.node.operands.filterMap typeOf).length = entry.node.operands.length := by
  refine List.filterMap_length_eq_length.mpr fun operand member => ?_
  obtain ⟨type, typed⟩ := sound.operandsExist operand member
  simp [typed]

theorem Sound.typeFlaw?_eq_none (sound : entry.Sound typeOf id) :
    entry.typeFlaw? id (entry.node.operands.filterMap typeOf) = none := by
  have typed := sound.wellTyped
  obtain ⟨name, node, types⟩ := entry
  cases node with
  | input type =>
      have outputTypes : types = [type] := typed
      simp [typeFlaw?, outputTypes]
  | splat value type =>
      obtain ⟨element, outputTypes⟩ : value.element = type.element ∧ types = [type] := typed
      simp [typeFlaw?, element, outputTypes]
  | arithmetic lhs rhs op =>
      obtain ⟨type, operandTypes, outputTypes⟩ := typed
      have lhsType : typeOf lhs = some type := operandTypes lhs (by simp [Node.operands])
      have rhsType : typeOf rhs = some type := operandTypes rhs (by simp [Node.operands])
      simpa [typeFlaw?, Node.operands, lhsType, rhsType] using outputTypes
  | gradient lhs rhs result resultGrad op =>
      obtain ⟨outputType, rfl, lhsType, rhsType, resultType, resultGradType⟩ :=
        sound.gradient_types rfl
      simp [typeFlaw?, Node.operands, lhsType, rhsType, resultType, resultGradType]
  | save value => rfl

end Entry

namespace Graph

variable {graph : Graph} {id : NodeId} {entry : Entry} {value : Value} {read : Read}

theorem type?_eq_some_iff {type : TensorType} :
    graph.type? value = some type ↔
      ∃ entry, graph.entry? value.node = some entry ∧ entry.types[value.output]? = some type := by
  simp [type?, Option.bind_eq_some_iff]

theorem node?_eq_some_iff {node : Node} :
    graph.node? id = some node ↔ ∃ entry, graph.entry? id = some entry ∧ entry.node = node := by
  simp [node?]

theorem node?_eq_none_iff : graph.node? id = none ↔ graph.contains id = false :=
  Option.map_eq_none_iff.trans Store.contains_eq_false_iff.symm

theorem contains_of_node? {node : Node} (found : graph.node? id = some node) :
    graph.contains id := by
  obtain ⟨entry, stored, _⟩ := node?_eq_some_iff.mp found
  exact Store.contains_of_get? stored

theorem node?_of_absent (absent : graph.entry? id = none) : graph.node? id = none := by
  rw [node?, absent, Option.map_none]

theorem ne_of_absent {other : NodeId} {node : Node} (found : graph.node? id = some node)
    (absent : graph.entry? other = none) : other ≠ id := by
  intro same
  subst same
  cases (node?_of_absent absent).symm.trans found

theorem mem_readsAs {node : Node} : read ∈ node.readsAs id ↔
    read.use.user = id ∧ node.operands[read.use.operand]? = some read.value := by
  obtain ⟨value, user, operand⟩ := read
  simp only [Node.readsAs, List.mem_map, Prod.exists, List.mem_zipIdx_iff_getElem?, Read.mk.injEq,
    Use.mk.injEq]
  constructor
  · intro listed
    obtain ⟨_, _, found, rfl, rfl, rfl⟩ := listed
    exact ⟨rfl, found⟩
  · intro reads
    obtain ⟨rfl, found⟩ := reads
    exact ⟨_, _, found, rfl, rfl, rfl⟩

theorem mem_allReads : read ∈ graph.allReads ↔ graph.Makes read := by
  simp only [allReads, List.mem_flatMap, Prod.exists, Store.mem_entries, mem_readsAs]
  constructor
  · intro listed
    obtain ⟨_, entry, found, rfl, reads⟩ := listed
    exact ⟨entry, found, reads⟩
  · intro makes
    obtain ⟨entry, found, reads⟩ := makes
    exact ⟨_, entry, found, rfl, reads⟩

theorem makes_of_operand {operand : Value} (found : graph.entry? id = some entry)
    (member : operand ∈ entry.node.operands) : ∃ number, graph.Makes ⟨operand, ⟨id, number⟩⟩ := by
  obtain ⟨number, inRange, rfl⟩ := List.mem_iff_getElem.mp member
  exact ⟨number, entry, found, List.getElem?_eq_getElem inRange⟩

theorem operand_of_makes (makes : graph.Makes read) :
    ∃ entry, graph.entry? read.use.user = some entry ∧ read.value ∈ entry.node.operands := by
  obtain ⟨entry, found, reads⟩ := makes
  exact ⟨entry, found, List.mem_of_getElem? reads⟩

theorem readBy_iff : graph.ReadBy id value ↔
    ∃ entry, graph.entry? id = some entry ∧ value ∈ entry.node.operands := by
  constructor
  · intro reads
    obtain ⟨operand, makes⟩ := reads
    exact operand_of_makes makes
  · intro reads
    obtain ⟨entry, found, member⟩ := reads
    exact makes_of_operand found member

namespace WellFormed

theorem type?_exists (wellFormed : graph.WellFormed) (found : graph.entry? id = some entry)
    {operand : Value} (member : operand ∈ entry.node.operands) :
    ∃ type, graph.type? operand = some type :=
  (wellFormed.entries found).operandsExist operand member

theorem contains_operand (wellFormed : graph.WellFormed) (found : graph.entry? id = some entry)
    {operand : Value} (member : operand ∈ entry.node.operands) : graph.contains operand.node := by
  obtain ⟨type, typed⟩ := wellFormed.type?_exists found member
  obtain ⟨source, stored, _⟩ := type?_eq_some_iff.mp typed
  exact Store.contains_of_get? stored

theorem uses_eq (wellFormed : graph.WellFormed) : graph.uses = UseIndex.ofList graph.allReads :=
  wellFormed.tight.ext (UseIndex.tight_ofList _) fun read => by
    rw [wellFormed.indexed, UseIndex.mem_ofList, mem_allReads]

theorem mem_users (wellFormed : graph.WellFormed) {use : Use} :
    use ∈ graph.users value ↔ graph.Makes ⟨value, use⟩ :=
  UseIndex.mem_users.trans (wellFormed.indexed _)

theorem hasUses_iff (wellFormed : graph.WellFormed) :
    graph.hasUses id ↔ ∃ read, graph.Makes read ∧ read.value.node = id := by
  simp only [hasUses, wellFormed.tight.readsNode_iff, wellFormed.indexed]

theorem contains_uses_iff (wellFormed : graph.WellFormed) :
    graph.uses.contains value ↔ ∃ use, graph.Makes ⟨value, use⟩ := by
  simp only [wellFormed.tight.contains_iff, wellFormed.indexed]

theorem entryFlaw?_eq_none (wellFormed : graph.WellFormed)
    (found : graph.entry? id = some entry) : graph.entryFlaw? id entry = none := by
  have sound := wellFormed.entries found
  have reads :
      (entry.node.readsAs id).find? (fun read => graph.type? read.value = none) = none := by
    refine List.find?_eq_none.mpr fun read member => ?_
    obtain ⟨type, typed⟩ := sound.operandsExist read.value
      (List.mem_of_getElem? (mem_readsAs.mp member).2)
    simp [typed]
  simp only [entryFlaw?, sound.typeCount, ne_eq, not_true_eq_false, if_false, reads]
  exact sound.typeFlaw?_eq_none

theorem flaw?_eq_none (wellFormed : graph.WellFormed) : graph.flaw? = none := by
  refine Option.or_eq_none_iff.mpr ⟨List.findSome?_eq_none_iff.mpr ?_, ?_⟩
  · rintro ⟨id, entry⟩ member
    exact wellFormed.entryFlaw?_eq_none (Store.mem_entries.mp member)
  · simp [indexFlaw?, wellFormed.uses_eq.symm]

theorem verify_ok (wellFormed : graph.WellFormed) : Edit.verify graph = ⟨.ok (), graph, []⟩ := by
  simp [Edit.verify, Edit.bind_apply, Edit.ask, wellFormed.flaw?_eq_none, Edit.pure_apply]

end WellFormed

end Graph

end OpGraph
