import OpGraph.Proofs.WellFormed

namespace OpGraph

/-! The three changes that a graph undergoes: a node is added, the readers of a value are made to
read another one, a node without readers is removed.  Each keeps a well-formed graph well-formed. -/

namespace Graph.WellFormed

variable {graph : Graph} {id : NodeId} {entry : Entry} {value : Value} {type : TensorType}

theorem empty : Graph.empty.WellFormed where
  storage := Store.sound_empty
  entries := by
    intro id entry found
    cases found
  indexed := by
    intro read
    refine iff_of_false (UseIndex.not_mem_empty read) ?_
    intro makes
    obtain ⟨entry, found, _⟩ := makes
    cases found
  tight := UseIndex.tight_empty

theorem entry?_nextIndex (wellFormed : graph.WellFormed) :
    graph.entry? graph.nodes.nextIndex = none :=
  wellFormed.storage.get?_nextIndex

theorem node_ne_nextIndex (wellFormed : graph.WellFormed) (typed : graph.type? value = some type) :
    value.node ≠ graph.nodes.nextIndex := by
  intro same
  obtain ⟨entry, found, _⟩ := type?_eq_some_iff.mp typed
  rw [same, wellFormed.entry?_nextIndex] at found
  cases found

theorem entry?_insert (wellFormed : graph.WellFormed) (entry : Entry) (id : NodeId) :
    Graph.entry? (graph.insert entry) id =
      if id = graph.nodes.nextIndex then some entry else graph.entry? id :=
  wellFormed.storage.get?_insert entry id

theorem entry?_insert_self (wellFormed : graph.WellFormed) (entry : Entry) :
    Graph.entry? (graph.insert entry) graph.nodes.nextIndex = some entry := by
  rw [wellFormed.entry?_insert, if_pos rfl]

theorem entry?_insert_of_some (wellFormed : graph.WellFormed) (new : Entry)
    (found : graph.entry? id = some entry) : Graph.entry? (graph.insert new) id = some entry := by
  have different : id ≠ graph.nodes.nextIndex := by
    intro same
    subst same
    cases wellFormed.entry?_nextIndex.symm.trans found
  rw [wellFormed.entry?_insert, if_neg different, found]

theorem type?_insert (wellFormed : graph.WellFormed) (entry : Entry)
    (typed : graph.type? value = some type) : (graph.insert entry).type? value = some type := by
  simpa [type?, wellFormed.entry?_insert, wellFormed.node_ne_nextIndex typed] using typed

theorem type?_insert_self (wellFormed : graph.WellFormed) (name : String) (node : Node)
    (type : TensorType) :
    (graph.insert ⟨name, node, [type]⟩).type? ⟨graph.nodes.nextIndex, 0⟩ = some type :=
  type?_eq_some_iff.mpr ⟨_, wellFormed.entry?_insert_self _, rfl⟩

theorem readBy_insert_self (wellFormed : graph.WellFormed) (entry : Entry) :
    (graph.insert entry).ReadBy graph.nodes.nextIndex value ↔ value ∈ entry.node.operands := by
  simp [readBy_iff, wellFormed.entry?_insert_self]

theorem readBy_insert_of_ne (wellFormed : graph.WellFormed) (entry : Entry)
    (different : id ≠ graph.nodes.nextIndex) :
    (graph.insert entry).ReadBy id value ↔ graph.ReadBy id value := by
  rw [readBy_iff, wellFormed.entry?_insert, if_neg different, readBy_iff]

theorem size_insert (wellFormed : graph.WellFormed) (entry : Entry) :
    (graph.insert entry).size = graph.size + 1 :=
  wellFormed.storage.size_insert entry

theorem insert (wellFormed : graph.WellFormed)
    (sound : entry.Sound graph.type? graph.nodes.nextIndex) :
    (graph.insert entry).WellFormed where
  storage := wellFormed.storage.insert entry
  entries := by
    intro id other found
    have kept : other.Sound graph.type? id := by
      rw [wellFormed.entry?_insert] at found
      split at found
      · next added =>
          cases found
          exact added ▸ sound
      · exact wellFormed.entries found
    refine kept.congr fun operand member => ?_
    obtain ⟨type, typed⟩ := kept.operandsExist operand member
    rw [wellFormed.type?_insert entry typed, typed]
  indexed := by
    intro read
    have inserted : read ∈ (graph.insert entry).uses ↔ _ := UseIndex.mem_insertAll
    rw [inserted, wellFormed.indexed, mem_readsAs]
    simp only [Makes, wellFormed.entry?_insert]
    by_cases added : read.use.user = graph.nodes.nextIndex
    · simp [added, wellFormed.entry?_nextIndex]
    · simp [added]
  tight := wellFormed.tight.insertAll _

theorem sound_zero {typeOf : Value → Option TensorType} {name : String} :
    Entry.Sound typeOf id ⟨name, .splat (.zero type.element) type, [type]⟩ :=
  ⟨rfl, by simp [Node.operands], ⟨Constant.element_zero _, rfl⟩, by simp [Node.operands]⟩

theorem sound_arithmetic (wellFormed : graph.WellFormed) {name : String} {lhs rhs : Value}
    {op : BinaryOp} (lhsType : graph.type? lhs = some type)
    (rhsType : graph.type? rhs = some type) :
    Entry.Sound graph.type? graph.nodes.nextIndex ⟨name, .arithmetic lhs rhs op, [type]⟩ := by
  have typed : ∀ operand ∈ [lhs, rhs], graph.type? operand = some type := by
    simp [lhsType, rhsType]
  exact ⟨rfl, fun operand member => ⟨type, typed operand member⟩, ⟨type, typed, by simp⟩,
    fun operand member => wellFormed.node_ne_nextIndex (typed operand member)⟩

theorem erase_of_node? {graph : Graph} {id : NodeId} {node : Node}
    (found : graph.node? id = some node) : graph.erase id =
      { nodes := graph.nodes.erase id, uses := graph.uses.eraseAll (node.readsAs id) } := by
  simp only [Graph.erase, found]

theorem nodes_erase (graph : Graph) (id : NodeId) :
    (graph.erase id).nodes = graph.nodes.erase id := by
  unfold Graph.erase
  split
  · next absent =>
      have unused : graph.nodes.contains id = false := node?_eq_none_iff.mp absent
      simp [Store.erase, unused]
  · rfl

theorem entry?_erase (graph : Graph) (id other : NodeId) :
    Graph.entry? (graph.erase id) other = if other = id then none else graph.entry? other := by
  rw [Graph.entry?, nodes_erase]
  exact Store.get?_erase graph.nodes id other

theorem erase (wellFormed : graph.WellFormed) (unread : graph.hasUses id = false) :
    (graph.erase id).WellFormed := by
  have elsewhere : ∀ read, graph.Makes read → read.value.node ≠ id := by
    intro read makes same
    have used : graph.hasUses id := wellFormed.hasUses_iff.mpr ⟨read, makes, same⟩
    simp [unread] at used
  cases found : graph.node? id with
  | none => simpa [Graph.erase, found] using wellFormed
  | some node =>
      have erased := erase_of_node? found
      refine ⟨?_, ?_, ?_, ?_⟩
      · rw [erased]
        exact wellFormed.storage.erase id
      · intro other entry stored
        rw [entry?_erase] at stored
        split at stored
        · cases stored
        · have sound := wellFormed.entries stored
          refine sound.congr fun operand member => ?_
          obtain ⟨number, makes⟩ := makes_of_operand stored member
          simp [type?, entry?_erase, elsewhere _ makes]
      · intro read
        have remaining : read ∈ (graph.erase id).uses ↔
            read ∈ graph.uses ∧ read ∉ node.readsAs id := by
          rw [erased]
          exact UseIndex.mem_eraseAll
        obtain ⟨entry, stored, rfl⟩ := Option.map_eq_some_iff.mp found
        rw [remaining, wellFormed.indexed, mem_readsAs]
        simp only [Makes, entry?_erase]
        by_cases same : read.use.user = id
        · simp [same, stored]
        · simp [same]
      · rw [erased]
        exact wellFormed.tight.eraseAll _

theorem setOperand_ok {nodes : Store Entry} {use : Use} (target : Value)
    (found : nodes.get? use.user = some entry)
    (inRange : use.operand < entry.node.operands.length) :
    ∃ after, Graph.setOperand target nodes use = .ok after ∧
      (nodes.Sound → after.Sound) ∧
      after.free = nodes.free ∧ after.slots.size = nodes.slots.size ∧
      ∀ id, after.get? id = (nodes.get? id).map (Entry.mapOperandsIdx fun operand value =>
        if ⟨id, operand⟩ = use then target else value) := by
  refine ⟨nodes.replace use.user (entry.mapOperandsIdx fun operand value =>
      if operand = use.operand then target else value),
    by simp only [Graph.setOperand, found, Node.setOperand?_eq_some target inRange]; rfl,
    fun sound => sound.replace _ _, Store.free_replace _ _ _, Store.size_slots_replace _ _ _, ?_⟩
  intro id
  rw [Store.get?_replace, Store.contains_of_get? found]
  obtain ⟨user, operand⟩ := use
  by_cases same : id = user
  · subst same
    simp [found, Entry.mapOperandsIdx]
  · cases nodes.get? id <;> simp [same]

/-- The operands at the listed places are made to read the target, and nothing else changes. -/
theorem foldlM_setOperand (target : Value) (uses : List Use) {nodes : Store Entry}
    (sound : nodes.Sound)
    (present : ∀ use ∈ uses, ∃ entry, nodes.get? use.user = some entry ∧
      use.operand < entry.node.operands.length) :
    ∃ after, uses.foldlM (Graph.setOperand target) nodes = .ok after ∧ after.Sound ∧
      after.free = nodes.free ∧ after.slots.size = nodes.slots.size ∧
      ∀ id, after.get? id = (nodes.get? id).map (Entry.mapOperandsIdx fun operand value =>
        if ⟨id, operand⟩ ∈ uses then target else value) := by
  induction uses generalizing nodes with
  | nil => exact ⟨nodes, rfl, sound, rfl, rfl, fun id => by cases nodes.get? id <;> simp⟩
  | cons use rest ih =>
      obtain ⟨entry, found, inRange⟩ := present use (by simp)
      obtain ⟨next, stepped, nextSound, nextFree, nextSize, nextGet⟩ :=
        setOperand_ok target found inRange
      obtain ⟨after, completed, afterSound, afterFree, afterSize, afterGet⟩ :=
        ih (nextSound sound) fun other member => by
          obtain ⟨entry, found, inRange⟩ := present other (by simp [member])
          exact ⟨_, by rw [nextGet, found]; rfl, by simpa using inRange⟩
      refine ⟨after, by rw [List.foldlM_cons, stepped]; exact completed, afterSound,
        afterFree.trans nextFree, afterSize.trans nextSize, fun id => ?_⟩
      rw [afterGet, nextGet, Option.map_map]
      refine congrArg (fun change => (nodes.get? id).map change) (funext fun entry => ?_)
      rw [Function.comp_apply, Entry.mapOperandsIdx_mapOperandsIdx]
      congr 1
      funext operand value
      by_cases later : (⟨id, operand⟩ : Use) ∈ rest <;> simp [later]

end Graph.WellFormed

/-- The graph itself, or the graph with one more node that fits into it. -/
inductive Graph.ExtendedTo (before : Graph) : Graph → Prop where
  | refl : before.ExtendedTo before
  | insert {entry : Entry} (sound : entry.Sound before.type? before.nodes.nextIndex) :
      before.ExtendedTo (before.insert entry)

theorem Graph.ExtendedTo.wellFormed {before after : Graph} (extended : before.ExtendedTo after)
    (wellFormed : before.WellFormed) : after.WellFormed := by
  cases extended with
  | refl => exact wellFormed
  | insert sound => exact wellFormed.insert sound

/-- A well-formed graph in which the readers of one value were made to read another; nothing else
changed, and the same slots stay free. -/
structure Graph.Rewired (before : Graph) (source target : Value) (after : Graph) : Prop where
  wellFormed : after.WellFormed
  entry?_eq : ∀ id, after.entry? id =
    (before.entry? id).map (Entry.mapOperands (source.redirect target))
  free_eq : after.nodes.free = before.nodes.free
  size_eq : after.nodes.slots.size = before.nodes.slots.size

namespace Graph

variable {graph after : Graph} {source target : Value} {type : TensorType}

theorem type?_of_entry?_eq {change : Value → Value}
    (entries : ∀ id, after.entry? id = (graph.entry? id).map (Entry.mapOperands change))
    (value : Value) : after.type? value = graph.type? value := by
  cases found : graph.entry? value.node <;> simp [type?, entries, found]

theorem Rewired.type?_eq (rewired : graph.Rewired source target after) (value : Value) :
    after.type? value = graph.type? value :=
  type?_of_entry?_eq rewired.entry?_eq value

theorem Rewired.graph_size_eq (rewired : graph.Rewired source target after) :
    after.size = graph.size := by
  simp only [size, Store.size, rewired.free_eq, rewired.size_eq]

theorem Rewired.absent_before {id : NodeId} (rewired : graph.Rewired source target after)
    (absent : after.entry? id = none) : graph.entry? id = none := by
  rw [rewired.entry?_eq] at absent
  exact Option.map_eq_none_iff.mp absent

theorem Rewired.refl (wellFormed : graph.WellFormed)
    (idle : ∀ use, graph.Makes ⟨source, use⟩ → source = target) :
    graph.Rewired source target graph where
  wellFormed := wellFormed
  entry?_eq := by
    intro id
    cases found : graph.entry? id with
    | none => rfl
    | some entry =>
        have fixed : ∀ value ∈ entry.node.operands, source.redirect target value = value := by
          intro value member
          by_cases same : value = source
          · obtain ⟨number, makes⟩ := makes_of_operand found member
            rw [same, Value.redirect_source, idle _ (same ▸ makes)]
          · exact Value.redirect_of_ne same
        simp [Entry.mapOperands, Node.mapOperands_eq_self fixed]
  free_eq := rfl
  size_eq := rfl

/-- In a well-formed graph every redirection between values of one type succeeds, unless it would
make the node of the target read itself. -/
theorem WellFormed.redirect (wellFormed : graph.WellFormed)
    (sourceType : graph.type? source = some type) (targetType : graph.type? target = some type)
    (apart : ∀ use, graph.Makes ⟨source, use⟩ → use.user ≠ target.node) :
    ∃ after, graph.redirect source target = .ok after ∧ graph.Rewired source target after := by
  have present : ∀ use ∈ graph.users source, ∃ entry, graph.nodes.get? use.user = some entry ∧
      use.operand < entry.node.operands.length := by
    intro use member
    obtain ⟨entry, found, reads⟩ := wellFormed.mem_users.mp member
    exact ⟨entry, found, (List.getElem?_eq_some_iff.mp reads).1⟩
  obtain ⟨nodes, completed, sound, free, size, get⟩ :=
    WellFormed.foldlM_setOperand target (graph.users source) wellFormed.storage present
  let after : Graph := { nodes := nodes, uses := graph.uses.redirect source target }
  have entries : ∀ id, after.entry? id =
      (graph.entry? id).map (Entry.mapOperands (source.redirect target)) := by
    intro id
    refine (get id).trans ?_
    cases found : graph.entry? id with
    | none => exact congrArg _ found
    | some entry =>
        refine (congrArg _ found).trans (congrArg some ?_)
        refine congrArg (Entry.mk entry.name · entry.types) (Node.mapOperandsIdx_congr ?_)
        intro operand value reads
        have reader : (⟨id, operand⟩ : Use) ∈ graph.users source ↔ value = source := by
          simp [wellFormed.mem_users, Makes, found, reads]
        simp only [reader, Value.redirect]
  refine ⟨after, by simp only [Graph.redirect, completed]; rfl, ⟨?_, entries, free, size⟩⟩
  refine ⟨sound, ?_, ?_, wellFormed.tight.redirect source target⟩
  · intro id changed stored
    obtain ⟨entry, found, rfl⟩ := Option.map_eq_some_iff.mp ((entries id).symm.trans stored)
    refine (wellFormed.entries found).mapOperands (fun value member => ?_) fun value member => ?_
    · rw [type?_of_entry?_eq entries]
      by_cases same : value = source
      · rw [same, Value.redirect_source, targetType, sourceType]
      · rw [Value.redirect_of_ne same]
    · by_cases same : value = source
      · obtain ⟨number, makes⟩ := makes_of_operand found member
        rw [same, Value.redirect_source]
        exact (apart _ (same ▸ makes)).symm
      · rw [Value.redirect_of_ne same]
        exact (wellFormed.entries found).noSelfRead value member
  · intro read
    have moved : read ∈ after.uses ↔ _ := UseIndex.mem_redirect
    simp only [moved, wellFormed.indexed, Makes, entries]
    cases found : graph.entry? read.use.user with
    | none => simp
    | some entry =>
        simp only [Option.map_some, Option.some.injEq, exists_eq_left', Entry.node_mapOperands,
          Node.operands_mapOperands, List.getElem?_map]
        cases reads : entry.node.operands[read.use.operand]? with
        | none => simp
        | some value =>
            by_cases same : value = source
            · simp only [same, Value.redirect_source, Option.map_some, Option.some.injEq]
              grind
            · simp only [Value.redirect_of_ne same, Option.map_some, Option.some.injEq]
              grind

end Graph

end OpGraph
