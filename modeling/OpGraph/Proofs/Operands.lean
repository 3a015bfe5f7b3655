import OpGraph.Graph.Basic

namespace OpGraph

/-! Changes of operands.  Every edit of a node is a change of some of its operands: the kind of the
node, its constant, its mode, its name and its types stay. -/

/-- One value becomes another, and all others stay. -/
def Value.redirect (source target value : Value) : Value :=
  if value = source then target else value

@[simp] theorem Value.redirect_source (source target : Value) :
    source.redirect target source = target := if_pos rfl

theorem Value.redirect_of_ne {source target value : Value} (different : value ≠ source) :
    source.redirect target value = value := if_neg different

namespace Node

variable {node : Node} {value : Value}

/-- The node with its operands changed, each in view of its number. -/
def mapOperandsIdx (change : Nat → Value → Value) : Node → Node
  | input type => input type
  | splat value type => splat value type
  | arithmetic lhs rhs op => arithmetic (change 0 lhs) (change 1 rhs) op
  | gradient lhs rhs result resultGrad op =>
      gradient (change 0 lhs) (change 1 rhs) (change 2 result) (change 3 resultGrad) op
  | save value => save (change 0 value)

def mapOperands (change : Value → Value) (node : Node) : Node :=
  node.mapOperandsIdx fun _ => change

theorem operands_mapOperandsIdx (change : Nat → Value → Value) (node : Node) :
    (node.mapOperandsIdx change).operands = node.operands.mapIdx change := by
  cases node <;> rfl

@[simp] theorem operands_mapOperands (change : Value → Value) (node : Node) :
    (node.mapOperands change).operands = node.operands.map change := by
  cases node <;> rfl

@[simp] theorem outputCount_mapOperandsIdx (change : Nat → Value → Value) (node : Node) :
    (node.mapOperandsIdx change).outputCount = node.outputCount := by
  cases node <;> rfl

@[simp] theorem outputCount_mapOperands (change : Value → Value) (node : Node) :
    (node.mapOperands change).outputCount = node.outputCount :=
  outputCount_mapOperandsIdx _ node

theorem mapOperands_mapOperands (first second : Value → Value) (node : Node) :
    (node.mapOperands first).mapOperands second = node.mapOperands (second ∘ first) := by
  cases node <;> rfl

theorem mapOperandsIdx_mapOperandsIdx (first second : Nat → Value → Value) (node : Node) :
    (node.mapOperandsIdx first).mapOperandsIdx second =
      node.mapOperandsIdx fun operand value => second operand (first operand value) := by
  cases node <;> rfl

theorem mapOperandsIdx_congr {first second : Nat → Value → Value}
    (agree : ∀ operand value, node.operands[operand]? = some value →
      first operand value = second operand value) :
    node.mapOperandsIdx first = node.mapOperandsIdx second := by
  cases node with
  | input type => rfl
  | splat value type => rfl
  | arithmetic lhs rhs op =>
      simp only [mapOperandsIdx, agree 0 lhs rfl, agree 1 rhs rfl]
  | gradient lhs rhs result resultGrad op =>
      simp only [mapOperandsIdx, agree 0 lhs rfl, agree 1 rhs rfl, agree 2 result rfl,
        agree 3 resultGrad rfl]
  | save value => simp only [mapOperandsIdx, agree 0 value rfl]

theorem mapOperands_congr {first second : Value → Value}
    (agree : ∀ value ∈ node.operands, first value = second value) :
    node.mapOperands first = node.mapOperands second :=
  mapOperandsIdx_congr fun _ value found => agree value (List.mem_of_getElem? found)

@[simp] theorem mapOperands_id (node : Node) : node.mapOperands id = node := by
  cases node <;> rfl

theorem mapOperands_eq_self {change : Value → Value}
    (fixed : ∀ value ∈ node.operands, change value = value) : node.mapOperands change = node :=
  (mapOperands_congr fixed).trans (mapOperands_id node)

theorem setOperand?_eq_some (value : Value) {operand : Nat}
    (present : operand < node.operands.length) :
    node.setOperand? value operand =
      some (node.mapOperandsIdx fun other old => if other = operand then value else old) := by
  cases node with
  | input type => simp [operands] at present
  | splat value type => simp [operands] at present
  | arithmetic lhs rhs op =>
      obtain rfl | rfl : operand = 0 ∨ operand = 1 := by
        simp only [operands, List.length_cons, List.length_nil] at present
        omega
      · rfl
      · rfl
  | gradient lhs rhs result resultGrad op =>
      obtain rfl | rfl | rfl | rfl :
          operand = 0 ∨ operand = 1 ∨ operand = 2 ∨ operand = 3 := by
        simp only [operands, List.length_cons, List.length_nil] at present
        omega
      · rfl
      · rfl
      · rfl
      · rfl
  | save value =>
      obtain rfl : operand = 0 := by simpa [operands] using present
      rfl

theorem mapOperands_eq_gradient {change : Value → Value} {lhs rhs result resultGrad : Value}
    {op : BinaryOp} (changed : node.mapOperands change = gradient lhs rhs result resultGrad op) :
    ∃ lhs₀ rhs₀ result₀ resultGrad₀, node = gradient lhs₀ rhs₀ result₀ resultGrad₀ op := by
  cases node <;> cases changed
  exact ⟨_, _, _, _, rfl⟩

theorem mapOperands_eq_save {change : Value → Value} {value : Value}
    (changed : node.mapOperands change = save value) : ∃ value₀, node = save value₀ := by
  cases node <;> cases changed
  exact ⟨_, rfl⟩

end Node

namespace Entry

/-- The entry with the operands of its node changed, each in view of its number. -/
def mapOperandsIdx (change : Nat → Value → Value) (entry : Entry) : Entry :=
  { entry with node := entry.node.mapOperandsIdx change }

def mapOperands (change : Value → Value) (entry : Entry) : Entry :=
  { entry with node := entry.node.mapOperands change }

@[simp] theorem node_mapOperands (change : Value → Value) (entry : Entry) :
    (entry.mapOperands change).node = entry.node.mapOperands change := rfl

@[simp] theorem name_mapOperands (change : Value → Value) (entry : Entry) :
    (entry.mapOperands change).name = entry.name := rfl

@[simp] theorem types_mapOperands (change : Value → Value) (entry : Entry) :
    (entry.mapOperands change).types = entry.types := rfl

@[simp] theorem length_operands_mapOperandsIdx (change : Nat → Value → Value) (entry : Entry) :
    (entry.mapOperandsIdx change).node.operands.length = entry.node.operands.length := by
  simp [mapOperandsIdx, Node.operands_mapOperandsIdx]

theorem mapOperandsIdx_mapOperandsIdx (first second : Nat → Value → Value) (entry : Entry) :
    (entry.mapOperandsIdx first).mapOperandsIdx second =
      entry.mapOperandsIdx fun operand value => second operand (first operand value) := by
  simp only [mapOperandsIdx, Node.mapOperandsIdx_mapOperandsIdx]

@[simp] theorem mapOperandsIdx_self (entry : Entry) :
    entry.mapOperandsIdx (fun _ value => value) = entry := by
  obtain ⟨name, node, types⟩ := entry
  cases node <;> rfl

theorem mem_operands_mapOperands {change : Value → Value} {entry : Entry} {operand : Value} :
    operand ∈ (entry.mapOperands change).node.operands ↔
      ∃ value ∈ entry.node.operands, change value = operand := by
  simp

theorem mapOperands_mapOperands (first second : Value → Value) (entry : Entry) :
    (entry.mapOperands first).mapOperands second = entry.mapOperands (second ∘ first) := by
  simp only [mapOperands, Node.mapOperands_mapOperands]

theorem mapOperands_congr {entry : Entry} {first second : Value → Value}
    (agree : ∀ value ∈ entry.node.operands, first value = second value) :
    entry.mapOperands first = entry.mapOperands second := by
  simp only [mapOperands, Node.mapOperands_congr agree]

@[simp] theorem mapOperands_id (entry : Entry) : entry.mapOperands id = entry := by
  simp [mapOperands]

end Entry

end OpGraph
