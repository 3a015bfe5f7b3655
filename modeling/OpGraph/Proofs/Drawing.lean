import OpGraph.Proofs.Reachable

namespace OpGraph

/-! What the text of a graph shows: every node once and every read once, in order.  The break of a
label is put in for two letters wherever they stand in the finished label.  Of all that a label is
made of only the name can hold these letters, so a graph is shown as it is exactly if no name has
them. -/

namespace Dot

/-- The two letters that stand for a break. -/
def placeholder : List Char := ['N', 'L']

variable {chars first second : List Char}

theorem length_breakLabel (chars : List Char) : (breakLabel chars).length = chars.length := by
  fun_induction breakLabel chars with
  | case1 rest ih => simp [ih]
  | case2 c rest _ ih => simp [ih]
  | case3 => rfl

theorem breakLabel_eq_self_iff : breakLabel chars = chars ↔ ¬ placeholder <:+: chars := by
  fun_induction breakLabel chars with
  | case1 rest _ =>
      have found : placeholder <:+: 'N' :: 'L' :: rest := ⟨[], rest, rfl⟩
      simp [found]
  | case2 c rest other ih =>
      have starts : ¬ placeholder <+: c :: rest := by
        rintro ⟨tail, same⟩
        cases same
        exact other tail rfl rfl
      simp [List.infix_cons_iff, starts, ih]
  | case3 => simp [placeholder]

theorem breakLabel_of_not_mem (absent : 'L' ∉ chars) : breakLabel chars = chars :=
  breakLabel_eq_self_iff.mpr fun found => absent (found.subset (by simp [placeholder]))

theorem breakLabel_append (apart : first.getLast? = some 'N' → second.head? ≠ some 'L') :
    breakLabel (first ++ second) = breakLabel first ++ breakLabel second := by
  fun_induction breakLabel first with
  | case1 rest ih =>
      have later : rest.getLast? = some 'N' → second.head? ≠ some 'L' := fun ends =>
        apart (by simp [List.getLast?_cons, ends])
      simp [breakLabel, ih later]
  | case2 c rest other ih =>
      have later : rest.getLast? = some 'N' → second.head? ≠ some 'L' := fun ends =>
        apart (by simp [List.getLast?_cons, ends])
      have joined : ∀ tail, c = 'N' → rest ++ second ≠ 'L' :: tail := by
        rintro tail rfl same
        cases rest with
        | nil => exact apart rfl (by rw [List.nil_append] at same; simp [same])
        | cons next rest =>
            cases same
            exact other rest rfl rfl
      rw [List.cons_append, breakLabel.eq_2 _ _ joined, ih later, List.cons_append]
  | case3 => rfl

/-- A text in which no break begins or ends. -/
def Plain (text : String) : Prop := 'L' ∉ text.toList

instance (text : String) : Decidable (Plain text) :=
  inferInstanceAs (Decidable ('L' ∉ text.toList))

theorem Plain.append {first second : String} (plain : Plain first) (otherPlain : Plain second) :
    Plain (first ++ second) := by
  simpa [Plain] using ⟨plain, otherPlain⟩

theorem Plain.intercalate {separator : String} {texts : List String} (plain : Plain separator)
    (all : ∀ text ∈ texts, Plain text) : Plain (separator.intercalate texts) := by
  induction texts with
  | nil => simp [Plain]
  | cons text rest ih =>
      have first : Plain text := all text (by simp)
      cases rest with
      | nil => simpa using first
      | cons next rest =>
          rw [String.intercalate_cons_cons]
          exact (first.append plain).append (ih fun other member => all other (by simp [member]))

theorem plain_repr (n : Nat) : Plain n.repr := by
  intro member
  rw [Nat.toList_repr] at member
  have isDigit : ('L').isDigit := Nat.isDigit_of_mem_toDigits (by decide) (by decide) member
  cases isDigit

theorem plain_repr_int (n : Int) : Plain n.repr := by
  rw [Int.repr_eq_if]
  split
  · exact plain_repr _
  · exact .append (by decide) (plain_repr _)

theorem plain_pushn (count : Nat) : Plain ("".pushn '0' count) := by
  rw [Plain, String.pushn_eq_repeat_push]
  induction count with
  | zero => simp [Nat.repeat]
  | succ count ih => simpa [Nat.repeat] using ih

theorem plain_positional (decimal : Decimal) : Plain decimal.positional := by
  unfold Decimal.positional
  split
  · exact (plain_repr _).append (plain_pushn _)
  · have padded := (plain_pushn ((-decimal.exponent).toNat + 1 - decimal.digits.repr.length)).append
      (plain_repr decimal.digits)
    refine .append (.append ?_ (by decide)) ?_
    · simpa [Plain] using fun member => padded (List.mem_of_mem_take member)
    · simpa [Plain] using fun member => padded (List.mem_of_mem_drop member)

theorem plain_float (format : FloatFormat) (value : FloatValue) :
    Plain (value.text Constant.floatLayout format) := by
  have words : Plain "NaN" ∧ Plain "-inf" ∧ Plain "inf" := by decide
  cases value with
  | nan => exact words.1
  | infinite negative =>
      cases negative
      · exact words.2.2
      · exact words.2.1
  | finite negative significand exponent =>
      have sign : Plain (if negative then "-" else "") := by cases negative <;> decide
      have integerEnd (isInteger : Prop) [Decidable isInteger] :
          Plain (if isInteger then Constant.floatLayout.integerEnd else "") := by
        split <;> decide
      exact sign.append ((plain_positional _).append (integerEnd _))

theorem plain_constant (value : Constant) : Plain value.text := by
  cases value with
  | bf16 bits => exact plain_float _ _
  | f16 bits => exact plain_float _ _
  | f32 bits => exact plain_float _ _
  | f64 bits => exact plain_float _ _
  | u8 value => exact plain_repr _
  | i8 value => exact plain_repr_int _
  | i16 value => exact plain_repr_int _
  | i32 value => exact plain_repr_int _
  | i64 value => exact plain_repr_int _
  | bool value => cases value <;> decide

theorem plain_kind (node : Node) : Plain node.kind := by
  have operation (op : BinaryOp) : Plain op.name := by cases op <;> decide
  have words : Plain "Variable" ∧ Plain "Save" := by decide
  cases node with
  | input type => exact words.1
  | splat value type => exact .append (.append (by decide) (plain_constant value)) (by decide)
  | arithmetic lhs rhs op => exact operation op
  | gradient lhs rhs result resultGrad op => exact (operation op).append (by decide)
  | save value => exact words.2

theorem plain_type (type : TensorType) : Plain type.text := by
  have element : Plain type.element.name := by cases type.element <;> decide
  have extents : Plain (", ".intercalate (type.shape.map Nat.repr)) :=
    .intercalate (by decide) (by simpa using fun extent _ => plain_repr extent)
  have shape : Plain type.shapeText := .append (.append (by decide) extents) (by decide)
  exact element.append shape

def broken (text : String) : String := String.ofList (breakLabel text.toList)

theorem Plain.broken_eq {text : String} (plain : Plain text) : broken text = text := by
  rw [broken, breakLabel_of_not_mem plain, String.ofList_toList]

theorem broken_eq_self_iff {text : String} :
    broken text = text ↔ ¬ placeholder <:+: text.toList := by
  rw [← breakLabel_eq_self_iff, broken, ← String.toList_inj, String.toList_ofList]

theorem length_broken (text : String) : (broken text).length = text.length := by
  simp [broken, length_breakLabel, String.length_toList]

theorem broken_append {first second : String}
    (apart : first.toList.getLast? = some 'N' → second.toList.head? ≠ some 'L') :
    broken (first ++ second) = broken first ++ broken second := by
  simp [broken, breakLabel_append apart]

theorem broken_append_plain {first second : String} (plain : Plain second) :
    broken (first ++ second) = broken first ++ second := by
  rw [broken_append fun _ begins => plain (List.mem_of_mem_head? begins), plain.broken_eq]

theorem broken_append_placeholder (text : String) : broken (text ++ "NL") = broken text ++ "\\n" :=
  broken_append fun _ => by decide

/-- The label of a vertex under some name. -/
def caption (id : NodeId) (name : String) (entry : Entry) : String :=
  id.repr ++ " " ++ name ++ "\\n" ++ entry.node.kind ++ "\\n" ++
    ", ".intercalate (entry.types.map TensorType.text)

theorem broken_label (id : NodeId) (entry : Entry) :
    broken (label id entry) = caption id (broken entry.name) entry := by
  have front : Plain (id.repr ++ " ") := (plain_repr id).append (by decide)
  have types : Plain (", ".intercalate (entry.types.map TensorType.text)) :=
    .intercalate (by decide) (by simpa using fun type _ => plain_type type)
  have named : broken (id.repr ++ " " ++ entry.name) = id.repr ++ " " ++ broken entry.name := by
    rw [broken_append (by simp), front.broken_eq]
  rw [label, broken_append_plain types, broken_append_placeholder,
    broken_append_plain (plain_kind entry.node), broken_append_placeholder, named, caption]

def vertexLine (id : NodeId) (label : String) (node : Node) : String :=
  "  " ++ id.repr ++ "[label=\"" ++ label ++ "\", shape=" ++ node.shape ++ ", fillcolor=\"" ++
    node.colour ++ "\", style=filled]\n"

def edgeLine (value : Value) (id : NodeId) (inputName : String) : String :=
  "  " ++ value.node.repr ++ " -> " ++ id.repr ++ " [label=\"" ++ inputName ++ "\"]\n"

/-- One line for each operand, in the order of their numbers. -/
def edgeLines (id : NodeId) (node : Node) : List String :=
  List.ofFn fun operand => edgeLine (node.operands.get operand) id
    (node.inputNames.get (operand.cast node.length_inputNames.symm))

def vertexLines (labelOf : NodeId → Entry → String) (nodes : List (NodeId × Entry)) : String :=
  String.join (nodes.map fun (id, entry) => vertexLine id (labelOf id entry) entry.node)

/-- A graph whose nodes are shown under some names. -/
def drawing (shown : String → String) (nodes : List (NodeId × Entry)) : String :=
  header ++ vertexLines (fun id entry => caption id (shown entry.name) entry) nodes ++
    String.join (nodes.flatMap fun (id, entry) => edgeLines id entry.node) ++ "\x7d"

theorem edges_eq_edgeLines (id : NodeId) (node : Node) : edges id node = edgeLines id node := by
  cases node <;> rfl

theorem vertex_eq_vertexLine (id : NodeId) (entry : Entry) :
    vertex id entry = vertexLine id (caption id (broken entry.name) entry) entry.node := by
  rw [← broken_label]
  rfl

theorem broken_vertexLine (id : NodeId) (label : String) (node : Node) :
    broken (vertexLine id label node) = vertexLine id (broken label) node := by
  have front : Plain ("  " ++ id.repr ++ "[label=\"") :=
    .append (.append (by decide) (plain_repr id)) (by decide)
  have shape : Plain node.shape := by cases node <;> simp [Plain, Node.shape]
  have colour : Plain node.colour := by cases node <;> simp [Plain, Node.colour]
  have ends : ("  " ++ id.repr ++ "[label=\"").toList.getLast? = some '"' := by
    rw [String.toList_append, List.getLast?_append]
    rfl
  have labelled : broken ("  " ++ id.repr ++ "[label=\"" ++ label) =
      "  " ++ id.repr ++ "[label=\"" ++ broken label := by
    rw [broken_append fun isN => absurd (ends.symm.trans isN) (by decide), front.broken_eq]
  rw [vertexLine, broken_append_plain (by decide), broken_append_plain colour,
    broken_append_plain (by decide), broken_append_plain shape, broken_append_plain (by decide),
    labelled, vertexLine]

theorem vertexLines_cons (labelOf : NodeId → Entry → String) (id : NodeId) (entry : Entry)
    (rest : List (NodeId × Entry)) : vertexLines labelOf ((id, entry) :: rest) =
      vertexLine id (labelOf id entry) entry.node ++ vertexLines labelOf rest := by
  simp [vertexLines]

theorem head?_vertexLines (labelOf : NodeId → Entry → String) (nodes : List (NodeId × Entry)) :
    (vertexLines labelOf nodes).toList.head? ≠ some 'L' := by
  cases nodes with
  | nil => simp [vertexLines]
  | cons node rest =>
      rw [vertexLines_cons]
      simp [vertexLine]

/-- Breaks are put into the finished text as into every label by itself. -/
theorem broken_vertexLines (labelOf : NodeId → Entry → String) (nodes : List (NodeId × Entry)) :
    broken (header ++ vertexLines labelOf nodes) =
      header ++ vertexLines (fun id entry => broken (labelOf id entry)) nodes := by
  have lines : broken (vertexLines labelOf nodes) =
      vertexLines (fun id entry => broken (labelOf id entry)) nodes := by
    induction nodes with
    | nil => rfl
    | cons node rest ih =>
        rw [vertexLines_cons, vertexLines_cons, broken_append fun _ => head?_vertexLines _ _,
          broken_vertexLine, ih]
  have unbroken : broken header = header := by decide
  rw [broken_append fun _ => head?_vertexLines _ _, unbroken, lines]

theorem vertexLine_inj {id : NodeId} {label other : String} {node : Node} :
    vertexLine id label node = vertexLine id other node ↔ label = other := by
  simp [vertexLine, String.append_assoc]

theorem caption_inj {id : NodeId} {name other : String} {entry : Entry} :
    caption id name entry = caption id other entry ↔ name = other := by
  simp [caption, String.append_assoc]

theorem vertexLines_inj {labelOf otherOf : NodeId → Entry → String}
    {nodes : List (NodeId × Entry)}
    (sameLength : ∀ id entry, (labelOf id entry).length = (otherOf id entry).length) :
    vertexLines labelOf nodes = vertexLines otherOf nodes ↔
      ∀ id entry, (id, entry) ∈ nodes → labelOf id entry = otherOf id entry := by
  induction nodes with
  | nil => simp [vertexLines]
  | cons node rest ih =>
      obtain ⟨id, entry⟩ := node
      rw [vertexLines_cons, vertexLines_cons]
      constructor
      · intro same
        have lengths : (vertexLine id (labelOf id entry) entry.node).toList.length =
            (vertexLine id (otherOf id entry) entry.node).toList.length := by
          simp [vertexLine, sameLength, String.length_toList]
        have joined := congrArg String.toList same
        rw [String.toList_append, String.toList_append] at joined
        obtain ⟨line, later⟩ := List.append_inj joined lengths
        have first := vertexLine_inj.mp (String.toList_inj.mp line)
        have others := ih.mp (String.toList_inj.mp later)
        intro otherId otherEntry member
        rcases List.mem_cons.mp member with same | member
        · cases same
          exact first
        · exact others otherId otherEntry member
      · intro agree
        rw [agree id entry (by simp), ih.mpr fun otherId otherEntry member =>
          agree otherId otherEntry (by simp [member])]

end Dot

/-- The text of a graph shows every node once, in the order of ids, and every read once, in the
order of its reader's id and its number.  Every name is shown with breaks put in for placeholders,
as if they were put into the finished text, so the names are shown as they are exactly if none has a
placeholder in it. -/
theorem Graph.dot_faithful_iff (graph : Graph) :
    ∃ nodes : List (NodeId × Entry),
      (nodes.Pairwise fun first second => first.1 < second.1) ∧
      (∀ id entry, (id, entry) ∈ nodes ↔ graph.entry? id = some entry) ∧
      graph.dot = Dot.drawing Dot.broken nodes ∧
      graph.dot = Dot.broken (Dot.header ++ Dot.vertexLines Dot.label nodes) ++
        String.join (nodes.flatMap fun (id, entry) => Dot.edgeLines id entry.node) ++ "\x7d" ∧
      (graph.dot = Dot.drawing (fun name => name) nodes ↔
        ∀ id entry, graph.entry? id = some entry → ¬ Dot.placeholder <:+: entry.name.toList) := by
  open Dot in
  have shown : graph.dot = drawing broken graph.nodes.entries := by
    simp only [dot, drawing, vertexLines, vertex_eq_vertexLine, edges_eq_edgeLines]
  have finished : broken (header ++ vertexLines label graph.nodes.entries) =
      header ++ vertexLines (fun id entry => caption id (broken entry.name) entry)
        graph.nodes.entries := by
    simp only [broken_vertexLines, broken_label]
  have sameLength : ∀ id entry, (caption id (broken entry.name) entry).length =
      (caption id entry.name entry).length := by
    simp [caption, length_broken]
  refine ⟨graph.nodes.entries, graph.nodes.pairwise_entries, fun _ _ => Store.mem_entries,
    shown, by rw [finished, shown, drawing], ?_⟩
  rw [shown, drawing, drawing, String.append_left_inj, String.append_left_inj,
    String.append_right_inj, vertexLines_inj sameLength]
  simp only [caption_inj, broken_eq_self_iff, Store.mem_entries]
  rfl

namespace Session

/-- A node whose name has the two letters in it, and one that reads it. -/
def placeholderName : List Command :=
  [.createInput "INLINE" scalar, .createSave "kept" ⟨0, 0⟩]

/-- The name is not shown as it is. -/
theorem placeholderName_not_faithful :
    let graph := run .empty placeholderName
    Reachable graph ∧ graph.name? 0 = some "INLINE" ∧
      graph.dot = "strict digraph \x7b\n  ordering=in\n  rank=source\n  rankdir=LR\n" ++
        "  0[label=\"0 I\\nINE\\nVariable\\nF32[]\", shape=box, fillcolor=\"aqua\"" ++
          ", style=filled]\n" ++
        "  1[label=\"1 kept\\nSave\\n\", shape=box, fillcolor=\"coral\", style=filled]\n" ++
        "  0 -> 1 [label=\"Input\"]\n\x7d" ∧
      graph.dot ≠ Dot.drawing (fun name => name) graph.nodes.entries :=
  ⟨reachable_run .empty placeholderName, by decide +kernel⟩

end Session

end OpGraph
