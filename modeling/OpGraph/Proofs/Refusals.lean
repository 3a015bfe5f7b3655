import OpGraph.Proofs.Reachable

namespace OpGraph

/-! When edits are refused.  What a graph refuses is said here in terms of its nodes: which values
exist, which types they have, and which node reads which.  Two of the edits decide it by the index
instead, which comes to the same in every graph that a session can lead to.  A refused edit has
changed nothing. -/

namespace Command

/-- Whether a command creates one node, redirects the readers of one value or removes one node. -/
def isElementary : Command → Bool
  | .verify | .lower _ _ | .prune | .optimize _ _ => false
  | _ => true

/-- Why a graph refuses such a command, each reason with what it takes. -/
inductive RefusedBy (graph : Graph) : Command → GraphError → Prop where
  | splatType {name : String} {value : Constant} {type : TensorType}
      (different : value.element ≠ type.element) :
      RefusedBy graph (.createSplat name value type) (.splatType name type value)
  | missingLhs {name : String} {lhs rhs : Value} {op : BinaryOp}
      (absent : graph.type? lhs = none) :
      RefusedBy graph (.createArithmetic name lhs rhs op) (.missingValue lhs)
  | missingRhs {name : String} {lhs rhs : Value} {op : BinaryOp} {lhsType : TensorType}
      (lhsTyped : graph.type? lhs = some lhsType) (absent : graph.type? rhs = none) :
      RefusedBy graph (.createArithmetic name lhs rhs op) (.missingValue rhs)
  | arithmeticTypes {name : String} {lhs rhs : Value} {op : BinaryOp}
      {lhsType rhsType : TensorType} (lhsTyped : graph.type? lhs = some lhsType)
      (rhsTyped : graph.type? rhs = some rhsType) (different : lhsType ≠ rhsType) :
      RefusedBy graph (.createArithmetic name lhs rhs op) (.arithmeticTypes op name lhsType rhsType)
  | missingForwardLhs {name : String} {lhs rhs result resultGrad : Value} {op : BinaryOp}
      (absent : graph.type? lhs = none) :
      RefusedBy graph (.createGradient name lhs rhs result resultGrad op) (.missingValue lhs)
  | gradientOperands {name : String} {lhs rhs result resultGrad : Value} {op : BinaryOp}
      {type : TensorType} {reason : GraphError} (lhsTyped : graph.type? lhs = some type)
      (refuses : graph.RefusesOperands op name type [rhs, result, resultGrad] reason) :
      RefusedBy graph (.createGradient name lhs rhs result resultGrad op) reason
  | missingInput {name : String} {value : Value} (absent : graph.type? value = none) :
      RefusedBy graph (.createSave name value) (.missingValue value)
  | redirection {source target : Value} {reason : GraphError}
      (refuses : graph.RefusesRedirection source target reason) :
      RefusedBy graph (.replaceUses source target) reason
  | missingNode {id : NodeId} (absent : graph.contains id = false) :
      RefusedBy graph (.remove id) (.missingNode id)
  | stillUsed {id user : NodeId} (reads : graph.Reads user id) :
      RefusedBy graph (.remove id) (.stillUsed id)

end Command

namespace Edit

open Command

variable {graph : Graph}

/-- An edit that fails, and then for a reason of the given kind, has not changed the graph. -/
def RefusedOnly (refuses : GraphError → Prop) (edit : Edit α) (graph : Graph) : Prop :=
  (edit graph).Meets (fun _ _ => True) fun reason after => refuses reason ∧ after = graph

theorem createArithmetic_refused (name : String) (lhs rhs : Value) (op : BinaryOp) :
    RefusedOnly (RefusedBy graph (.createArithmetic name lhs rhs op))
      (createArithmetic name lhs rhs op) graph := by
  simp only [RefusedOnly, createArithmetic, meets_bind, meets_typeOf]
  refine ⟨fun lhsType lhsTyped => ⟨fun rhsType rhsTyped => ?_, fun absent => ?_⟩, fun absent => ?_⟩
  · split
    · trivial
    · next different => exact ⟨.arithmeticTypes lhsTyped rhsTyped different, rfl⟩
  · exact ⟨.missingRhs lhsTyped absent, trivial⟩
  · exact ⟨.missingLhs absent, trivial⟩

theorem createGradient_refused (name : String) (lhs rhs result resultGrad : Value)
    (op : BinaryOp) :
    RefusedOnly (RefusedBy graph (.createGradient name lhs rhs result resultGrad op))
      (createGradient name lhs rhs result resultGrad op) graph := by
  simp only [RefusedOnly, createGradient, meets_bind, meets_typeOf, meets_insert]
  refine ⟨fun type typed => ?_, fun absent => ⟨.missingForwardLhs absent, trivial⟩⟩
  refine (requireTypes_ends op name type [rhs, result, resultGrad]).mono (fun _ _ _ => trivial)
    fun reason after refused => ?_
  exact ⟨.gradientOperands typed refused.1, refused.2⟩

theorem remove_refused (wellFormed : graph.WellFormed) (id : NodeId) :
    RefusedOnly (RefusedBy graph (.remove id)) (remove id) graph := by
  simp only [RefusedOnly, remove, meets_bind, meets_ask, meets_orFail]
  refine ⟨fun node found => ?_, fun absent => ?_⟩
  · split
    · next used =>
        obtain ⟨user, reads⟩ := wellFormed.hasUses_iff_reads.mp used
        exact ⟨.stillUsed reads, rfl⟩
    · trivial
  · exact ⟨.missingNode (Graph.node?_eq_none_iff.mp absent), trivial⟩

end Edit

theorem Command.refused_of_error {graph : Graph} {command : Command}
    (wellFormed : graph.WellFormed) (elementary : command.isElementary) :
    Edit.RefusedOnly (command.RefusedBy graph) command.edit graph := by
  cases command <;> rw [Edit.RefusedOnly, Command.edit, Edit.meets_map]
  case createInput name type => trivial
  case createSplat name value type =>
    unfold Edit.createSplat
    split
    · trivial
    · next different => exact ⟨.splatType different, rfl⟩
  case createZero name type => trivial
  case createArithmetic name lhs rhs op => exact Edit.createArithmetic_refused name lhs rhs op
  case createGradient name lhs rhs result resultGrad op =>
    exact Edit.createGradient_refused name lhs rhs result resultGrad op
  case createSave name value =>
    simp only [Edit.createSave, Edit.meets_bind, Edit.meets_typeOf, Edit.meets_insert]
    exact ⟨fun _ _ => trivial, fun absent => ⟨.missingInput absent, trivial⟩⟩
  case replaceUses source target =>
    refine (Edit.replaceUses_ends wellFormed source target).mono (fun _ _ _ => trivial)
      fun reason after refused => ?_
    exact ⟨.redirection refused.1, refused.2⟩
  case remove id => exact Edit.remove_refused wellFormed id
  all_goals cases elementary

variable {graph : Graph} {reason : GraphError}

theorem Graph.RefusesOperands.fails {op : BinaryOp} {name : String} {type : TensorType}
    {operands : List Value} (refuses : graph.RefusesOperands op name type operands reason) :
    (Edit.requireTypes op name type operands graph).Meets (fun _ _ => False)
      (fun other _ => other = reason) := by
  induction refuses with
  | missing absent => simp [Edit.requireTypes, absent]
  | types typed different => simp [Edit.requireTypes, typed, different]
  | later typed _ ih => simpa [Edit.requireTypes, typed] using ih

theorem Graph.RefusesRedirection.fails {source target : Value} (wellFormed : graph.WellFormed)
    (refuses : graph.RefusesRedirection source target reason) :
    (Edit.replaceUses source target graph).Meets (fun _ _ => False)
      (fun other _ => other = reason) := by
  cases refuses with
  | missingSource absent => simp [Edit.replaceUses, absent]
  | missingTarget sourceTyped absent => simp [Edit.replaceUses, sourceTyped, absent]
  | types sourceTyped targetTyped different =>
      simp [Edit.replaceUses, sourceTyped, targetTyped, different]
  | selfRead sourceTyped targetTyped different reads =>
      have used : ∃ use ∈ graph.users source, use.user = target.node := by
        simpa using wellFormed.any_users_iff.mpr reads
      simp [Edit.replaceUses, sourceTyped, targetTyped, different, used]

theorem Command.RefusedBy.fails {command : Command} (refused : command.RefusedBy graph reason)
    (wellFormed : graph.WellFormed) :
    (command.edit graph).Meets (fun _ _ => False) (fun other _ => other = reason) := by
  cases refused <;> rw [Command.edit, Edit.meets_map]
  case splatType different => simp [Edit.createSplat, different]
  case missingLhs absent => simp [Edit.createArithmetic, absent]
  case missingRhs lhsTyped absent => simp [Edit.createArithmetic, lhsTyped, absent]
  case arithmeticTypes lhsTyped rhsTyped different =>
    simp [Edit.createArithmetic, lhsTyped, rhsTyped, different]
  case missingForwardLhs absent => simp [Edit.createGradient, absent]
  case gradientOperands lhsTyped refuses =>
    simpa [Edit.createGradient, lhsTyped] using
      refuses.fails.mono (fun _ _ impossible => impossible.elim) fun _ _ same => same
  case missingInput absent => simp [Edit.createSave, absent]
  case redirection refuses => exact refuses.fails wellFormed
  case missingNode id absent =>
    simp [Edit.remove, Graph.node?_eq_none_iff.mpr absent]
  case stillUsed id user reads =>
    have used := wellFormed.hasUses_iff_reads.mpr ⟨user, reads⟩
    simp [Edit.remove, Graph.node?_eq_none_iff, wellFormed.contains_of_reads reads, used]

def GraphError.concernsTypes : GraphError → Bool
  | .splatType _ _ _ | .arithmeticTypes _ _ _ _ | .gradientTypes _ _ _ _ _
  | .replacementTypes _ _ _ _ => true
  | _ => false

/-- The reason is told as what it is about. -/
def GraphError.ToldAsMeant (reason : GraphError) : Prop :=
  ∃ detail, reason.diagnostic =
    if reason.concernsTypes then .typeMismatch detail else .invalidNode detail

theorem GraphError.ToldAsMeant.ne_broken (told : reason.ToldAsMeant) (fault : Fault) :
    reason ≠ .broken fault := by
  rintro rfl
  obtain ⟨_, same⟩ := told
  cases same

theorem Graph.RefusesOperands.toldAsMeant {op : BinaryOp} {name : String} {type : TensorType}
    {operands : List Value} (refuses : graph.RefusesOperands op name type operands reason) :
    reason.ToldAsMeant := by
  induction refuses with
  | missing => exact ⟨_, rfl⟩
  | types => exact ⟨_, rfl⟩
  | later _ _ ih => exact ih

theorem Graph.RefusesRedirection.toldAsMeant {source target : Value}
    (refuses : graph.RefusesRedirection source target reason) : reason.ToldAsMeant := by
  cases refuses <;> exact ⟨_, rfl⟩

theorem Command.RefusedBy.toldAsMeant {command : Command}
    (refused : command.RefusedBy graph reason) : reason.ToldAsMeant := by
  cases refused with
  | gradientOperands _ refuses => exact refuses.toldAsMeant
  | redirection refuses => exact refuses.toldAsMeant
  | _ => exact ⟨_, rfl⟩

/-- In every graph that a session can lead to, an elementary edit fails for exactly the reasons that
its nodes give, and one that fails leaves the graph as it was. -/
theorem Reachable.refusals_exact (reachable : Reachable graph) (command : Command)
    (elementary : command.isElementary) (reason : GraphError) :
    ((command.edit graph).result = .error reason ↔ command.RefusedBy graph reason) ∧
      ((command.edit graph).result = .error reason →
        (command.edit graph).graph = graph ∧ reason.ToldAsMeant) := by
  have refusedOnly := Command.refused_of_error reachable.wellFormed elementary
  refine ⟨⟨fun failed => (refusedOnly.of_error failed).1, fun refused => ?_⟩, fun failed => ?_⟩
  · obtain ⟨_, failed, rfl⟩ := (refused.fails reachable.wellFormed).exists_error
    exact failed
  · have ended := refusedOnly.of_error failed
    exact ⟨ended.2, ended.1.toldAsMeant⟩

namespace Session

def pair : TensorType := ⟨.f32, [2]⟩

/-- A scalar, a pair, and a node that reads the scalar. -/
def mixedTypes : List Command :=
  [.createInput "x" scalar, .createInput "pair" pair, .createSave "kept" ⟨0, 0⟩]

/-- The result of this gradient has another type than the left operand, and the gradient of the
result does not exist.  The former decides. -/
def mismatchedGradient : Command :=
  .createGradient "sum.grad" ⟨0, 0⟩ ⟨0, 0⟩ ⟨1, 0⟩ ⟨9, 0⟩ .add

theorem mixedTypes_refusals :
    let graph := run .empty mixedTypes
    (mismatchedGradient.edit graph).result =
        .error (.gradientTypes .add "sum.grad" scalar ⟨1, 0⟩ pair) ∧
      (mismatchedGradient.edit graph).graph = graph ∧
        ((Command.remove 0).edit graph).result = .error (.stillUsed 0) ∧
          ((Command.remove 0).edit graph).graph = graph := by
  have decided := Reachable.refusals_exact (reachable_run .empty mixedTypes)
  have mismatch := decided mismatchedGradient rfl (.gradientTypes .add "sum.grad" scalar ⟨1, 0⟩ pair)
  have removal := decided (.remove 0) rfl (.stillUsed 0)
  have mismatched := mismatch.1.mpr (.gradientOperands (by decide +kernel)
    (.later (by decide +kernel) (.types (by decide +kernel) (by decide))))
  have reads : (run .empty mixedTypes).Reads 2 0 := by
    change 0 ∈ (run .empty mixedTypes).sources 2
    decide +kernel
  have used := removal.1.mpr (.stillUsed reads)
  exact ⟨mismatched, (mismatch.2 mismatched).1, used, (removal.2 used).1⟩

end Session

end OpGraph
