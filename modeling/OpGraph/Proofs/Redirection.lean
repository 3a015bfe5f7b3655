import OpGraph.Proofs.Cycles
import OpGraph.Proofs.Reachable

namespace OpGraph

/-! What a redirection does, and when it closes a cycle.  It looks at no node but those that the
index names as readers of its source.  As the index names every place that reads a value, and names
it once, no reader is left behind and none is counted twice. -/

namespace UseIndex

variable {index other : UseIndex} {value : Value}

theorem users_ascending (index : UseIndex) (value : Value) :
    (index.users value).Pairwise fun first second => compare first second = .lt :=
  Std.ExtTreeSet.ordered_toList

theorem nodup_users (index : UseIndex) (value : Value) : (index.users value).Nodup := by
  refine (index.users_ascending value).imp ?_
  rintro use _ less rfl
  cases less.symm.trans Std.ReflOrd.compare_self

theorem users_congr (same : ∀ use, ⟨value, use⟩ ∈ index ↔ ⟨value, use⟩ ∈ other) :
    index.users value = other.users value :=
  congrArg Std.ExtTreeSet.toList (Std.ExtTreeSet.ext_mem same)

end UseIndex

namespace Graph

variable {before after : Graph} {source target value : Value} {use : Use}

theorem Makes.value_eq {graph : Graph} {other : Value} (makes : graph.Makes ⟨value, use⟩)
    (otherMakes : graph.Makes ⟨other, use⟩) : value = other := by
  obtain ⟨entry, found, reads⟩ := makes
  obtain ⟨_, sameFound, otherReads⟩ := otherMakes
  cases found.symm.trans sameFound
  exact Option.some.inj (reads.symm.trans otherReads)

/-- The effect of a redirection between two values: the same nodes in the same slots, with the same
names and types and of the same kinds; every operand that was the source is the target, every other
one is what it was; and the readers of the source come in between those of the target. -/
structure Redirected (before : Graph) (source target : Value) (after : Graph) : Prop where
  ids_eq : after.ids = before.ids
  free_eq : after.nodes.free = before.nodes.free
  size_eq : after.nodes.slots.size = before.nodes.slots.size
  entry?_eq : ∀ id, after.entry? id =
    (before.entry? id).map (Entry.mapOperands (source.redirect target))
  type?_eq : ∀ value, after.type? value = before.type? value
  users_source : after.users source = []
  ascending : (after.users target).Pairwise fun first second => compare first second = .lt
  users_target : (after.users target).Perm (before.users source ++ before.users target)
  useCount_target : after.useCount target = before.useCount source + before.useCount target
  users_other : ∀ value, value ≠ source → value ≠ target → after.users value = before.users value

namespace Rewired

theorem makes_iff (rewired : before.Rewired source target after) :
    after.Makes ⟨value, use⟩ ↔
      ∃ old, before.Makes ⟨old, use⟩ ∧ source.redirect target old = value := by
  simp only [Makes, rewired.entry?_eq]
  cases found : before.entry? use.user with
  | none => simp
  | some entry => simp [Option.map_eq_some_iff]

theorem mem_users (rewired : before.Rewired source target after) (wellFormed : before.WellFormed) :
    use ∈ after.users value ↔
      (use ∈ before.users value ∧ value ≠ source) ∨
        (value = target ∧ use ∈ before.users source) := by
  simp only [rewired.wellFormed.mem_users, wellFormed.mem_users, rewired.makes_iff]
  constructor
  · rintro ⟨old, makes, rfl⟩
    by_cases moved : old = source
    · subst moved
      exact .inr ⟨Value.redirect_source old target, makes⟩
    · rw [Value.redirect_of_ne moved]
      exact .inl ⟨makes, moved⟩
  · rintro (⟨makes, kept⟩ | ⟨rfl, makes⟩)
    · exact ⟨value, makes, Value.redirect_of_ne kept⟩
    · exact ⟨source, makes, Value.redirect_source source value⟩

theorem users_source (rewired : before.Rewired source target after)
    (wellFormed : before.WellFormed) (different : source ≠ target) : after.users source = [] := by
  refine List.eq_nil_iff_forall_not_mem.mpr fun use member => ?_
  rcases (rewired.mem_users wellFormed).mp member with ⟨_, kept⟩ | ⟨same, _⟩
  · exact kept rfl
  · exact different same

theorem users_target (rewired : before.Rewired source target after)
    (wellFormed : before.WellFormed) (different : source ≠ target) :
    (after.users target).Perm (before.users source ++ before.users target) := by
  have apart : ∀ use ∈ before.users source, ∀ other ∈ before.users target, use ≠ other := by
    rintro use readsSource _ readsTarget rfl
    exact different ((wellFormed.mem_users.mp readsSource).value_eq
      (wellFormed.mem_users.mp readsTarget))
  have once : (before.users source ++ before.users target).Nodup :=
    List.nodup_append.mpr ⟨before.uses.nodup_users source, before.uses.nodup_users target, apart⟩
  refine (List.perm_ext_iff_of_nodup (after.uses.nodup_users target) once).mpr fun use => ?_
  rw [List.mem_append]
  exact (rewired.mem_users wellFormed).trans (by simp [different.symm, or_comm])

theorem users_other (rewired : before.Rewired source target after)
    (wellFormed : before.WellFormed) (notSource : value ≠ source) (notTarget : value ≠ target) :
    after.users value = before.users value := by
  have same : ∀ use, use ∈ after.users value ↔ use ∈ before.users value := fun use =>
    (rewired.mem_users wellFormed).trans (by simp [notSource, notTarget])
  exact UseIndex.users_congr fun use =>
    UseIndex.mem_users.symm.trans ((same use).trans UseIndex.mem_users)

theorem redirected (rewired : before.Rewired source target after)
    (wellFormed : before.WellFormed) (different : source ≠ target) :
    before.Redirected source target after where
  ids_eq := Store.indices_eq_of_contains fun id => by
    have sameEntry : after.nodes.get? id = (before.nodes.get? id).map _ := rewired.entry?_eq id
    rw [Store.contains, Store.contains, sameEntry, Option.isSome_map]
  free_eq := rewired.free_eq
  size_eq := rewired.size_eq
  entry?_eq := rewired.entry?_eq
  type?_eq := rewired.type?_eq
  users_source := rewired.users_source wellFormed different
  ascending := after.uses.users_ascending target
  users_target := rewired.users_target wellFormed different
  useCount_target := by
    simpa [useCount] using (rewired.users_target wellFormed different).length_eq
  users_other := fun _ => rewired.users_other wellFormed

end Rewired

end Graph

theorem Edit.replaceUses_self (value : Value) (graph : Graph) :
    (replaceUses value value graph).graph = graph := by
  cases typed : graph.type? value <;>
    simp [replaceUses, typeOf, bind_apply, ask, orFail, fail, pure_apply, typed]

namespace Reachable

variable {graph : Graph} {source target : Value}

theorem redirection_exact (reachable : Reachable graph)
    (carriedOut : (Edit.replaceUses source target graph).result = .ok ()) :
    (source ≠ target →
        graph.Redirected source target (Edit.replaceUses source target graph).graph) ∧
      (source = target → (Edit.replaceUses source target graph).graph = graph) := by
  have wellFormed := reachable.wellFormed
  obtain ⟨rewired, _⟩ := (Edit.replaceUses_ends wellFormed source target).of_ok carriedOut
  refine ⟨rewired.redirected wellFormed, ?_⟩
  rintro rfl
  exact Edit.replaceUses_self source graph

/-- A redirection that is carried out closes a cycle exactly if the node of its target reads a
reader of its source, be it through other nodes. -/
theorem redirection_closes_cycle_iff (reachable : Reachable graph) (acyclic : graph.Acyclic)
    (carriedOut : (Edit.replaceUses source target graph).result = .ok ()) :
    (∃ id, Relation.TransGen (Edit.replaceUses source target graph).graph.Reads id id) ↔
      ∃ reader, Relation.TransGen graph.Reads target.node reader ∧ graph.ReadBy reader source := by
  obtain ⟨rewired, apart⟩ :=
    (Edit.replaceUses_ends reachable.wellFormed source target).of_ok carriedOut
  have unread : ¬ graph.ReadBy target.node source := by
    rcases apart with rfl | unread
    · intro reads
      exact acyclic source.node (.single (Graph.reads_iff_readBy.mpr ⟨source, reads, rfl⟩))
    · exact unread
  calc
    _ ↔ ¬ (Edit.replaceUses source target graph).graph.Acyclic := by simp [Graph.Acyclic]
    _ ↔ graph.DependsOn target.node source := by rw [rewired.acyclic_iff acyclic, not_not]
    _ ↔ _ := by
        constructor
        · rintro ⟨reader, path, reads⟩
          rcases Relation.reflTransGen_iff_eq_or_transGen.mp path with rfl | path
          · exact absurd reads unread
          · exact ⟨reader, path, reads⟩
        · rintro ⟨reader, path, reads⟩
          exact ⟨reader, path.to_reflTransGen, reads⟩

end Reachable

namespace Session

/-- Two outputs of one node, the first read twice by a node, both read by another. -/
def sharedOperands : List Command :=
  [.createInput "x" scalar, .createInput "y" scalar,
    .createGradient "grad" ⟨0, 0⟩ ⟨1, 0⟩ ⟨0, 0⟩ ⟨1, 0⟩ .mul,
    .createArithmetic "twice" ⟨2, 0⟩ ⟨2, 0⟩ .add, .createArithmetic "both" ⟨2, 0⟩ ⟨2, 1⟩ .mul,
    .createSave "kept" ⟨2, 1⟩]

theorem sharedOperands_redirection_exact :
    let graph := run .empty sharedOperands
    let outcome := Edit.replaceUses ⟨2, 0⟩ ⟨2, 1⟩ graph
    outcome.result = .ok () ∧ graph.Redirected ⟨2, 0⟩ ⟨2, 1⟩ outcome.graph ∧
      outcome.graph.users ⟨2, 1⟩ = [⟨3, 0⟩, ⟨3, 1⟩, ⟨4, 0⟩, ⟨4, 1⟩, ⟨5, 0⟩] := by
  have carriedOut :
      (Edit.replaceUses ⟨2, 0⟩ ⟨2, 1⟩ (run .empty sharedOperands)).result = .ok () := by
    decide +kernel
  have effect := Reachable.redirection_exact (reachable_run .empty sharedOperands) carriedOut
  exact ⟨carriedOut, effect.1 (by decide), by decide +kernel⟩

/-- The gradient node reads the input, and the node that is to be read instead reads the gradient
node. -/
theorem sharedOperands_closes_cycle :
    let graph := run .empty sharedOperands
    let outcome := Edit.replaceUses ⟨0, 0⟩ ⟨4, 0⟩ graph
    graph.Acyclic ∧ outcome.result = .ok () ∧
      ∃ id, Relation.TransGen outcome.graph.Reads id id := by
  let graph := run .empty sharedOperands
  have acyclic : graph.Acyclic := Graph.acyclic_of_ascending (by decide +kernel)
  have carriedOut : (Edit.replaceUses ⟨0, 0⟩ ⟨4, 0⟩ graph).result = .ok () := by decide +kernel
  have reads : 2 ∈ graph.sources 4 := by decide +kernel
  have input : ⟨⟨0, 0⟩, ⟨2, 0⟩⟩ ∈ graph.uses := by decide +kernel
  have reachable : Reachable graph := reachable_run .empty sharedOperands
  have reader : graph.ReadBy 2 ⟨0, 0⟩ := ⟨0, (reachable.wellFormed.indexed _).mp input⟩
  exact ⟨acyclic, carriedOut,
    (Reachable.redirection_closes_cycle_iff reachable acyclic carriedOut).mpr
      ⟨2, .single reads, reader⟩⟩

end Session

end OpGraph
