import OpGraph.Node
import Std.Data.ExtTreeMap
import Std.Data.ExtTreeSet

namespace OpGraph

/-! The def-use index: for every value the places that read it.  It is kept up to date by every
edit, so that the readers of a value are found without looking at the nodes. -/

/-- One edge of the graph: a value and a place that reads it. -/
structure Read where
  value : Value
  use : Use
deriving DecidableEq

theorem Value.compare_eq (a b : Value) :
    compare a b = (compare a.node b.node).then (compare a.output b.output) :=
  congrArg (Ordering.then _) Ordering.then_eq

theorem Use.compare_eq (a b : Use) :
    compare a b = (compare a.user b.user).then (compare a.operand b.operand) :=
  congrArg (Ordering.then _) Ordering.then_eq

instance : Std.TransOrd Value := by
  have lexicographic : (compare : Value → Value → Ordering) =
      compareLex (compareOn Value.node) (compareOn Value.output) :=
    funext fun a => funext fun b => Value.compare_eq a b
  rw [Std.TransOrd, lexicographic]
  infer_instance

instance : Std.TransOrd Use := by
  have lexicographic : (compare : Use → Use → Ordering) =
      compareLex (compareOn Use.user) (compareOn Use.operand) :=
    funext fun a => funext fun b => Use.compare_eq a b
  rw [Std.TransOrd, lexicographic]
  infer_instance

instance : Std.LawfulEqOrd Value where
  eq_of_compare {a b} same := by
    cases a
    cases b
    simpa [Value.compare_eq, Ordering.then_eq_eq] using same

instance : Std.LawfulEqOrd Use where
  eq_of_compare {a b} same := by
    cases a
    cases b
    simpa [Use.compare_eq, Ordering.then_eq_eq] using same

/-- For every value that is read the set of its readers.  Two indices are equal only if they keep
the same values, so a value that lost its last reader must not be kept. -/
structure UseIndex where
  readers : Std.ExtTreeMap Value (Std.ExtTreeSet Use)
deriving DecidableEq

namespace UseIndex

def empty : UseIndex := ⟨∅⟩

def usesOf (index : UseIndex) (value : Value) : Std.ExtTreeSet Use :=
  index.readers[value]?.getD ∅

instance : Membership Read UseIndex := ⟨fun index read => read.use ∈ index.usesOf read.value⟩

instance (read : Read) (index : UseIndex) : Decidable (read ∈ index) :=
  inferInstanceAs (Decidable (read.use ∈ index.usesOf read.value))

def users (index : UseIndex) (value : Value) : List Use :=
  (index.usesOf value).toList

/-- Whether a value is kept, which it is to be only as long as it has readers. -/
def contains (index : UseIndex) (value : Value) : Bool :=
  index.readers.contains value

def readsNode (index : UseIndex) (node : NodeId) : Bool :=
  index.readers.keys.any fun value => value.node = node

def insert (index : UseIndex) (read : Read) : UseIndex :=
  ⟨index.readers.alter read.value fun uses => some ((uses.getD ∅).insert read.use)⟩

/-- The index without a read.  A value goes with its last reader. -/
def erase (index : UseIndex) (read : Read) : UseIndex :=
  ⟨index.readers.alter read.value fun uses =>
    (uses.map (·.erase read.use)).filter fun left => left ≠ ∅⟩

def insertAll (index : UseIndex) (reads : List Read) : UseIndex :=
  reads.foldl insert index

def eraseAll (index : UseIndex) (reads : List Read) : UseIndex :=
  reads.foldl erase index

def ofList (reads : List Read) : UseIndex :=
  empty.insertAll reads

/-- Makes every reader of one value a reader of another; all of them move at once. -/
def redirect (index : UseIndex) (source target : Value) : UseIndex :=
  match index.readers[source]? with
  | none => index
  | some moved =>
      ⟨(index.readers.erase source).alter target fun uses => some (uses.getD ∅ ∪ moved)⟩

theorem usesOf_empty (value : Value) : empty.usesOf value = ∅ := by
  simp [usesOf, empty]

theorem usesOf_insert (index : UseIndex) (read : Read) (value : Value) :
    (index.insert read).usesOf value =
      if read.value = value then (index.usesOf value).insert read.use else index.usesOf value := by
  by_cases same : read.value = value
  · simp [usesOf, insert, same]
  · simp [usesOf, insert, Std.ExtTreeMap.getElem?_alter, same]

theorem usesOf_erase (index : UseIndex) (read : Read) (value : Value) :
    (index.erase read).usesOf value =
      if read.value = value then (index.usesOf value).erase read.use else index.usesOf value := by
  by_cases same : read.value = value
  · cases found : index.readers[value]? with
    | none => simp [usesOf, erase, same, found]
    | some uses =>
        by_cases last : uses.erase read.use = ∅ <;> simp [usesOf, erase, same, found, last]
  · simp [usesOf, erase, Std.ExtTreeMap.getElem?_alter, same]

theorem mem_def {index : UseIndex} {read : Read} :
    read ∈ index ↔ read.use ∈ index.usesOf read.value :=
  Iff.rfl

theorem mem_users {index : UseIndex} {value : Value} {use : Use} :
    use ∈ index.users value ↔ ⟨value, use⟩ ∈ index :=
  Std.ExtTreeSet.mem_toList

theorem not_mem_empty (read : Read) : ¬ read ∈ empty := by
  simp [mem_def, usesOf_empty]

theorem mem_insert {index : UseIndex} {read other : Read} :
    other ∈ index.insert read ↔ other ∈ index ∨ other = read := by
  obtain ⟨value, use⟩ := read
  obtain ⟨otherValue, otherUse⟩ := other
  by_cases same : value = otherValue
  · simp [mem_def, usesOf_insert, same, or_comm, @eq_comm _ use]
  · simp [mem_def, usesOf_insert, same, Ne.symm same]

theorem mem_erase {index : UseIndex} {read other : Read} :
    other ∈ index.erase read ↔ other ∈ index ∧ other ≠ read := by
  obtain ⟨value, use⟩ := read
  obtain ⟨otherValue, otherUse⟩ := other
  by_cases same : value = otherValue
  · simp [mem_def, usesOf_erase, same, and_comm, @eq_comm _ use]
  · simp [mem_def, usesOf_erase, same, Ne.symm same]

theorem mem_insertAll {index : UseIndex} {read : Read} {reads : List Read} :
    read ∈ index.insertAll reads ↔ read ∈ index ∨ read ∈ reads := by
  induction reads generalizing index with
  | nil => simp [insertAll]
  | cons first rest ih =>
      have stepped : read ∈ (index.insert first).insertAll rest ↔ _ := ih
      simpa [insertAll, mem_insert, or_assoc] using stepped

theorem mem_eraseAll {index : UseIndex} {read : Read} {reads : List Read} :
    read ∈ index.eraseAll reads ↔ read ∈ index ∧ read ∉ reads := by
  induction reads generalizing index with
  | nil => simp [eraseAll]
  | cons first rest ih =>
      have stepped : read ∈ (index.erase first).eraseAll rest ↔ _ := ih
      simpa [eraseAll, mem_erase, and_assoc] using stepped

theorem mem_ofList {read : Read} {reads : List Read} : read ∈ ofList reads ↔ read ∈ reads := by
  simp [ofList, mem_insertAll, not_mem_empty]

theorem mem_redirect {index : UseIndex} {source target : Value} {read : Read} :
    read ∈ index.redirect source target ↔
      (read ∈ index ∧ read.value ≠ source) ∨
        (read.value = target ∧ ⟨source, read.use⟩ ∈ index) := by
  obtain ⟨value, use⟩ := read
  unfold redirect
  cases found : index.readers[source]? with
  | none =>
      have unread : index.usesOf source = ∅ := by simp [usesOf, found]
      by_cases same : value = source <;> simp [mem_def, same, unread]
  | some moved =>
      by_cases hit : target = value <;> by_cases same : source = value
      · subst same
        simp [mem_def, usesOf, found, hit, Std.ExtTreeSet.mem_union_iff]
      · simp [mem_def, usesOf, found, hit, same, Ne.symm same, Std.ExtTreeMap.getElem?_erase,
          Std.ExtTreeSet.mem_union_iff]
      · simp [mem_def, usesOf, Std.ExtTreeMap.getElem?_alter, hit, same, Ne.symm hit]
      · simp [mem_def, usesOf, Std.ExtTreeMap.getElem?_alter, Std.ExtTreeMap.getElem?_erase, hit,
          same, Ne.symm hit, Ne.symm same]

theorem exists_mem_of_ne_empty {uses : Std.ExtTreeSet Use} (used : uses ≠ ∅) :
    ∃ use, use ∈ uses := by
  simpa [Std.ExtTreeSet.eq_empty_iff_forall_not_mem] using used

/-- No value is kept with an empty set of readers. -/
def Tight (index : UseIndex) : Prop :=
  ∀ value : Value, index.readers[value]? ≠ some ∅

theorem tight_empty : empty.Tight := by
  simp [Tight, empty]

theorem Tight.insert {index : UseIndex} (tight : index.Tight) (read : Read) :
    (index.insert read).Tight := by
  intro value
  by_cases same : read.value = value
  · simp [UseIndex.insert, same]
  · simpa [UseIndex.insert, Std.ExtTreeMap.getElem?_alter, same] using tight value

theorem Tight.erase {index : UseIndex} (tight : index.Tight) (read : Read) :
    (index.erase read).Tight := by
  intro value
  by_cases same : read.value = value
  · simp [UseIndex.erase, same, Option.filter_eq_some_iff]
  · simpa [UseIndex.erase, Std.ExtTreeMap.getElem?_alter, same] using tight value

theorem Tight.insertAll {index : UseIndex} (tight : index.Tight) (reads : List Read) :
    (index.insertAll reads).Tight := by
  induction reads generalizing index with
  | nil => exact tight
  | cons first _ ih => exact ih (tight.insert first)

theorem Tight.eraseAll {index : UseIndex} (tight : index.Tight) (reads : List Read) :
    (index.eraseAll reads).Tight := by
  induction reads generalizing index with
  | nil => exact tight
  | cons first _ ih => exact ih (tight.erase first)

theorem tight_ofList (reads : List Read) : (ofList reads).Tight :=
  tight_empty.insertAll reads

theorem Tight.redirect {index : UseIndex} (tight : index.Tight) (source target : Value) :
    (index.redirect source target).Tight := by
  unfold UseIndex.redirect
  split
  · exact tight
  · next moved found =>
      have used : moved ≠ ∅ := fun unused => tight source (unused ▸ found)
      intro value
      by_cases hit : target = value
      · obtain ⟨use, reading⟩ := exists_mem_of_ne_empty used
        intro kept
        have emptied : (index.readers.erase source)[value]?.getD ∅ ∪ moved = ∅ := by
          simpa [hit] using kept
        exact Std.ExtTreeSet.not_mem_empty (emptied ▸ Std.ExtTreeSet.mem_union_of_right reading)
      · by_cases same : source = value
        · simp [Std.ExtTreeMap.getElem?_alter, hit, same]
        · simpa [Std.ExtTreeMap.getElem?_alter, hit, Std.ExtTreeMap.getElem?_erase, same]
            using tight value

theorem Tight.contains_iff {index : UseIndex} (tight : index.Tight) {value : Value} :
    index.contains value ↔ ∃ use, ⟨value, use⟩ ∈ index := by
  cases found : index.readers[value]? with
  | none => simp [contains, mem_def, usesOf, found, Std.ExtTreeMap.contains_eq_isSome_getElem?]
  | some uses =>
      have used : uses ≠ ∅ := fun unused => tight value (unused ▸ found)
      simpa [contains, mem_def, usesOf, found, Std.ExtTreeMap.contains_eq_isSome_getElem?] using
        exists_mem_of_ne_empty used

theorem Tight.readsNode_iff {index : UseIndex} (tight : index.Tight) {node : NodeId} :
    index.readsNode node ↔ ∃ read ∈ index, read.value.node = node := by
  simp only [readsNode, List.any_eq_true, Std.ExtTreeMap.mem_keys, decide_eq_true_eq]
  constructor
  · intro reading
    obtain ⟨value, kept, rfl⟩ := reading
    obtain ⟨use, reading⟩ := tight.contains_iff.mp kept
    exact ⟨⟨value, use⟩, reading, rfl⟩
  · intro found
    obtain ⟨⟨value, use⟩, reading, rfl⟩ := found
    exact ⟨value, tight.contains_iff.mpr ⟨use, reading⟩, rfl⟩

theorem Tight.ext {first second : UseIndex} (firstTight : first.Tight) (secondTight : second.Tight)
    (agree : ∀ read, read ∈ first ↔ read ∈ second) : first = second := by
  have uses : ∀ value, first.usesOf value = second.usesOf value := fun value =>
    Std.ExtTreeSet.ext_mem fun use => agree ⟨value, use⟩
  have kept : ∀ value, first.contains value = second.contains value := fun value => by
    simp only [Bool.eq_iff_iff, firstTight.contains_iff, secondTight.contains_iff, agree]
  obtain ⟨first⟩ := first
  obtain ⟨second⟩ := second
  refine congrArg mk (Std.ExtTreeMap.ext_getElem? fun {value} => ?_)
  have sameUses : first[value]?.getD ∅ = second[value]?.getD ∅ := uses value
  have sameKept : first[value]?.isSome = second[value]?.isSome := by
    simpa only [contains, Std.ExtTreeMap.contains_eq_isSome_getElem?] using kept value
  cases inFirst : first[value]? <;> cases inSecond : second[value]? <;>
    rw [inFirst, inSecond] at sameUses sameKept
  · cases sameKept
  · cases sameKept
  · exact congrArg some sameUses

end UseIndex

end OpGraph
