import Mathlib.Data.List.TakeWhile
import OpGraph.Config.Load

namespace OpGraph

/-! What the words of a configuration mean: policies by their names, and masks in decimal. -/

variable {text : String} {chars word before after : List Char}

def IsBlank (c : Char) : Prop := inRanges blankRanges c

instance : DecidablePred IsBlank := fun c => inferInstanceAs (Decidable (inRanges blankRanges c))

theorem exists_trimBlanks (chars : List Char) : ∃ before after,
    chars = before ++ trimBlanks chars ++ after ∧ ∀ c ∈ before ++ after, IsBlank c := by
  let isBlank := inRanges blankRanges
  let rest := chars.dropWhile isBlank
  refine ⟨chars.takeWhile isBlank, (rest.reverse.takeWhile isBlank).reverse, ?_, fun c member => ?_⟩
  · have ends : rest = trimBlanks chars ++ (rest.reverse.takeWhile isBlank).reverse := by
      rw [trimBlanks, ← List.reverse_append, List.takeWhile_append_dropWhile, List.reverse_reverse]
    rw [List.append_assoc, ← ends, List.takeWhile_append_dropWhile]
  · obtain front | back := List.mem_append.mp member
    · exact List.mem_takeWhile_imp front
    · exact List.mem_takeWhile_imp (List.mem_reverse.mp back)

theorem trimBlanks_append (blank : ∀ c ∈ before ++ after, IsBlank c)
    (solid : ∀ c ∈ word, ¬ IsBlank c) (nonempty : word ≠ []) :
    trimBlanks (before ++ word ++ after) = word := by
  obtain ⟨blankBefore, blankAfter⟩ := List.forall_mem_append.mp blank
  have front : (before ++ word ++ after).dropWhile (inRanges blankRanges) = word ++ after := by
    rw [List.append_assoc, List.dropWhile_append_of_pos blankBefore]
    cases word with
    | nil => exact absurd rfl nonempty
    | cons c word => exact List.dropWhile_cons_of_neg (solid c List.mem_cons_self)
  have back : (after.reverse ++ word.reverse).dropWhile (inRanges blankRanges) = word.reverse := by
    rw [List.dropWhile_append_of_pos fun c member => blankAfter c (List.mem_reverse.mp member)]
    cases reversed : word.reverse with
    | nil => rfl
    | cons c _ =>
        have member : c ∈ word := List.mem_reverse.mp (reversed ▸ List.mem_cons_self)
        exact List.dropWhile_cons_of_neg (solid c member)
  rw [trimBlanks, front, List.reverse_append, back, List.reverse_reverse]

theorem not_isBlank_of_range {c : Char} (least : 65 ≤ c.toNat) (greatest : c.toNat ≤ 122) :
    ¬ IsBlank c := by
  simp [IsBlank, inRanges, blankRanges]
  omega

theorem isBlank_toLower (c : Char) : IsBlank c.toLower ↔ IsBlank c := by
  by_cases upper : c.val ≥ 'A'.val ∧ c.val ≤ 'Z'.val
  · have range : 65 ≤ c.toNat ∧ c.toNat ≤ 90 := upper
    have lower : c.toLower.val = c.val + ('a'.val - 'A'.val) := congrArg Char.val (dif_pos upper)
    have value : c.toLower.toNat = c.toNat + 32 := by
      rw [← Char.toNat_val, lower, UInt32.toNat_add]
      simp
      omega
    have capital := not_isBlank_of_range range.1 (by omega)
    exact iff_of_false (not_isBlank_of_range (by omega) (by omega)) capital
  · have same : c.toLower = c := dif_neg upper
    rw [same]

namespace UnsupportedPolicy

variable {policy : UnsupportedPolicy}

/-- A text that is the name of a policy in letters of either case, with any blanks around it. -/
def IsNamedBy (policy : UnsupportedPolicy) (text : String) : Prop :=
  ∃ before word after, text.toList = before ++ word ++ after ∧
    (∀ c ∈ before ++ after, IsBlank c) ∧ word.map Char.toLower = policy.name.toList

theorem isNamedBy_iff : policy.IsNamedBy text ↔
    (trimBlanks text.toList).map Char.toLower = policy.name.toList := by
  constructor
  · rintro ⟨before, word, after, same, blank, named⟩
    have letters : policy.name.toList.all (¬ IsBlank ·) := by
      cases policy <;> decide
    have nonempty : policy.name.toList ≠ [] := by
      cases policy <;> decide
    have solid : ∀ c ∈ word, ¬ IsBlank c := by
      intro c member
      rw [← isBlank_toLower]
      exact of_decide_eq_true (List.all_eq_true.mp letters _ (named ▸ List.mem_map_of_mem member))
    rw [same, trimBlanks_append blank solid (by rintro rfl; exact nonempty named.symm), named]
  · intro named
    obtain ⟨before, after, same, blank⟩ := exists_trimBlanks text.toList
    exact ⟨before, _, after, same, blank, named⟩

theorem parse_eq_ok_iff : parse text = .ok policy ↔ policy.IsNamedBy text := by
  rw [isNamedBy_iff, parse]
  split_ifs with isWarn isError isIgnore
  · rw [isWarn]; cases policy <;> decide
  · rw [isError]; cases policy <;> decide
  · rw [isIgnore]; cases policy <;> decide
  · cases policy <;> simp_all

theorem IsNamedBy.unique {other : UnsupportedPolicy} (named : policy.IsNamedBy text)
    (otherNamed : other.IsNamedBy text) : policy = other := by
  rw [← parse_eq_ok_iff] at named otherNamed
  exact Except.ok.inj (named.symm.trans otherNamed)

theorem parse_eq_error_iff {reason : ConfigError} : parse text = .error reason ↔
    reason = .unknownPolicy text ∧ ∀ policy : UnsupportedPolicy, ¬ policy.IsNamedBy text := by
  simp only [← parse_eq_ok_iff]
  cases read : parse text with
  | ok policy => simp
  | error other =>
      have unknown : other = .unknownPolicy text := by
        rw [parse] at read
        split_ifs at read
        exact (Except.error.inj read).symm
      simp [unknown, eq_comm]

end UnsupportedPolicy

namespace Config

/-- The digits of a mask in decimal, with any zeros in front. -/
def AreDigitsOf (digits : List Char) (mask : UInt32) : Prop :=
  digits ≠ [] ∧ (∀ c ∈ digits, c.isDigit) ∧ Nat.ofDigitChars 10 digits 0 = mask.toNat

/-- A text that is a mask in decimal, possibly with a plus sign. -/
def DenotesMask (text : String) (mask : UInt32) : Prop :=
  ∃ digits, (text.toList = digits ∨ text.toList = '+' :: digits) ∧ AreDigitsOf digits mask

theorem areDigitsOf_iff {digits : List Char} {mask : UInt32} :
    (if digits.isEmpty || !digits.all Json.isDigit || 4294967295 < Json.digitsValue digits then none
      else some (UInt32.ofNat (Json.digitsValue digits))) = some mask ↔
    AreDigitsOf digits mask := by
  have value : Json.digitsValue digits = Nat.ofDigitChars 10 digits 0 := rfl
  have isDigit : Json.isDigit = Char.isDigit := rfl
  have bounded := mask.toNat_lt
  simp only [AreDigitsOf, value, isDigit]
  constructor
  · intro read
    split_ifs at read with refused
    obtain rfl := Option.some.inj read
    simp at refused
    refine ⟨refused.1.1, refused.1.2, ?_⟩
    rw [UInt32.toNat_ofNat_of_lt' (Nat.lt_succ_of_le refused.2)]
  · rintro ⟨nonempty, allDigits, same⟩
    simpa [same, nonempty] using And.intro allDigits (Nat.le_of_lt_succ bounded)

theorem parseMask_eq_some_iff {mask : UInt32} :
    parseMask text = some mask ↔ DenotesMask text mask := by
  simp only [parseMask, areDigitsOf_iff, DenotesMask]
  split
  · next digits signed =>
      constructor
      · exact fun areDigits => ⟨digits, .inr signed, areDigits⟩
      · rintro ⟨other, same | same, areDigits⟩
        · have isDigit := areDigits.2.1 '+' (by simp [← same, signed])
          contradiction
        · cases signed.symm.trans same
          exact areDigits
  · next unsigned =>
      constructor
      · exact fun areDigits => ⟨text.toList, .inl rfl, areDigits⟩
      · rintro ⟨other, same | same, areDigits⟩
        · exact same ▸ areDigits
        · exact absurd same (unsigned other)

end Config

end OpGraph
