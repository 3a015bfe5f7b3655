import Mathlib.Data.List.Basic
import OpGraph.Text.Utf8

namespace OpGraph.Utf8

/-! Reading UTF-8 undoes writing it, and nothing else is read: a byte sequence is read as a text
exactly if it is the one that the text is written as. -/

variable {byte : UInt8} {bytes rest : List UInt8} {c : Char} {count code value : Nat}

/-- The bytes that a text is written as. -/
def encode (text : String) : List UInt8 := text.toUTF8.data.toList

theorem encode_eq (text : String) : encode text = text.toList.flatMap String.utf8EncodeChar := by
  rw [encode, String.toUTF8, ← String.utf8Encode_toList, List.utf8Encode,
    List.toList_data_toByteArray]

/-- A first byte holds the leading bits and says how many bytes follow; each of these holds six. -/
theorem leadOf_eq_some_iff {bits least : Nat} : leadOf byte = some (count, bits, least) ↔
    (count = 0 ∧ bits = byte.toNat ∧ byte.toNat < 0x80 ∧ least = 0) ∨
    (count = 1 ∧ bits + 0xc0 = byte.toNat ∧ bits < 0x20 ∧ least = 0x80) ∨
    (count = 2 ∧ bits + 0xe0 = byte.toNat ∧ bits < 0x10 ∧ least = 0x800) ∨
    (count = 3 ∧ bits + 0xf0 = byte.toNat ∧ bits < 0x08 ∧ least = 0x10000) := by
  unfold leadOf
  simp only
  split_ifs <;> simp only [Option.some.injEq, Prod.mk.injEq, false_iff] <;> omega

theorem continued_cons : continued (count + 1) code (byte :: rest) = some value ↔
    0x80 ≤ byte.toNat ∧ byte.toNat < 0xc0 ∧
      continued count (code * 64 + (byte.toNat - 0x80)) rest = some value := by
  simp [continued, and_assoc]

theorem continued_append (follows : bytes.length = count) :
    continued count code (bytes ++ rest) = continued count code bytes := by
  induction bytes generalizing count code with
  | nil => subst follows; rfl
  | cons byte tail ih =>
      subst follows
      simp only [List.length_cons, List.cons_append, continued, ih rfl]

theorem exists_of_continued (continues : continued count code bytes = some value) :
    ∃ tail later, bytes = tail ++ later ∧ tail.length = count := by
  induction count generalizing code bytes with
  | zero => exact ⟨[], bytes, rfl, rfl⟩
  | succ count ih =>
      cases bytes with
      | nil => cases continues
      | cons byte rest =>
          obtain ⟨tail, later, rfl, length⟩ := ih (continued_cons.mp continues).2.2
          exact ⟨byte :: tail, later, rfl, congrArg (· + 1) length⟩

theorem charAt?_eq_some_iff : charAt? byte rest = some (c, count) ↔
    ∃ bits least, leadOf byte = some (count, bits, least) ∧
      continued count bits rest = some c.toNat ∧ least ≤ c.toNat := by
  unfold charAt?
  constructor
  · intro found
    split at found
    · cases found
    · next bits least lead =>
        split at found
        · cases found
        · next code continues =>
            by_cases valid : least ≤ code ∧ code.isValidChar
            · cases (dif_pos valid).symm.trans found
              exact ⟨bits, least, lead, continues, valid.1⟩
            · cases (dif_neg valid).symm.trans found
  · rintro ⟨bits, least, lead, continues, enough⟩
    have valid : c.toNat.isValidChar := c.valid
    split
    · next none => cases lead.symm.trans none
    · next found =>
        cases lead.symm.trans found
        split
        · next none => cases continues.symm.trans none
        · next found =>
            cases continues.symm.trans found
            exact dif_pos ⟨enough, valid⟩

theorem encodeChar_of_shortest {bits least : Nat}
    (lead : leadOf byte = some (rest.length, bits, least))
    (continues : continued rest.length bits rest = some c.toNat) (enough : least ≤ c.toNat) :
    String.utf8EncodeChar c = byte :: rest := by
  have value : c.val.toNat = c.toNat := rfl
  have bounded := byte.toNat_lt
  rw [leadOf_eq_some_iff] at lead
  unfold String.utf8EncodeChar
  match rest with
  | [] =>
      simp [continued] at lead continues
      have size : c.toNat ≤ 0x7f := by omega
      simp [value, size, ← UInt8.toNat_inj]
      omega
  | [second] =>
      simp [continued] at lead continues
      have size : ¬ c.toNat ≤ 0x7f ∧ c.toNat ≤ 0x7ff := by omega
      simp [value, size, ← UInt8.toNat_inj]
      omega
  | [second, third] =>
      simp [continued] at lead continues
      have size : ¬ c.toNat ≤ 0x7f ∧ ¬ c.toNat ≤ 0x7ff ∧ c.toNat ≤ 0xffff := by omega
      simp [value, size, ← UInt8.toNat_inj]
      omega
  | [second, third, fourth] =>
      simp [continued] at lead continues
      have size : ¬ c.toNat ≤ 0x7f ∧ ¬ c.toNat ≤ 0x7ff ∧ ¬ c.toNat ≤ 0xffff := by omega
      simp [value, size, ← UInt8.toNat_inj]
      omega
  | _ :: _ :: _ :: _ :: _ => simp at lead

theorem shortest_of_encodeChar (written : String.utf8EncodeChar c = byte :: rest) :
    ∃ bits least, leadOf byte = some (rest.length, bits, least) ∧
      continued rest.length bits rest = some c.toNat ∧ least ≤ c.toNat := by
  have valid : c.toNat.isValidChar := c.valid
  have value : c.val.toNat = c.toNat := rfl
  simp only [leadOf_eq_some_iff]
  unfold String.utf8EncodeChar at written
  simp only [value] at written
  split_ifs at written <;> cases written
  · exact ⟨c.toNat, 0, by simp; omega, rfl, Nat.zero_le _⟩
  · exact ⟨c.toNat / 64, 0x80, by simp; omega, by simp [continued]; omega, by omega⟩
  · exact ⟨c.toNat / 4096, 0x800, by simp; omega, by simp [continued]; omega, by omega⟩
  · exact ⟨c.toNat / 262144, 0x10000, by simp; omega, by simp [continued]; omega, by omega⟩

theorem charAt?_eq_some_iff_encode : charAt? byte rest = some (c, count) ↔
    ∃ tail later, rest = tail ++ later ∧ tail.length = count ∧
      String.utf8EncodeChar c = byte :: tail := by
  rw [charAt?_eq_some_iff]
  constructor
  · rintro ⟨bits, least, lead, continues, enough⟩
    obtain ⟨tail, later, rfl, rfl⟩ := exists_of_continued continues
    rw [continued_append rfl] at continues
    exact ⟨tail, later, rfl, rfl, encodeChar_of_shortest lead continues enough⟩
  · rintro ⟨tail, later, rfl, rfl, written⟩
    obtain ⟨bits, least, lead, continues, enough⟩ := shortest_of_encodeChar written
    exact ⟨bits, least, lead, (continued_append rfl).trans continues, enough⟩

theorem chars?_encode (chars : List Char) :
    chars? (chars.flatMap String.utf8EncodeChar) = some chars := by
  induction chars with
  | nil => simp [chars?, pieces]
  | cons c chars ih =>
      obtain ⟨byte, tail, written⟩ := List.exists_cons_of_ne_nil (String.utf8EncodeChar_ne_nil (c := c))
      have found := charAt?_eq_some_iff_encode.mpr
        ⟨tail, chars.flatMap String.utf8EncodeChar, rfl, rfl, written⟩
      rw [chars?] at ih
      rw [List.flatMap_cons, written, List.cons_append, chars?, pieces]
      simp [found, ih]

theorem encode_of_chars? {chars : List Char} (read : chars? bytes = some chars) :
    chars.flatMap String.utf8EncodeChar = bytes := by
  rw [chars?] at read
  fun_induction pieces bytes generalizing chars with
  | case1 =>
      cases read
      rfl
  | case2 byte rest c count found ih =>
      obtain ⟨tail, later, rfl, rfl, written⟩ := charAt?_eq_some_iff_encode.mp found
      rw [List.drop_left] at read ih
      obtain ⟨others, readLater, rfl⟩ : ∃ others, _ = some others ∧ c :: others = chars := by
        simpa [Option.bind_eq_some_iff] using read
      rw [List.flatMap_cons, ih readLater, written, List.cons_append]
  | case3 byte rest _ ih => simp at read

theorem text?_eq_some_iff {text : String} : text? bytes = some text ↔ encode text = bytes := by
  rw [encode_eq, text?, Option.map_eq_some_iff]
  constructor
  · rintro ⟨chars, read, rfl⟩
    rw [String.toList_ofList]
    exact encode_of_chars? read
  · rintro rfl
    exact ⟨text.toList, chars?_encode text.toList, String.ofList_toList⟩

theorem text?_eq_none_iff : text? bytes = none ↔ ∀ text, encode text ≠ bytes := by
  simp only [Option.eq_none_iff_forall_ne_some, ne_eq, text?_eq_some_iff]

end OpGraph.Utf8
