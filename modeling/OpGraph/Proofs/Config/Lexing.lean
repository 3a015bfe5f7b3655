import Mathlib.Data.List.TakeWhile
import OpGraph.Proofs.Config.Grammar

namespace OpGraph.Json

/-! The tokens of a text, piece by piece.  They do not depend on where the text stands and what
stands before it, but for words and numbers on what follows: these end where a character comes that
can not go on with them. -/

variable {blanks piece rest digits content : List Char} {c : Char} {token : Token}
  {tokens : List Token} {whole : Prop}

/-- The tokens of some characters, and whether all characters belong to them. -/
def Lexes (chars : List Char) (tokens : List Token) (whole : Prop) : Prop :=
  ∀ previous cursor, Cursor.chars cursor = chars →
    Members.tokens (TokenStream.ofCursor previous cursor).lexemes = tokens ∧
      ((TokenStream.ofCursor previous cursor).ending.IsWhole ↔ whole)

/-- Characters that are one token where some others follow. -/
def Scans (piece rest : List Char) (token : Token) : Prop :=
  ∃ c tail, piece = c :: tail ∧ ¬ isBlank c ∧ c ≠ '\x00' ∧
    ∀ previous, scan previous c (tail ++ rest) = .ok (token, tail.length)

/-- Characters that are no token where some others follow. -/
def Breaks (piece rest : List Char) : Prop :=
  ∃ c tail, piece = c :: tail ∧ ¬ isBlank c ∧ c ≠ '\x00' ∧
    ∀ previous, ∃ fault, scan previous c (tail ++ rest) = .error fault

/-- Characters with which neither a word nor a number goes on. -/
def Ends (rest : List Char) : Prop :=
  ∀ c ∈ rest.head?, ¬ startsWord c ∧ ¬ isDigit c ∧ c ≠ '.'

section Runs

variable {p : Char → Bool} {run : List Char}

theorem takeWhile_run (inside : ∀ c ∈ run, p c) (outside : ∀ c ∈ rest.head?, ¬ p c) :
    (run ++ rest).takeWhile p = run := by
  rw [List.takeWhile_append_of_pos inside]
  cases rest with
  | nil => simp
  | cons c rest => simp [outside c rfl]

theorem dropWhile_run (inside : ∀ c ∈ run, p c) (outside : ∀ c ∈ rest.head?, ¬ p c) :
    (run ++ rest).dropWhile p = rest := by
  rw [List.dropWhile_append_of_pos inside]
  cases rest with
  | nil => rfl
  | cons c rest => exact List.dropWhile_cons_of_neg (outside c rfl)

end Runs

theorem Cursor.chars_lookAt (chars : List Char) (position : Position) :
    (lookAt chars position).chars = chars := by
  cases chars <;> rfl

theorem Lexes.nil (blank : ∀ c ∈ blanks, isBlank c) : Lexes blanks [] True := by
  intro previous cursor chars
  have allBlank : cursor.chars.takeWhile isBlank = cursor.chars :=
    List.takeWhile_eq_self_iff.mpr (chars ▸ blank)
  rw [TokenStream.ofCursor]
  split
  · simp
  · next some => simp [Cursor.chars_advanceBy, allBlank] at some

theorem ofCursor_skip {cursor : Cursor} (previous : Token) (blank : ∀ c ∈ blanks, isBlank c)
    (solid : ¬ isBlank c) (nonzero : c ≠ '\x00') (chars : cursor.chars = blanks ++ c :: rest) :
    ∃ first : Cursor, first.chars = c :: rest ∧ TokenStream.ofCursor previous cursor =
      match scan previous c rest with
      | .error (cause, good) => ⟨[], .broken ⟨cause, (Cursor.advanceBy good first).position⟩⟩
      | .ok (token, used) =>
          let next := Cursor.advanceBy (used + 1) first
          let later := TokenStream.ofCursor token next
          ⟨⟨token, next.position⟩ :: later.lexemes, later.ending⟩ := by
  have skipped : cursor.chars.takeWhile isBlank = blanks := by
    rw [chars]
    exact takeWhile_run blank (by simpa using solid)
  have first : (Cursor.advanceBy blanks.length cursor).chars = c :: rest := by
    simp [Cursor.chars_advanceBy, chars]
  refine ⟨_, first, ?_⟩
  rw [TokenStream.ofCursor, skipped]
  split
  · next none => cases none.symm.trans first
  · next some =>
      cases some.symm.trans first
      exact if_neg nonzero

theorem Lexes.cons (blank : ∀ c ∈ blanks, isBlank c) (scans : Scans piece rest token)
    (later : Lexes rest tokens whole) :
    Lexes (blanks ++ piece ++ rest) (token :: tokens) whole := by
  intro previous cursor chars
  obtain ⟨c, tail, rfl, solid, nonzero, scanned⟩ := scans
  rw [List.append_assoc, List.cons_append] at chars
  obtain ⟨first, firstChars, stream⟩ := ofCursor_skip previous blank solid nonzero chars
  rw [scanned] at stream
  have behind : (Cursor.advanceBy (tail.length + 1) first).chars = rest := by
    simp [Cursor.chars_advanceBy, firstChars]
  obtain ⟨same, ended⟩ := later token _ behind
  rw [stream]
  exact ⟨congrArg (token :: ·) same, ended⟩

theorem Lexes.broken (blank : ∀ c ∈ blanks, isBlank c) (breaks : Breaks piece rest) :
    Lexes (blanks ++ piece ++ rest) [] False := by
  intro previous cursor chars
  obtain ⟨c, tail, rfl, solid, nonzero, broken⟩ := breaks
  rw [List.append_assoc, List.cons_append] at chars
  obtain ⟨first, _, stream⟩ := ofCursor_skip previous blank solid nonzero chars
  obtain ⟨fault, failed⟩ := broken previous
  rw [failed] at stream
  rw [stream]
  simp

theorem scans_mark (mark : (c, token) ∈
      [(':', .colon), (',', .comma), ('\x7b', .curlyOpen), ('\x7d', Token.curlyClose)])
    (rest : List Char) : Scans [c] rest token := by
  simp only [List.mem_cons, Prod.mk.injEq, List.not_mem_nil, or_false] at mark
  rcases mark with ⟨rfl, rfl⟩ | ⟨rfl, rfl⟩ | ⟨rfl, rfl⟩ | ⟨rfl, rfl⟩ <;>
    exact ⟨_, [], rfl, by decide, by decide, fun _ => rfl⟩

/-- Characters that stand for themselves between quotes. -/
def Plain (content : List Char) : Prop :=
  ∀ c ∈ content, c ≠ '"' ∧ c ≠ '\\' ∧ c ≠ '\x00'

instance : DecidablePred Plain := fun content => List.decidableBAll _ content

theorem textContent_of_plain (plain : Plain content) :
    textContent (content ++ '"' :: rest) = .ok (content, content.length + 1) := by
  induction content with
  | nil => simp [textContent]
  | cons c content ih =>
      obtain ⟨⟨quote, backslash, nonzero⟩, later⟩ := List.forall_mem_cons.mp plain
      rw [List.cons_append, textContent.eq_4 _ _ quote backslash, if_neg nonzero, ih later]
      rfl

theorem scans_text (plain : Plain content) (rest : List Char) :
    Scans ('"' :: content ++ ['"']) rest (.text (String.ofList content)) := by
  refine ⟨'"', content ++ ['"'], rfl, by decide, by decide, fun previous => ?_⟩
  have used : (content ++ ['"']).length = content.length + 1 := by simp
  simp only [scan, List.append_assoc, List.singleton_append, textContent_of_plain plain, used]

theorem Ends.of_blanks (blank : ∀ c ∈ blanks, isBlank c) (ends : Ends rest) :
    Ends (blanks ++ rest) := by
  cases blanks with
  | nil => exact ends
  | cons c blanks =>
      have isBlank : ((c = ' ' ∨ c = '\n') ∨ c = '\r') ∨ c = '\t' := by
        simpa [isBlank] using blank c (by simp)
      rw [Ends, List.cons_append, List.head?_cons]
      rcases isBlank with ((rfl | rfl) | rfl) | rfl <;> simp <;> decide

theorem solid_of {p : Char → Bool} (holds : p c)
    (apart : [' ', '\n', '\r', '\t', '\x00'].all (! p ·)) : ¬ isBlank c ∧ c ≠ '\x00' := by
  simp only [List.all_cons, List.all_nil, Bool.and_eq_true, Bool.not_eq_true'] at apart
  refine ⟨fun blank => ?_, ?_⟩
  · simp only [isBlank, Bool.or_eq_true, decide_eq_true_eq] at blank
    rcases blank with ((rfl | rfl) | rfl) | rfl <;> simp [apart] at holds
  · intro same
    subst same
    simp [apart] at holds

theorem not_isDigit_of_startsWord (starts : startsWord c) : ¬ isDigit c := by
  simp only [startsWord, isDigit, Bool.or_eq_true, Bool.and_eq_true, decide_eq_true_eq,
    Char.le_def, UInt32.le_iff_toNat_le] at starts ⊢
  rcases starts with (lower | upper) | rfl
  · have least : 97 ≤ c.val.toNat := lower.1
    exact fun digit => absurd (least.trans digit.2) (by decide)
  · have least : 65 ≤ c.val.toNat := upper.1
    exact fun digit => absurd (least.trans digit.2) (by decide)
  · decide

theorem scan_of_startsWord (starts : startsWord c) (previous : Token)
    (known : word? (c :: rest.takeWhile startsWord) = some token) :
    scan previous c rest = .ok (token, (rest.takeWhile startsWord).length) := by
  have notNumber : ¬ (c = '-' || c = '+' || isDigit c) := by
    simp only [Bool.or_eq_true, decide_eq_true_eq, not_or]
    refine ⟨⟨?_, ?_⟩, not_isDigit_of_startsWord starts⟩ <;> (intro same; subst same; contradiction)
  unfold scan
  split
  iterate 7 contradiction
  rw [if_neg notNumber, if_pos starts]
  simp only [known, List.length_cons, Nat.add_sub_cancel]

theorem scans_word (known : word? piece = some token) (ends : Ends rest) :
    Scans piece rest token := by
  have letters : piece.all startsWord := by
    unfold word? at known
    split_ifs at known with isTrue isFalse isNull
    · rw [isTrue]; decide
    · rw [isFalse]; decide
    · rw [isNull]; decide
  cases piece with
  | nil => cases known
  | cons c tail =>
      obtain ⟨starts, later⟩ := List.forall_mem_cons.mp (List.all_eq_true.mp letters)
      obtain ⟨solid, nonzero⟩ := solid_of starts (by decide)
      have run : (tail ++ rest).takeWhile startsWord = tail :=
        takeWhile_run later fun c first => (ends c first).1
      refine ⟨c, tail, rfl, solid, nonzero, fun previous => ?_⟩
      rw [scan_of_startsWord starts previous (run.symm ▸ known), run]

theorem ofChars_digits (nonempty : digits ≠ []) (allDigits : ∀ c ∈ digits, isDigit c)
    (ends : Ends rest) :
    NumberParts.ofChars (digits ++ rest) = ⟨false, digits, none, none, digits.length⟩ := by
  have whole : (digits ++ rest).takeWhile isDigit = digits :=
    takeWhile_run allDigits fun c first => (ends c first).2.1
  have behind : (digits ++ rest).dropWhile isDigit = rest :=
    dropWhile_run allDigits fun c first => (ends c first).2.1
  have noSign : ∀ tail, digits ++ rest ≠ '-' :: tail ∧ digits ++ rest ≠ '+' :: tail := by
    cases digits with
    | nil => exact absurd rfl nonempty
    | cons c digits =>
        have digit : isDigit c := allDigits c (by simp)
        refine fun tail => ⟨?_, ?_⟩ <;> (intro same; cases same; cases digit)
  have noPoint : ∀ tail, rest ≠ '.' :: tail := by
    intro tail same
    exact (ends '.' (same ▸ rfl)).2.2 rfl
  have noPower : ∀ tail, rest ≠ 'e' :: tail ∧ rest ≠ 'E' :: tail := by
    refine fun tail => ⟨fun same => ?_, fun same => ?_⟩
    · exact (ends 'e' (same ▸ rfl)).1 (by decide)
    · exact (ends 'E' (same ▸ rfl)).1 (by decide)
  simp [NumberParts.ofChars, noSign, noPower, whole, behind]

theorem scan_digits (allDigits : ∀ other ∈ c :: piece, isDigit other) (ends : Ends rest)
    (previous : Token) : scan previous c (piece ++ rest) =
      if digitsValue (c :: piece) < Nat.pow 2 64 then
        .ok (.unsigned (.ofNat (digitsValue (c :: piece))), piece.length)
      else
        .error (.badNumber, piece.length + 1) := by
  have digit : isDigit c := allDigits c (by simp)
  have parts : NumberParts.ofChars (c :: (piece ++ rest)) =
      ⟨false, c :: piece, none, none, piece.length + 1⟩ :=
    ofChars_digits (List.cons_ne_nil c piece) allDigits ends
  have token : (NumberParts.mk false (c :: piece) none none (piece.length + 1)).token? =
      if digitsValue (c :: piece) < Nat.pow 2 64 then
        some (.unsigned (.ofNat (digitsValue (c :: piece))))
      else
        none := rfl
  have isNumber : (c = '-' || c = '+' || isDigit c) = true := by simp [digit]
  unfold scan
  split
  iterate 7 contradiction
  simp only [if_pos isNumber, parts, token]
  split <;> simp_all

theorem scans_digits (nonempty : digits ≠ []) (allDigits : ∀ c ∈ digits, isDigit c)
    (ends : Ends rest) (small : digitsValue digits < Nat.pow 2 64) :
    Scans digits rest (.unsigned (.ofNat (digitsValue digits))) := by
  cases digits with
  | nil => exact absurd rfl nonempty
  | cons c tail =>
      obtain ⟨solid, nonzero⟩ := solid_of (allDigits c (by simp)) (by decide)
      refine ⟨c, tail, rfl, solid, nonzero, fun previous => ?_⟩
      rw [scan_digits allDigits ends, if_pos small]

theorem breaks_digits (nonempty : digits ≠ []) (allDigits : ∀ c ∈ digits, isDigit c)
    (ends : Ends rest) (large : ¬ digitsValue digits < Nat.pow 2 64) : Breaks digits rest := by
  cases digits with
  | nil => exact absurd rfl nonempty
  | cons c tail =>
      obtain ⟨solid, nonzero⟩ := solid_of (allDigits c (by simp)) (by decide)
      refine ⟨c, tail, rfl, solid, nonzero, fun previous =>
        ⟨(.badNumber, tail.length + 1), ?_⟩⟩
      rw [scan_digits allDigits ends, if_neg large]

/-- Pieces with any blanks before each of them and behind the last one. -/
inductive Spaced : List (List Char) → List Char → Prop where
  | done {blanks : List Char} (blank : ∀ c ∈ blanks, isBlank c) : Spaced [] blanks
  | piece {blanks piece rest : List Char} {later : List (List Char)}
      (blank : ∀ c ∈ blanks, isBlank c) (others : Spaced later rest) :
      Spaced (piece :: later) (blanks ++ piece ++ rest)

/-- Finds the blanks between pieces that do not begin with blanks themselves. -/
def isSpaced : List (List Char) → List Char → Bool
  | [], text => text.all isBlank
  | piece :: later, text =>
      let solid := text.dropWhile isBlank
      piece.isPrefixOf solid && isSpaced later (solid.drop piece.length)

theorem spaced_of_isSpaced {pieces : List (List Char)} {text : List Char}
    (spaced : isSpaced pieces text) : Spaced pieces text := by
  induction pieces generalizing text with
  | nil => exact .done (List.all_eq_true.mp spaced)
  | cons piece later ih =>
      simp only [isSpaced, Bool.and_eq_true, List.isPrefixOf_iff_prefix] at spaced
      obtain ⟨⟨rest, behind⟩, others⟩ := spaced
      rw [← behind, List.drop_left] at others
      rw [← List.takeWhile_append_dropWhile (p := isBlank) (l := text), ← behind,
        ← List.append_assoc]
      exact .piece (fun c member => List.mem_takeWhile_imp member) (ih others)

/-- The tokens of pieces, however they are spaced, and whether all pieces are tokens. -/
inductive Reads : List (List Char) → List Token → Prop → Prop where
  | done : Reads [] [] True
  | piece {piece : List Char} {later : List (List Char)} {token : Token} {tokens : List Token}
      {whole : Prop} (scans : ∀ rest, Spaced later rest → Scans piece rest token)
      (others : Reads later tokens whole) : Reads (piece :: later) (token :: tokens) whole
  | broken {piece : List Char} {later : List (List Char)}
      (breaks : ∀ rest, Spaced later rest → Breaks piece rest) : Reads (piece :: later) [] False

theorem Reads.lexes {pieces : List (List Char)} {text : List Char}
    (reads : Reads pieces tokens whole) (spaced : Spaced pieces text) :
    Lexes text tokens whole := by
  induction reads generalizing text with
  | done =>
      cases spaced with
      | done blank => exact .nil blank
  | piece scans _ ih =>
      cases spaced with
      | piece blank others => exact .cons blank (scans _ others) (ih others)
  | broken breaks =>
      cases spaced with
      | piece blank others => exact .broken blank (breaks _ others)

theorem Spaced.ends {pieces : List (List Char)} {text : List Char} (spaced : Spaced pieces text)
    (closes : pieces.head? ∈ [some [','], some ['\x7d']]) : Ends text := by
  cases spaced with
  | done => simp at closes
  | piece blank others =>
      rw [List.append_assoc]
      apply Ends.of_blanks blank
      simp only [List.head?_cons, List.mem_cons, Option.some.injEq, List.not_mem_nil,
        or_false] at closes
      rcases closes with rfl | rfl <;> simp [Ends] <;> decide

end OpGraph.Json
