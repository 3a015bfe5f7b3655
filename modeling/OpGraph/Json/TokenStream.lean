import OpGraph.Json.Literal

namespace OpGraph.Json

/-! The tokens of a text, each with the place that was reached when it had been read.  One character
is always looked at ahead, so that place lies behind the character that follows the token. -/

/-- The characters still to be read and the place behind the first of them. -/
structure Cursor where
  chars : List Char
  position : Position
deriving DecidableEq

structure Lexeme where
  token : Token
  position : Position
deriving DecidableEq

/-- How the tokens of a text end: with the text, or at something that is no token. -/
inductive Ending where
  | finished (position : Position)
  | broken (error : Error)
deriving DecidableEq

structure TokenStream where
  lexemes : List Lexeme
  ending : Ending
deriving DecidableEq

namespace Cursor

def lookAt (chars : List Char) (position : Position) : Cursor :=
  match chars with
  | [] => ⟨[], position⟩
  | c :: _ => ⟨chars, position.after c⟩

/-- One character further; at the end of the text nothing changes. -/
def advance (cursor : Cursor) : Cursor :=
  lookAt cursor.chars.tail cursor.position

def advanceBy : Nat → Cursor → Cursor
  | 0, cursor => cursor
  | count + 1, cursor => advanceBy count cursor.advance

theorem chars_advance (cursor : Cursor) : cursor.advance.chars = cursor.chars.tail := by
  unfold advance lookAt
  split
  · next none => exact none.symm
  · rfl

theorem chars_advanceBy (count : Nat) (cursor : Cursor) :
    (advanceBy count cursor).chars = cursor.chars.drop count := by
  induction count generalizing cursor with
  | zero => rfl
  | succ count ih => simp [advanceBy, ih, chars_advance]

end Cursor

def isBlank (c : Char) : Bool :=
  c = ' ' || c = '\n' || c = '\r' || c = '\t'

def startsWord (c : Char) : Bool :=
  ('a' ≤ c && c ≤ 'z') || ('A' ≤ c && c ≤ 'Z') || c = '_'

def word? (word : List Char) : Option Token :=
  if word = "true".toList then some (.bool true)
  else if word = "false".toList then some (.bool false)
  else if word = "null".toList then some .null
  else none

/-- The token that starts with a character, and how many of the characters behind it belong to it;
or else what is wrong and how many characters stand in front of the place where that shows. -/
def scan (previous : Token) (c : Char) (rest : List Char) : Except (Cause × Nat) (Token × Nat) :=
  match c with
  | ':' => .ok (.colon, 0)
  | ',' => .ok (.comma, 0)
  | '[' => .ok (.blockOpen, 0)
  | ']' => .ok (.blockClose, 0)
  | '\x7b' => .ok (.curlyOpen, 0)
  | '\x7d' => .ok (.curlyClose, 0)
  | '"' =>
      match textContent rest with
      | .ok (content, used) => .ok (.text (String.ofList content), used)
      | .error good => .error (.badText, good + 1)
  | _ =>
      if c = '-' || c = '+' || isDigit c then
        let parts := NumberParts.ofChars (c :: rest)
        match parts.token? with
        | some token => .ok (token, parts.length - 1)
        | none => .error (.badNumber, parts.length)
      else if startsWord c then
        let word := c :: rest.takeWhile startsWord
        match word? word with
        | some token => .ok (token, word.length - 1)
        | none => .error (.unexpected .bareWord (.keyword (String.ofList word)), word.length)
      else
        .error (.unexpected previous .anyToken, 0)

namespace TokenStream

/-- The tokens from a place on, when the given one came before. -/
def ofCursor (previous : Token) (cursor : Cursor) : TokenStream :=
  let blanks := (cursor.chars.takeWhile isBlank).length
  let first := Cursor.advanceBy blanks cursor
  match _rest : first.chars with
  | [] => ⟨[], .finished first.position⟩
  | c :: rest =>
      if c = '\x00' then ⟨[], .finished first.position⟩
      else
        match scan previous c rest with
        | .error (cause, good) =>
            ⟨[], .broken ⟨cause, (Cursor.advanceBy good first).position⟩⟩
        | .ok (token, used) =>
            let next := Cursor.advanceBy (used + 1) first
            let later := ofCursor token next
            ⟨⟨token, next.position⟩ :: later.lexemes, later.ending⟩
termination_by cursor.chars.length
decreasing_by
  have nonempty : 0 < first.chars.length := by simp [_rest]
  have shorter : first.chars.length ≤ cursor.chars.length := by
    simp [first, Cursor.chars_advanceBy]
  simp only [Cursor.chars_advanceBy, List.length_drop]
  omega

def ofText (text : String) : TokenStream :=
  ofCursor .start (Cursor.lookAt text.toList ⟨0, 0⟩)

end TokenStream

end OpGraph.Json
