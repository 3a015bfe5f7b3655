import OpGraph.Json.Token

namespace OpGraph.Json

/-! Literals: how numbers and texts are written in JSON texts.  Readers take the characters behind
the first one of the literal, and count how many of them they use. -/

def isDigit (c : Char) : Bool :=
  '0' ≤ c && c ≤ '9'

def digitsValue (digits : List Char) : Nat :=
  digits.foldl (fun value digit => 10 * value + (digit.toNat - '0'.toNat)) 0

structure NumberParts where
  negative : Bool
  whole : List Char
  /-- The digits behind the point, if there is one. -/
  fraction : Option (List Char)
  /-- The sign and the digits of the power of ten, if there is one. -/
  power : Option (Bool × List Char)
  /-- How many characters the number takes. -/
  length : Nat
deriving DecidableEq

namespace NumberParts

/-- The longest number that a text starts with; any digits may be missing. -/
def ofChars (chars : List Char) : NumberParts :=
  let (negative, signed, unsigned) := match chars with
    | '-' :: rest => (true, 1, rest)
    | '+' :: rest => (false, 1, rest)
    | _ => (false, 0, chars)
  let whole := unsigned.takeWhile isDigit
  let afterWhole := unsigned.dropWhile isDigit
  let (fraction, pointed, afterFraction) := match afterWhole with
    | '.' :: rest =>
        (some (rest.takeWhile isDigit), 1 + (rest.takeWhile isDigit).length, rest.dropWhile isDigit)
    | _ => (none, 0, afterWhole)
  let (power, powered) := match afterFraction with
    | 'e' :: '-' :: rest | 'E' :: '-' :: rest =>
        (some (true, rest.takeWhile isDigit), 2 + (rest.takeWhile isDigit).length)
    | 'e' :: rest | 'E' :: rest =>
        (some (false, rest.takeWhile isDigit), 1 + (rest.takeWhile isDigit).length)
    | _ => (none, 0)
  { negative := negative
    whole := whole
    fraction := fraction
    power := power
    length := signed + whole.length + pointed + powered }

/-- The token of a number without point and power: signed with a minus sign, else unsigned. -/
def integer? (parts : NumberParts) : Option Token :=
  let value := digitsValue parts.whole
  if parts.whole.isEmpty then none
  else if parts.negative then
    if value ≤ Nat.pow 2 63 then some (.signed (.ofInt (-value))) else none
  else
    if value < Nat.pow 2 64 then some (.unsigned (.ofNat value)) else none

/-- The token of a number with point or power.  At least one digit must stand before or behind the
point, and at least one in the power. -/
def float? (parts : NumberParts) (fraction : List Char) (power : Bool × List Char) :
    Option Token :=
  let digits := parts.whole ++ fraction
  if digits.isEmpty || power.2.isEmpty then none
  else
    let exponent : Int := if power.1 then -(digitsValue power.2) else digitsValue power.2
    let magnitude := (Decimal.mk (digitsValue digits) (exponent - fraction.length)).toBinary64
    some (.float (.ofNat (if parts.negative then Nat.pow 2 63 + magnitude else magnitude)))

def token? (parts : NumberParts) : Option Token :=
  match parts.fraction, parts.power with
  | none, none => parts.integer?
  | _, _ => parts.float? (parts.fraction.getD []) (parts.power.getD (false, ['0']))

end NumberParts

def hexDigit? (c : Char) : Option Nat :=
  if isDigit c then some (c.toNat - '0'.toNat)
  else if 'a' ≤ c && c ≤ 'f' then some (c.toNat - 'a'.toNat + 10)
  else if 'A' ≤ c && c ≤ 'F' then some (c.toNat - 'A'.toNat + 10)
  else none

/-- The value of so many hexadecimal digits, or else how many digits stand in front of the first
character that is none. -/
def hexValue : Nat → List Char → Except Nat Nat
  | 0, _ => .ok 0
  | _ + 1, [] => .error 0
  | count + 1, c :: rest =>
      match hexDigit? c with
      | none => .error 0
      | some digit =>
          match hexValue count rest with
          | .ok value => .ok (digit * Nat.pow 16 count + value)
          | .error good => .error (good + 1)

/-- The character that the digits behind `\u` stand for and how many characters they take, or else
how many characters stand in front of the offending one.  A leading surrogate needs a trailing one
in a second escape right behind it, and no other surrogate stands for anything. -/
def unicodeEscape (chars : List Char) : Except Nat (Char × Nat) :=
  match hexValue 4 chars with
  | .error good => .error good
  | .ok first =>
      if valid : first.isValidChar then .ok (Char.ofNatAux first valid, 4)
      else if 0xdc00 ≤ first then .error 4
      else
        match chars.drop 4 with
        | '\\' :: 'u' :: rest =>
            match hexValue 4 rest with
            | .error good => .error (6 + good)
            | .ok second =>
                if 0xdc00 ≤ second ∧ second < 0xe000 then
                  .ok (Char.ofNat (0x10000 + (first - 0xd800) * 0x400 + (second - 0xdc00)), 10)
                else .error 10
        | '\\' :: _ => .error 5
        | _ => .error 4

/-- The character that an escape stands for and how many characters behind the backslash it takes,
or else how many stand in front of the offending one. -/
def escape : List Char → Except Nat (Char × Nat)
  | [] => .error 0
  | '\x00' :: _ => .error 0
  | 'n' :: _ => .ok ('\n', 1)
  | 'r' :: _ => .ok ('\r', 1)
  | 't' :: _ => .ok ('\t', 1)
  | 'b' :: _ => .ok ('\x08', 1)
  | 'f' :: _ => .ok ('\x0c', 1)
  | '0' :: _ => .ok ('\x00', 1)
  | 'u' :: rest =>
      match unicodeEscape rest with
      | .ok (c, length) => .ok (c, length + 1)
      | .error good => .error (good + 1)
  | c :: _ => .ok (c, 1)

/-- The content up to the closing quote and how many characters it takes with that quote, or else
how many characters stand in front of the offending one.  Only the end of the text and the
character NUL, which is taken for it, can not stand in a text. -/
def textContent : List Char → Except Nat (List Char × Nat)
  | [] => .error 0
  | '"' :: _ => .ok ([], 1)
  | '\\' :: rest =>
      match escape rest with
      | .error good => .error (good + 1)
      | .ok (c, length) =>
          match textContent (rest.drop length) with
          | .ok (content, used) => .ok (c :: content, used + length + 1)
          | .error good => .error (good + length + 1)
  | c :: rest =>
      if c = '\x00' then .error 0
      else
        match textContent rest with
        | .ok (content, used) => .ok (c :: content, used + 1)
        | .error good => .error (good + 1)
termination_by chars => chars.length
decreasing_by
  all_goals simp only [List.length_cons, List.length_drop]; omega

end OpGraph.Json
