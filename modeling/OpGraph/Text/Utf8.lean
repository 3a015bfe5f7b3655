namespace OpGraph

/-! UTF-8: the characters that a sequence of bytes stands for. -/

/-- A piece of a byte sequence: a character, or a byte that belongs to none. -/
inductive Utf8Piece where
  | char (c : Char)
  | stray (byte : UInt8)
deriving DecidableEq

namespace Utf8

/-- The number of continuation bytes that a first byte asks for, the bits of the code point that it
holds itself, and the least code point that may be written with so many bytes. -/
def leadOf (byte : UInt8) : Option (Nat × Nat × Nat) :=
  let lead := byte.toNat
  if lead < 0x80 then some (0, lead, 0)
  else if lead < 0xc0 then none
  else if lead < 0xe0 then some (1, lead - 0xc0, 0x80)
  else if lead < 0xf0 then some (2, lead - 0xe0, 0x800)
  else if lead < 0xf8 then some (3, lead - 0xf0, 0x10000)
  else none

/-- The code point whose leading bits are given and whose other bits stand in so many continuation
bytes, six in each. -/
def continued : Nat → Nat → List UInt8 → Option Nat
  | 0, code, _ => some code
  | _ + 1, _, [] => none
  | count + 1, code, byte :: rest =>
      if 0x80 ≤ byte.toNat ∧ byte.toNat < 0xc0 then
        continued count (code * 64 + (byte.toNat - 0x80)) rest
      else none

/-- The character that starts with a byte, and the number of continuation bytes that it takes.
Longer forms than needed, surrogates and code points beyond the last one are no characters. -/
def charAt? (byte : UInt8) (rest : List UInt8) : Option (Char × Nat) :=
  match leadOf byte with
  | none => none
  | some (count, bits, least) =>
      match continued count bits rest with
      | none => none
      | some code =>
          if valid : least ≤ code ∧ code.isValidChar then
            some (Char.ofNatAux code valid.2, count)
          else none

/-- The pieces of a byte sequence, in order. -/
def pieces : List UInt8 → List Utf8Piece
  | [] => []
  | byte :: rest =>
      match charAt? byte rest with
      | some (c, count) => .char c :: pieces (rest.drop count)
      | none => .stray byte :: pieces rest
termination_by bytes => bytes.length
decreasing_by
  all_goals simp only [List.length_cons, List.length_drop]; omega

/-- The characters of a byte sequence that is UTF-8 throughout. -/
def chars? (bytes : List UInt8) : Option (List Char) :=
  (pieces bytes).mapM fun
    | .char c => some c
    | .stray _ => none

/-- The text of a byte sequence that is UTF-8 throughout. -/
def text? (bytes : List UInt8) : Option String :=
  (chars? bytes).map String.ofList

end Utf8

end OpGraph
