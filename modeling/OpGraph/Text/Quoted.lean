import OpGraph.Text.CharClass
import OpGraph.Text.Utf8

namespace OpGraph

/-! Quoted texts, in which every character can be told apart: what has no visible form of its own
or attaches to its neighbour is written as an escape. -/

namespace Quoted

def hexDigits (value : Nat) : List Char :=
  Nat.toDigits 16 value

/-- How one character stands between the quotes.  Single quotes need no escape. -/
def escape (c : Char) : List Char :=
  match c with
  | '\x00' => ['\\', '0']
  | '\t' => ['\\', 't']
  | '\r' => ['\\', 'r']
  | '\n' => ['\\', 'n']
  | '\\' => ['\\', '\\']
  | '"' => ['\\', '"']
  | _ =>
      if inRanges attachingRanges c || inRanges invisibleRanges c then
        ['\\', 'u', '\x7b'] ++ hexDigits c.toNat ++ ['\x7d']
      else [c]

/-- How one piece of a byte sequence stands between the quotes: a byte that belongs to no character
is written with two upper case digits. -/
def escapePiece : Utf8Piece → List Char
  | .char c => escape c
  | .stray byte =>
      let digits := (hexDigits byte.toNat).map Char.toUpper
      ['\\', 'x'] ++ List.replicate (2 - digits.length) '0' ++ digits

def enclose (inner : List Char) : String :=
  String.ofList ('"' :: inner ++ ['"'])

def ofText (text : String) : String :=
  enclose (text.toList.flatMap escape)

def ofBytes (bytes : List UInt8) : String :=
  enclose ((Utf8.pieces bytes).flatMap escapePiece)

end Quoted

end OpGraph
