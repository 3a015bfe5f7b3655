import OpGraph.Number.Decimal

namespace OpGraph.Json

/-! Tokens of JSON texts and the errors that are found while reading them. -/

/-- A place in a text, as the numbers of line ends and of characters since the last of them. -/
structure Position where
  line : Nat
  column : Nat
deriving DecidableEq

/-- A lexical unit.  `start` stands in front of the text and `finish` behind it, and a `bareWord`
is a word other than the three that mean something. -/
inductive Token where
  | start
  | text (content : String)
  | unsigned (value : UInt64)
  | signed (value : Int64)
  | float (bits : UInt64)
  | bool (value : Bool)
  | bareWord
  | null
  | colon
  | comma
  | curlyOpen
  | curlyClose
  | blockOpen
  | blockClose
  | finish
deriving DecidableEq

/-- What is asked for at a place. -/
inductive Expected where
  | anyToken
  | keyword (found : String)
  | curlyOpen
  | curlyClose
  | colon
  | commaOrClose
  | unsignedInteger
  | text
  | boolean
deriving DecidableEq

/-- What is wrong at a place. -/
inductive Cause where
  | unexpected (found : Token) (expected : Expected)
  | badNumber
  | badText
  | outOfRange (value : UInt64) (limit : Nat)
deriving DecidableEq

structure Error where
  cause : Cause
  position : Position
deriving DecidableEq

namespace Position

def after (position : Position) (c : Char) : Position :=
  if c = '\n' then ⟨position.line + 1, 0⟩ else ⟨position.line, position.column + 1⟩

end Position

namespace Token

/-- A float always has a point or an exponent; it has an exponent from ten to the power 16 on and
below ten to the power -4. -/
def floatLayout : FloatLayout :=
  { integerEnd := ".0", positionalPowers := some (-4, 16) }

/-- The name of a token; numbers and truth values are shown with it. -/
def name : Token → String
  | start => "Bof"
  | text _ => "Str"
  | unsigned value => "U64(" ++ value.toNat.repr ++ ")"
  | signed value => "I64(" ++ value.toInt.repr ++ ")"
  | float bits =>
      "F64(" ++ (FloatFormat.binary64.decode bits.toNat).text floatLayout .binary64 ++ ")"
  | bool value => "Bool(" ++ (if value then "true" else "false") ++ ")"
  | bareWord => "BareIdent"
  | null => "Null"
  | colon => "Colon"
  | comma => "Comma"
  | curlyOpen => "CurlyOpen"
  | curlyClose => "CurlyClose"
  | blockOpen => "BlockOpen"
  | blockClose => "BlockClose"
  | finish => "Eof"

def isOpening : Token → Bool
  | curlyOpen | blockOpen => true
  | _ => false

def isClosing : Token → Bool
  | curlyClose | blockClose => true
  | _ => false

/-- Whether a token is a whole value by itself. -/
def isScalar : Token → Bool
  | text _ | unsigned _ | signed _ | float _ | bool _ | null => true
  | _ => false

end Token

namespace Expected

def name : Expected → String
  | anyToken => "tokenizer"
  | keyword found => "Got ##" ++ found ++ "## needed true, false, null"
  | curlyOpen => "\x7b"
  | curlyClose => "\x7d"
  | colon => ":"
  | commaOrClose => ", or \x7d"
  | unsignedInteger => "unsigned integer"
  | text => "string"
  | boolean => "boolean"

end Expected

namespace Cause

def message : Cause → String
  | unexpected found expected =>
      "Unexpected token " ++ found.name ++ " expected " ++ expected.name ++ " "
  | badNumber => "Cannot parse number "
  | badText => "Cannot parse string "
  | outOfRange value limit => "Value out of range " ++ value.toNat.repr ++ ">" ++ limit.repr ++ " "

end Cause

namespace Error

/-- The cause and the place, lines and columns counted from one. -/
def message (error : Error) : String :=
  "Json Deserialize error: " ++ error.cause.message ++ ", line:" ++
    (error.position.line + 1).repr ++ " col:" ++ (error.position.column + 1).repr

end Error

end OpGraph.Json
