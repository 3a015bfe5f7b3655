import OpGraph.Config.Error
import OpGraph.Json.TokenStream

namespace OpGraph

open Json

/-! The members of a configuration object.  Four keys are known; the values of all others are
skipped.  Of several members with one key the last one counts. -/

/-- What an object says about the configuration; what it leaves out or says to be null is none. -/
structure Members where
  debug : Option UInt32
  unsupported : Option String
  prune : Option Bool
  verify : Option Bool
deriving DecidableEq

namespace Members

def empty : Members :=
  { debug := none, unsupported := none, prune := none, verify := none }

def mismatch (expected : Expected) (ending : Ending) (lexemes : List Lexeme) : ConfigError :=
  .malformed <|
    match lexemes, ending with
    | lexeme :: _, _ => ⟨.unexpected lexeme.token expected, lexeme.position⟩
    | [], .finished position => ⟨.unexpected .finish expected, position⟩
    | [], .broken error => error

def debugOf (lexeme : Lexeme) : Except ConfigError UInt32 :=
  match lexeme.token with
  | .unsigned value =>
      if value.toNat ≤ 4294967295 then .ok (.ofNat value.toNat)
      else .error (.malformed ⟨.outOfRange value 4294967295, lexeme.position⟩)
  | token => .error (.malformed ⟨.unexpected token .unsignedInteger, lexeme.position⟩)

def textOf (lexeme : Lexeme) : Except ConfigError String :=
  match lexeme.token with
  | .text content => .ok content
  | token => .error (.malformed ⟨.unexpected token .text, lexeme.position⟩)

def boolOf (lexeme : Lexeme) : Except ConfigError Bool :=
  match lexeme.token with
  | .bool value => .ok value
  | token => .error (.malformed ⟨.unexpected token .boolean, lexeme.position⟩)

/-- The members together with a known one, which may be null, and the tokens behind its value. -/
def knownValue (expected : Expected) (valueOf : Lexeme → Except ConfigError α)
    (put : Option α → Members) (ending : Ending) :
    List Lexeme → Except ConfigError (Members × List Lexeme)
  | [] => .error (mismatch expected ending [])
  | lexeme :: rest =>
      if lexeme.token = .null then .ok (put none, rest)
      else
        match valueOf lexeme with
        | .error reason => .error reason
        | .ok value => .ok (put (some value), rest)

/-- The tokens behind the bracket that closes the outermost of so many open ones.  The two kinds of
brackets need not match. -/
def afterBrackets (ending : Ending) : Nat → List Lexeme → Except ConfigError (List Lexeme)
  | 0, lexemes => .ok lexemes
  | _ + 1, [] =>
      match ending with
      | .finished _ => .error (.fatal .unclosed)
      | .broken error => .error (.malformed error)
  | depth + 1, lexeme :: rest =>
      if lexeme.token.isOpening then afterBrackets ending (depth + 2) rest
      else if lexeme.token.isClosing then afterBrackets ending depth rest
      else afterBrackets ending (depth + 1) rest

def skipValue (ending : Ending) : List Lexeme → Except ConfigError (List Lexeme)
  | [] =>
      match ending with
      | .finished _ => .error (.fatal (.unskippable .finish))
      | .broken error => .error (.malformed error)
  | lexeme :: rest =>
      if lexeme.token.isOpening then afterBrackets ending 1 rest
      else if lexeme.token.isScalar then .ok rest
      else .error (.fatal (.unskippable lexeme.token))

def readValue (ending : Ending) (found : Members) (key : String) (lexemes : List Lexeme) :
    Except ConfigError (Members × List Lexeme) :=
  match key with
  | "debug" =>
      knownValue .unsignedInteger debugOf ({ found with debug := · }) ending lexemes
  | "unsupported" =>
      knownValue .text textOf ({ found with unsupported := · }) ending lexemes
  | "dce" =>
      knownValue .boolean boolOf ({ found with prune := · }) ending lexemes
  | "verify" =>
      knownValue .boolean boolOf ({ found with verify := · }) ending lexemes
  | _ =>
      match skipValue ending lexemes with
      | .error reason => .error reason
      | .ok rest => .ok (found, rest)

/-- One more token is read behind the object, whatever it is; but there must be one, or the end. -/
def finish (ending : Ending) (found : Members) (lexemes : List Lexeme) :
    Except ConfigError Members :=
  match lexemes, ending with
  | [], .broken error => .error (.malformed error)
  | _, _ => .ok found

theorem length_knownValue {expected : Expected} {valueOf : Lexeme → Except ConfigError α}
    {put : Option α → Members} {ending : Ending} {lexemes rest : List Lexeme} {next : Members}
    (read : knownValue expected valueOf put ending lexemes = .ok (next, rest)) :
    rest.length ≤ lexemes.length := by
  unfold knownValue at read
  split at read
  · contradiction
  · split at read
    · cases read
      exact Nat.le_succ _
    · split at read
      · contradiction
      · cases read
        exact Nat.le_succ _

theorem length_afterBrackets {ending : Ending} {depth : Nat} {lexemes rest : List Lexeme}
    (read : afterBrackets ending depth lexemes = .ok rest) : rest.length ≤ lexemes.length := by
  fun_induction afterBrackets ending depth lexemes with
  | case1 => cases read; exact Nat.le_refl _
  | case2 => contradiction
  | case3 => contradiction
  | case4 depth lexeme tail _ ih => exact Nat.le_succ_of_le (ih read)
  | case5 depth lexeme tail _ _ ih => exact Nat.le_succ_of_le (ih read)
  | case6 depth lexeme tail _ _ ih => exact Nat.le_succ_of_le (ih read)

theorem length_skipValue {ending : Ending} {lexemes rest : List Lexeme}
    (read : skipValue ending lexemes = .ok rest) : rest.length ≤ lexemes.length := by
  unfold skipValue at read
  split at read
  · split at read <;> contradiction
  · split at read
    · exact Nat.le_succ_of_le (length_afterBrackets read)
    · split at read
      · cases read
        exact Nat.le_succ _
      · contradiction

theorem length_readValue {ending : Ending} {found next : Members} {key : String}
    {lexemes rest : List Lexeme} (read : readValue ending found key lexemes = .ok (next, rest)) :
    rest.length ≤ lexemes.length := by
  unfold readValue at read
  split at read
  · exact length_knownValue read
  · exact length_knownValue read
  · exact length_knownValue read
  · exact length_knownValue read
  · split at read
    · contradiction
    · next skipped =>
        cases read
        exact length_skipValue skipped

/-- Reads members, each followed by a comma or by the end of the object. -/
def read (ending : Ending) (found : Members) (lexemes : List Lexeme) :
    Except ConfigError Members :=
  match lexemes with
  | ⟨.text key, _⟩ :: ⟨.colon, _⟩ :: value =>
      match _read : readValue ending found key value with
      | .error reason => .error reason
      | .ok (found, ⟨.comma, _⟩ :: rest) => read ending found rest
      | .ok (found, ⟨.curlyClose, _⟩ :: rest) => finish ending found rest
      | .ok (_, other) => .error (mismatch .commaOrClose ending other)
  | ⟨.text _, _⟩ :: other => .error (mismatch .colon ending other)
  | ⟨.curlyClose, _⟩ :: rest => finish ending found rest
  | other => .error (mismatch .curlyClose ending other)
termination_by lexemes.length
decreasing_by
  have bound := length_readValue _read
  simp only [List.length_cons] at *
  omega

/-- Reads an object.  What follows behind it is not looked at. -/
def ofText (text : String) : Except ConfigError Members :=
  let stream := TokenStream.ofText text
  match stream.lexemes with
  | ⟨.curlyOpen, _⟩ :: rest => read stream.ending .empty rest
  | other => .error (mismatch .curlyOpen stream.ending other)

end Members

end OpGraph
