import Mathlib.Data.List.Basic
import Mathlib.Tactic.MkIffOfInductiveProp
import OpGraph.Config.Text

namespace OpGraph

namespace Json

/-- All of a text was read, up to its end. -/
def Ending.IsWhole (ending : Ending) : Prop := ∃ position, ending = .finished position

@[simp]
theorem Ending.isWhole_finished (position : Position) : (finished position).IsWhole :=
  ⟨position, rfl⟩

@[simp]
theorem Ending.not_isWhole_broken (error : Error) : ¬ (broken error).IsWhole := nofun

end Json

open Json

/-! What the members of a configuration are made of, as sequences of tokens.  Reading goes past a
value exactly if it is one, so it gets as far as the members are members and each is followed by a
comma.  At the value of an unknown key it can come to a place from which it does not return. -/

namespace Members

def knownKeys : List String := ["debug", "unsupported", "dce", "verify"]

/-- The values of known keys, each a single token. -/
@[mk_iff]
inductive Fits : String → Token → Prop where
  | null {key : String} (known : key ∈ knownKeys) : Fits key .null
  | debug {value : UInt64} (inRange : value.toNat ≤ 4294967295) : Fits "debug" (.unsigned value)
  | unsupported (content : String) : Fits "unsupported" (.text content)
  | dce (value : Bool) : Fits "dce" (.bool value)
  | verify (value : Bool) : Fits "verify" (.bool value)

/-- Sequences of tokens that close so many open brackets, the last of them with their last token.
Brackets of the two kinds count alike. -/
inductive Closes : Nat → List Token → Prop where
  | done : Closes 0 []
  | opening {depth : Nat} {token : Token} {rest : List Token} (opens : token.isOpening)
      (later : Closes (depth + 2) rest) : Closes (depth + 1) (token :: rest)
  | closing {depth : Nat} {token : Token} {rest : List Token} (closes : token.isClosing)
      (later : Closes depth rest) : Closes (depth + 1) (token :: rest)
  | other {depth : Nat} {token : Token} {rest : List Token} (opens : ¬ token.isOpening)
      (closes : ¬ token.isClosing) (later : Closes (depth + 1) rest) :
      Closes (depth + 1) (token :: rest)

/-- What is passed over as one value: a token that is one, or all up to a closing bracket. -/
@[mk_iff]
inductive Skippable : List Token → Prop where
  | scalar {token : Token} (scalar : token.isScalar) : Skippable [token]
  | bracketed {token : Token} {inner : List Token} (opens : token.isOpening)
      (closes : Closes 1 inner) : Skippable (token :: inner)

/-- The values of a key.  Those of an unknown one are not looked at. -/
@[mk_iff]
inductive IsValue (key : String) : List Token → Prop where
  | known {token : Token} (fits : Fits key token) : IsValue key [token]
  | unknown {value : List Token} (unknown : key ∉ knownKeys) (skippable : Skippable value) :
      IsValue key value

/-- Members that are each followed by a comma. -/
inductive AreMembers : List Token → Prop where
  | none : AreMembers []
  | cons {key : String} {value rest : List Token} (isValue : IsValue key value)
      (others : AreMembers rest) :
      AreMembers (.text key :: .colon :: (value ++ .comma :: rest))

/-- The tokens behind the colon of an unknown key, from which reading does not return.  Behind the
last token stands the end of the text if all of it was read. -/
@[mk_iff]
inductive Stuck (whole : Prop) : List Token → ConfigFault → Prop where
  | missing (ended : whole) : Stuck whole [] (.unskippable .finish)
  | unskippable {token : Token} {rest : List Token} (opens : ¬ token.isOpening)
      (scalar : ¬ token.isScalar) : Stuck whole (token :: rest) (.unskippable token)
  | unclosed {token : Token} {rest : List Token} (opens : token.isOpening) (ended : whole)
      (stays : ∀ inner later, rest = inner ++ later → ¬ Closes 1 inner) :
      Stuck whole (token :: rest) .unclosed

variable {ending : Ending} {depth : Nat} {key : String} {lexeme : Lexeme}
  {lexemes rest : List Lexeme} {found next : Members} {fault : ConfigFault} {reason : ConfigError}

/-- The tokens of lexemes, whatever their places. -/
def tokens (lexemes : List Lexeme) : List Token := lexemes.map (·.token)

@[simp]
theorem tokens_nil : tokens [] = [] := rfl

@[simp]
theorem tokens_cons (lexeme : Lexeme) (lexemes : List Lexeme) :
    tokens (lexeme :: lexemes) = lexeme.token :: tokens lexemes := rfl

@[simp]
theorem tokens_eq_nil_iff : tokens lexemes = [] ↔ lexemes = [] := List.map_eq_nil_iff

theorem tokens_eq_cons_iff {token : Token} {later : List Token} : tokens lexemes = token :: later ↔
    ∃ position tail, lexemes = ⟨token, position⟩ :: tail ∧ tokens tail = later := by
  cases lexemes with
  | nil => simp
  | cons lexeme tail =>
      cases lexeme
      simp

@[simp]
theorem tokens_append (first second : List Lexeme) :
    tokens (first ++ second) = tokens first ++ tokens second := List.map_append

theorem tokens_eq_append_iff {first second : List Token} : tokens lexemes = first ++ second ↔
    ∃ front back, lexemes = front ++ back ∧ tokens front = first ∧ tokens back = second :=
  List.map_eq_append_iff

/-- Lexemes that begin with a part of some kind and go on with others. -/
def BeginsWith (IsPart : List Token → Prop) (lexemes rest : List Lexeme) : Prop :=
  ∃ front, lexemes = front ++ rest ∧ IsPart (tokens front)

section BeginsWith

variable {IsPart : List Token → Prop}

theorem not_beginsWith_nil (nonempty : ¬ IsPart []) : ¬ BeginsWith IsPart [] rest := by
  rintro ⟨front, same, isPart⟩
  obtain ⟨rfl, rfl⟩ := List.append_eq_nil_iff.mp same.symm
  exact nonempty isPart

theorem beginsWith_cons_iff (nonempty : ¬ IsPart []) : BeginsWith IsPart (lexeme :: lexemes) rest ↔
    BeginsWith (fun later => IsPart (lexeme.token :: later)) lexemes rest := by
  constructor
  · rintro ⟨front, same, isPart⟩
    cases front with
    | nil => exact absurd isPart nonempty
    | cons _ front =>
        cases same
        exact ⟨front, rfl, isPart⟩
  · rintro ⟨front, rfl, isPart⟩
    exact ⟨lexeme :: front, rfl, isPart⟩

end BeginsWith

theorem Closes.opening_iff {token : Token} {later : List Token} (opens : token.isOpening) :
    Closes (depth + 1) (token :: later) ↔ Closes (depth + 2) later := by
  refine ⟨fun closed => ?_, .opening opens⟩
  cases closed with
  | opening _ later => exact later
  | closing closes _ => cases token <;> contradiction
  | other opens' _ _ => exact absurd opens opens'

theorem Closes.closing_iff {token : Token} {later : List Token} (opens : ¬ token.isOpening)
    (closes : token.isClosing) : Closes (depth + 1) (token :: later) ↔ Closes depth later := by
  refine ⟨fun closed => ?_, .closing closes⟩
  cases closed with
  | opening opens' _ => exact absurd opens' opens
  | closing _ later => exact later
  | other _ closes' _ => exact absurd closes closes'

theorem Closes.other_iff {token : Token} {later : List Token} (opens : ¬ token.isOpening)
    (closes : ¬ token.isClosing) :
    Closes (depth + 1) (token :: later) ↔ Closes (depth + 1) later := by
  refine ⟨fun closed => ?_, .other opens closes⟩
  cases closed with
  | opening opens' _ => exact absurd opens' opens
  | closing closes' _ => exact absurd closes' closes
  | other _ _ later => exact later

theorem not_closes_nil : ¬ Closes (depth + 1) [] := nofun

theorem afterBrackets_eq_ok_iff :
    afterBrackets ending depth lexemes = .ok rest ↔ BeginsWith (Closes depth) lexemes rest := by
  fun_induction afterBrackets ending depth lexemes with
  | case1 lexemes =>
      constructor
      · intro same
        cases same
        exact ⟨[], rfl, .done⟩
      · rintro ⟨inner, rfl, closes⟩
        cases inner with
        | nil => rfl
        | cons => cases closes
  | case2 => simp only [reduceCtorEq, not_beginsWith_nil not_closes_nil]
  | case3 => simp only [reduceCtorEq, not_beginsWith_nil not_closes_nil]
  | case4 depth lexeme tail opens ih =>
      simp only [ih, beginsWith_cons_iff not_closes_nil, Closes.opening_iff opens]
  | case5 depth lexeme tail opens closes ih =>
      simp only [ih, beginsWith_cons_iff not_closes_nil, Closes.closing_iff opens closes]
  | case6 depth lexeme tail opens closes ih =>
      simp only [ih, beginsWith_cons_iff not_closes_nil, Closes.other_iff opens closes]

/-- Brackets that stay open are a fault at the end of the text, and else what broke the text off is
what is wrong. -/
theorem reason_of_afterBrackets (failed : afterBrackets ending depth lexemes = .error reason) :
    (ending.IsWhole ∧ reason = .fatal .unclosed) ∨
      ∃ error, ending = .broken error ∧ reason = .malformed error := by
  fun_induction afterBrackets ending depth lexemes with
  | case1 => cases failed
  | case2 depth position ended =>
      cases failed
      exact .inl ⟨⟨position, ended⟩, rfl⟩
  | case3 depth error broken =>
      cases failed
      exact .inr ⟨error, broken, rfl⟩
  | case4 depth lexeme tail _ ih => exact ih failed
  | case5 depth lexeme tail _ _ ih => exact ih failed
  | case6 depth lexeme tail _ _ ih => exact ih failed

theorem afterBrackets_eq_fatal_iff : afterBrackets ending depth lexemes = .error (.fatal fault) ↔
    fault = .unclosed ∧ ending.IsWhole ∧
      ∀ inner later, tokens lexemes = inner ++ later → ¬ Closes depth inner := by
  constructor
  · intro failed
    obtain ⟨whole, same⟩ | ⟨error, _, impossible⟩ := reason_of_afterBrackets failed
    · refine ⟨by cases same; rfl, whole, fun inner later split closes => ?_⟩
      obtain ⟨first, second, rfl, rfl, rfl⟩ := List.map_eq_append_iff.mp split
      rw [afterBrackets_eq_ok_iff.mpr ⟨first, rfl, closes⟩] at failed
      cases failed
    · cases impossible
  · rintro ⟨rfl, ⟨position, rfl⟩, never⟩
    cases read : afterBrackets (.finished position) depth lexemes with
    | ok rest =>
        obtain ⟨inner, rfl, closes⟩ := afterBrackets_eq_ok_iff.mp read
        exact absurd closes (never _ (tokens rest) List.map_append)
    | error reason =>
        obtain ⟨_, rfl⟩ | ⟨error, impossible, _⟩ := reason_of_afterBrackets read
        · rfl
        · cases impossible

theorem Fits.known {token : Token} (fits : Fits key token) : key ∈ knownKeys := by
  cases fits with
  | null known => exact known
  | debug | unsupported | dce | verify => decide

theorem debugOf_ok_iff : (∃ mask, debugOf lexeme = .ok mask) ↔
    ∃ value, lexeme.token = .unsigned value ∧ value.toNat ≤ 4294967295 := by
  fun_cases debugOf lexeme <;> simp_all

theorem textOf_ok_iff :
    (∃ content, textOf lexeme = .ok content) ↔ ∃ content, lexeme.token = .text content := by
  fun_cases textOf lexeme <;> simp_all

theorem boolOf_ok_iff :
    (∃ value, boolOf lexeme = .ok value) ↔ ∃ value, lexeme.token = .bool value := by
  fun_cases boolOf lexeme <;> simp_all

theorem debugOf_ne_fatal (lexeme : Lexeme) : debugOf lexeme ≠ .error (.fatal fault) := by
  fun_cases debugOf lexeme <;> simp

theorem textOf_ne_fatal (lexeme : Lexeme) : textOf lexeme ≠ .error (.fatal fault) := by
  fun_cases textOf lexeme <;> simp

theorem boolOf_ne_fatal (lexeme : Lexeme) : boolOf lexeme ≠ .error (.fatal fault) := by
  fun_cases boolOf lexeme <;> simp

section Known

variable {α : Type} {expected : Expected} {valueOf : Lexeme → Except ConfigError α}
  {put : Option α → Members}

theorem knownValue_ok_iff :
    (∃ next, knownValue expected valueOf put ending lexemes = .ok (next, rest)) ↔
      ∃ lexeme, lexemes = lexeme :: rest ∧
        (lexeme.token = .null ∨ ∃ value, valueOf lexeme = .ok value) := by
  fun_cases knownValue expected valueOf put ending lexemes <;> simp_all

theorem knownValue_ne_fatal (refuses : ∀ lexeme, valueOf lexeme ≠ .error (.fatal fault)) :
    knownValue expected valueOf put ending lexemes ≠ .error (.fatal fault) := by
  fun_cases knownValue expected valueOf put ending lexemes with
  | case1 => simp [mismatch]
  | case2 => simp
  | case3 lexeme rest null reason failed =>
      rintro ⟨⟩
      exact refuses lexeme failed
  | case4 => simp

end Known

theorem readValue_known_ok_iff (known : key ∈ knownKeys) :
    (∃ next, readValue ending found key lexemes = .ok (next, rest)) ↔
      ∃ lexeme, lexemes = lexeme :: rest ∧ Fits key lexeme.token := by
  obtain rfl | rfl | rfl | rfl : key = "debug" ∨ key = "unsupported" ∨ key = "dce" ∨
      key = "verify" := by simpa [knownKeys] using known
  · simp [readValue, knownValue_ok_iff, fits_iff, debugOf_ok_iff, knownKeys, and_comm]
  · simp [readValue, knownValue_ok_iff, fits_iff, textOf_ok_iff, knownKeys]
  · simp [readValue, knownValue_ok_iff, fits_iff, boolOf_ok_iff, knownKeys, -Bool.exists_bool]
  · simp [readValue, knownValue_ok_iff, fits_iff, boolOf_ok_iff, knownKeys, -Bool.exists_bool]

theorem readValue_known_ne_fatal (known : key ∈ knownKeys) :
    readValue ending found key lexemes ≠ .error (.fatal fault) := by
  unfold readValue
  split
  · exact knownValue_ne_fatal debugOf_ne_fatal
  · exact knownValue_ne_fatal textOf_ne_fatal
  · exact knownValue_ne_fatal boolOf_ne_fatal
  · exact knownValue_ne_fatal boolOf_ne_fatal
  · simp_all [knownKeys]

theorem readValue_unknown (unknown : key ∉ knownKeys) :
    readValue ending found key lexemes = (skipValue ending lexemes).map (found, ·) := by
  unfold readValue
  split
  · exact absurd (by decide) unknown
  · exact absurd (by decide) unknown
  · exact absurd (by decide) unknown
  · exact absurd (by decide) unknown
  · cases skipValue ending lexemes <;> rfl

theorem skippable_cons_iff {token : Token} {later : List Token} : Skippable (token :: later) ↔
    (token.isScalar ∧ later = []) ∨ (token.isOpening ∧ Closes 1 later) := by
  simp [skippable_iff]

theorem not_isScalar_of_isOpening {token : Token} (opens : token.isOpening) :
    ¬ token.isScalar := by
  cases token with
  | curlyOpen | blockOpen => nofun
  | _ => contradiction

theorem skipValue_eq_ok_iff :
    skipValue ending lexemes = .ok rest ↔ BeginsWith Skippable lexemes rest := by
  have nonempty : ¬ Skippable [] := nofun
  fun_cases skipValue ending lexemes with
  | case1 => simp only [reduceCtorEq, not_beginsWith_nil nonempty]
  | case2 => simp only [reduceCtorEq, not_beginsWith_nil nonempty]
  | case3 _ lexeme tail opens =>
      simp [beginsWith_cons_iff nonempty, skippable_cons_iff, opens,
        not_isScalar_of_isOpening opens, afterBrackets_eq_ok_iff]
  | case4 _ lexeme tail opens scalar =>
      rw [beginsWith_cons_iff nonempty]
      simp [skippable_cons_iff, opens, scalar, BeginsWith]
  | case5 _ lexeme tail opens scalar =>
      rw [beginsWith_cons_iff nonempty]
      simp [skippable_cons_iff, opens, scalar, BeginsWith]

theorem skipValue_eq_fatal_iff : skipValue ending lexemes = .error (.fatal fault) ↔
    Stuck ending.IsWhole (tokens lexemes) fault := by
  fun_cases skipValue ending lexemes with
  | case1 position => simp [stuck_iff, eq_comm (b := fault)]
  | case2 error => simp [stuck_iff]
  | case3 _ lexeme tail opens =>
      simp [afterBrackets_eq_fatal_iff, stuck_iff, opens, and_left_comm, and_comm]
  | case4 _ lexeme tail opens scalar => simp [stuck_iff, opens, scalar]
  | case5 _ lexeme tail opens scalar => simp [stuck_iff, opens, scalar, eq_comm (b := fault)]

/-- A value is passed over as a whole, whatever stands behind it. -/
theorem readValue_ok_iff : (∃ next, readValue ending found key lexemes = .ok (next, rest)) ↔
    BeginsWith (IsValue key) lexemes rest := by
  by_cases known : key ∈ knownKeys
  · rw [readValue_known_ok_iff known]
    constructor
    · rintro ⟨lexeme, rfl, fits⟩
      exact ⟨[lexeme], rfl, .known fits⟩
    · rintro ⟨value, rfl, isValue⟩
      obtain ⟨token, fits, single⟩ | ⟨unknown, _⟩ := (isValue_iff ..).mp isValue
      · obtain ⟨position, tail, rfl, nil⟩ := tokens_eq_cons_iff.mp single
        obtain rfl := tokens_eq_nil_iff.mp nil
        exact ⟨_, rfl, fits⟩
      · exact absurd known unknown
  · have skips : (∃ next, readValue ending found key lexemes = .ok (next, rest)) ↔
        skipValue ending lexemes = .ok rest := by
      rw [readValue_unknown known]
      cases skipValue ending lexemes <;> simp [Except.map]
    rw [skips, skipValue_eq_ok_iff]
    refine exists_congr fun value => and_congr_right fun _ => ⟨.unknown known, fun isValue => ?_⟩
    obtain ⟨_, fits, _⟩ | ⟨_, skippable⟩ := (isValue_iff ..).mp isValue
    · exact absurd fits.known known
    · exact skippable

theorem readValue_eq_fatal_iff :
    readValue ending found key lexemes = .error (.fatal fault) ↔
      key ∉ knownKeys ∧ Stuck ending.IsWhole (tokens lexemes) fault := by
  by_cases known : key ∈ knownKeys
  · simp [readValue_known_ne_fatal, known]
  · rw [readValue_unknown known, ← skipValue_eq_fatal_iff]
    cases skipValue ending lexemes <;> simp [known, Except.map]

/-- The tokens behind an opening bracket, where reading an object does not come to an end. -/
def StopsIn (whole : Prop) (object : List Token) (fault : ConfigFault) : Prop :=
  ∃ front key tail, object = front ++ .text key :: .colon :: tail ∧ AreMembers front ∧
    key ∉ knownKeys ∧ Stuck whole tail fault

theorem read_member {first second third : Position}
    (isValue : readValue ending found key lexemes = .ok (next, ⟨.comma, third⟩ :: rest)) :
    read ending found (⟨.text key, first⟩ :: ⟨.colon, second⟩ :: lexemes) =
      read ending next rest := by
  rw [read]
  split <;> simp_all

theorem read_last {first second third : Position}
    (isValue : readValue ending found key lexemes = .ok (next, ⟨.curlyClose, third⟩ :: rest)) :
    read ending found (⟨.text key, first⟩ :: ⟨.colon, second⟩ :: lexemes) =
      finish ending next rest := by
  rw [read]
  split <;> simp_all

theorem read_failed {first second : Position}
    (failed : readValue ending found key lexemes = .error reason) :
    read ending found (⟨.text key, first⟩ :: ⟨.colon, second⟩ :: lexemes) = .error reason := by
  rw [read]
  split <;> simp_all

theorem read_eq_fatal_of_stopsIn (stops : StopsIn ending.IsWhole (tokens lexemes) fault) :
    read ending found lexemes = .error (.fatal fault) := by
  obtain ⟨front, key, tail, same, members, unknown, stuck⟩ := stops
  induction members generalizing found lexemes with
  | none =>
      obtain ⟨first, _, rfl, behindKey⟩ := tokens_eq_cons_iff.mp same
      obtain ⟨second, value, rfl, rfl⟩ := tokens_eq_cons_iff.mp behindKey
      exact read_failed (readValue_eq_fatal_iff.mpr ⟨unknown, stuck⟩)
  | cons isValue others ih =>
      simp only [List.cons_append, List.append_assoc] at same
      obtain ⟨first, _, rfl, behindKey⟩ := tokens_eq_cons_iff.mp same
      obtain ⟨second, _, rfl, behindColon⟩ := tokens_eq_cons_iff.mp behindKey
      obtain ⟨value, _, rfl, rfl, behindValue⟩ := tokens_eq_append_iff.mp behindColon
      obtain ⟨third, later, rfl, behindComma⟩ := tokens_eq_cons_iff.mp behindValue
      obtain ⟨next, member⟩ := readValue_ok_iff.mpr ⟨value, rfl, isValue⟩
      rw [read_member member]
      exact ih behindComma

theorem mismatch_ne_fatal (expected : Expected) (ending : Ending) (lexemes : List Lexeme) :
    mismatch expected ending lexemes ≠ .fatal fault := nofun

theorem finish_ne_fatal : finish ending found lexemes ≠ .error (.fatal fault) := by
  fun_cases finish ending found lexemes <;> simp

theorem stopsIn_of_read (failed : read ending found lexemes = .error (.fatal fault)) :
    StopsIn ending.IsWhole (tokens lexemes) fault := by
  fun_induction read ending found lexemes with
  | case1 found key _ _ value reason reads =>
      cases failed
      obtain ⟨unknown, stuck⟩ := readValue_eq_fatal_iff.mp reads
      exact ⟨[], key, tokens value, rfl, .none, unknown, stuck⟩
  | case2 found key _ _ value next _ rest reads ih =>
      obtain ⟨front, other, tail, same, members, stops⟩ := ih failed
      obtain ⟨value, rfl, isValue⟩ := readValue_ok_iff.mp ⟨next, reads⟩
      exact ⟨_, other, tail, by simp [tokens_append, same], .cons isValue members, stops⟩
  | case3 => exact absurd failed finish_ne_fatal
  | case4 => exact absurd (Except.error.inj failed) (mismatch_ne_fatal _ _ _)
  | case5 => exact absurd (Except.error.inj failed) (mismatch_ne_fatal _ _ _)
  | case6 => exact absurd failed finish_ne_fatal
  | case7 => exact absurd (Except.error.inj failed) (mismatch_ne_fatal _ _ _)

theorem read_eq_fatal_iff : read ending found lexemes = .error (.fatal fault) ↔
    StopsIn ending.IsWhole (tokens lexemes) fault :=
  ⟨stopsIn_of_read, read_eq_fatal_of_stopsIn⟩

/-- The texts on which reading a configuration does not come to an end. -/
def StopsAt (text : String) (fault : ConfigFault) : Prop :=
  ∃ object, tokens (TokenStream.ofText text).lexemes = .curlyOpen :: object ∧
    StopsIn (TokenStream.ofText text).ending.IsWhole object fault

theorem ofText_eq_fatal_iff {text : String} :
    ofText text = .error (.fatal fault) ↔ StopsAt text fault := by
  rw [ofText, StopsAt]
  split
  · next position rest lexemes => simp [lexemes, read_eq_fatal_iff]
  · next noObject =>
      simp only [Except.error.injEq, mismatch_ne_fatal, false_iff]
      rintro ⟨object, same, _⟩
      obtain ⟨position, rest, opens, _⟩ := tokens_eq_cons_iff.mp same
      exact noObject position rest opens

end Members

end OpGraph
