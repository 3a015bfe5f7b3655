import Mathlib.Data.List.Induction
import OpGraph.Proofs.Config.Lexing
import OpGraph.Proofs.Config.Tolerance

namespace OpGraph.Config

open Json

/-! Configurations that are written as objects.  Whatever the order of the members and the blanks
between the tokens, reading gives back what was written; and a number that is too large or a word
that is no policy refuses the whole object, wherever it stands. -/

/-- A number in decimal, with any zeros in front. -/
structure Numeral where
  digits : List Char
  nonempty : digits ≠ []
  allDigits : digits.all Char.isDigit

namespace Numeral

def value (numeral : Numeral) : Nat :=
  Nat.ofDigitChars 10 numeral.digits 0

theorem isDigit (numeral : Numeral) : ∀ c ∈ numeral.digits, c.isDigit :=
  List.all_eq_true.mp numeral.allDigits

theorem toNat_ofNat_value {numeral : Numeral} (small : numeral.value < Nat.pow 2 64) :
    (UInt64.ofNat numeral.value).toNat = numeral.value :=
  UInt64.toNat_ofNat_of_lt' small

theorem areDigitsOf_iff {numeral : Numeral} {mask : UInt32}
    (small : numeral.value ≤ 4294967295) :
    AreDigitsOf numeral.digits mask ↔ .ofNat numeral.value = mask := by
  have value : (UInt32.ofNat numeral.value).toNat = numeral.value :=
    UInt32.toNat_ofNat_of_lt' (Nat.lt_succ_of_le small)
  constructor
  · intro areDigits
    exact UInt32.toNat_inj.mp (value.trans areDigits.2.2)
  · intro same
    exact ⟨numeral.nonempty, numeral.isDigit, value.symm.trans (congrArg UInt32.toNat same)⟩

end Numeral

/-- A text that can stand between quotes as it is. -/
structure Verbatim where
  content : List Char
  plain : Plain content

/-- A member of a configuration object; it is null if it has no value. -/
inductive Member where
  | debug (numeral : Option Numeral)
  | unsupported (word : Option Verbatim)
  | prune (value : Option Bool)
  | verify (value : Option Bool)

namespace Member

def key : Member → String
  | debug _ => "debug"
  | unsupported _ => "unsupported"
  | prune _ => "dce"
  | verify _ => "verify"

def literal : Member → List Char
  | debug (some numeral) => numeral.digits
  | unsupported (some word) => '"' :: word.content ++ ['"']
  | prune (some value) | verify (some value) => (if value then "true" else "false").toList
  | debug none | unsupported none | prune none | verify none => "null".toList

def pieces (member : Member) : List (List Char) :=
  ['"' :: member.key.toList ++ ['"'], [':'], member.literal]

/-- Members that are not accepted: numbers that are too large for a mask, and texts that are no name
of a policy. -/
def IsRefused : Member → Prop
  | debug (some numeral) => 4294967295 < numeral.value
  | unsupported (some word) =>
      ∀ policy : UnsupportedPolicy, ¬ policy.IsNamedBy (.ofList word.content)
  | _ => False

/-- What follows a member, if these are the others. -/
def piecesBehind : List Member → List (List Char)
  | [] => [['\x7d']]
  | member :: rest => [','] :: member.pieces ++ piecesBehind rest

/-- What follows the opening bracket. -/
def piecesInside : List Member → List (List Char)
  | [] => [['\x7d']]
  | member :: rest => member.pieces ++ piecesBehind rest

end Member

/-- Members with different keys. -/
structure WrittenObject where
  members : List Member
  once : (members.map Member.key).Nodup

namespace WrittenObject

/-- The members with commas between them, in brackets. -/
def pieces (object : WrittenObject) : List (List Char) :=
  ['\x7b'] :: Member.piecesInside object.members

def IsWrittenAs (object : WrittenObject) (text : String) : Prop :=
  Spaced object.pieces text.toList

/-- What the members mean; what is missing or null is not set. -/
structure Means (object : WrittenObject) (settings : Settings) : Prop where
  debug : ∀ mask, settings.debug = some mask ↔
    ∃ numeral, .debug (some numeral) ∈ object.members ∧ AreDigitsOf numeral.digits mask
  unsupported : ∀ policy, settings.unsupported = some policy ↔
    ∃ word, .unsupported (some word) ∈ object.members ∧ policy.IsNamedBy (.ofList word.content)
  prune : ∀ value, settings.prune = some value ↔ .prune (some value) ∈ object.members
  verify : ∀ value, settings.verify = some value ↔ .verify (some value) ∈ object.members

end WrittenObject

variable {ending : Ending} {found : Members} {lexemes later : List Lexeme} {token : Token}
  {rest : List Char} {member : Member} {members : List Member}

namespace Member

def token? : Member → Option Token
  | debug (some numeral) =>
      if numeral.value < Nat.pow 2 64 then some (.unsigned (.ofNat numeral.value)) else none
  | unsupported (some word) => some (.text (.ofList word.content))
  | prune (some value) | verify (some value) => some (.bool value)
  | debug none | unsupported none | prune none | verify none => some .null

/-- A literal that the member can have; any text is a literal for a policy. -/
def InRange : Member → Prop
  | debug (some numeral) => numeral.value ≤ 4294967295
  | _ => True

theorem inRange_of_not_isRefused (accepted : ¬ member.IsRefused) : member.InRange := by
  unfold InRange
  split
  · exact Nat.le_of_not_lt accepted
  · trivial

theorem exists_unknown (refused : member.IsRefused) (inRange : member.InRange) :
    ∃ word, member = unsupported (some word) ∧
      ∀ policy : UnsupportedPolicy, ¬ policy.IsNamedBy (.ofList word.content) := by
  unfold IsRefused at refused
  split at refused
  · exact absurd inRange (Nat.not_le_of_lt refused)
  · next word => exact ⟨word, rfl, refused⟩
  · exact refused.elim

/-- The members found so far and one more. -/
def put (found : Members) : Member → Members
  | debug numeral => { found with debug := numeral.map fun numeral => .ofNat numeral.value }
  | unsupported word => { found with unsupported := word.map fun word => .ofList word.content }
  | prune value => { found with prune := value }
  | verify value => { found with verify := value }

theorem scans_literal (read : member.token? = some token) (ends : Ends rest) :
    Scans member.literal rest token := by
  have null : Scans "null".toList rest .null := scans_word (by decide) ends
  have bool : ∀ value : Bool,
      Scans (if value then "true" else "false").toList rest (.bool value) := by
    intro value
    cases value with
    | true => exact scans_word (by decide) ends
    | false => exact scans_word (by decide) ends
  unfold token? at read
  split at read
  · next numeral =>
      split_ifs at read with small
      cases read
      exact scans_digits numeral.nonempty numeral.isDigit ends small
  all_goals cases read
  · next word => exact scans_text word.plain rest
  · exact bool _
  · exact bool _
  all_goals exact null

theorem breaks_literal (unread : member.token? = none) (ends : Ends rest) :
    Breaks member.literal rest ∧ ¬ member.InRange := by
  unfold token? at unread
  split at unread
  · next numeral =>
      split_ifs at unread with small
      refine ⟨breaks_digits numeral.nonempty numeral.isDigit ends small, fun inRange => ?_⟩
      have inRange : numeral.value ≤ 4294967295 := inRange
      have large : Nat.pow 2 64 = 18446744073709551616 := by decide
      omega
  all_goals cases unread

theorem readValue_of_inRange {position : Position} (read : member.token? = some token)
    (inRange : member.InRange) :
    Members.readValue ending found member.key (⟨token, position⟩ :: later) =
      .ok (member.put found, later) := by
  unfold token? at read
  split at read
  · next numeral =>
      split_ifs at read with small
      cases read
      have inRange : numeral.value ≤ 4294967295 := inRange
      simp [Members.readValue, Members.knownValue, Members.debugOf, key, put,
        Numeral.toNat_ofNat_value small, inRange]
  all_goals cases read
  all_goals simp [Members.readValue, Members.knownValue, Members.textOf, Members.boolOf, key, put]

theorem key_mem (member : Member) : member.key ∈ Members.knownKeys := by
  cases member <;> simp [key, Members.knownKeys]

theorem inRange_of_fits (read : member.token? = some token) (fits : Members.Fits member.key token) :
    member.InRange := by
  unfold InRange
  split
  · next numeral =>
      simp only [token?] at read
      split_ifs at read with small
      cases read
      simpa [Members.fits_iff, key, Numeral.toNat_ofNat_value small] using fits
  · trivial

theorem readValue_of_not_inRange (ending : Ending) (found : Members) (lexemes : List Lexeme)
    (read : ∀ lexeme ∈ lexemes.head?, member.token? = some lexeme.token)
    (outside : ¬ member.InRange) :
    ∃ reason, Members.readValue ending found member.key lexemes = .error reason := by
  cases ended : Members.readValue ending found member.key lexemes with
  | error reason => exact ⟨reason, rfl⟩
  | ok result =>
      obtain ⟨lexeme, rfl, fits⟩ :=
        (Members.readValue_known_ok_iff member.key_mem).mp ⟨result.1, ended⟩
      exact absurd (inRange_of_fits (read lexeme rfl) fits) outside

/-- How reading some members ends, after others were found. -/
inductive ReadTo (members : List Member) (found : Members) : Except ConfigError Members → Prop where
  | all (inRange : ∀ member ∈ members, member.InRange) :
      ReadTo members found (.ok (members.foldl put found))
  | refused {reason : ConfigError} (outside : ∃ member ∈ members, ¬ member.InRange)
      (ends : ∀ fault, reason ≠ .fatal fault) : ReadTo members found (.error reason)

theorem ReadTo.eq_ok {result : Except ConfigError Members} (readTo : ReadTo members found result)
    (inRange : ∀ member ∈ members, member.InRange) : result = .ok (members.foldl put found) := by
  cases readTo with
  | all _ => rfl
  | refused outside _ =>
      obtain ⟨member, listed, outside⟩ := outside
      exact absurd (inRange member listed) outside

theorem ReadTo.exists_reason {result : Except ConfigError Members}
    (readTo : ReadTo members found result) (outside : ¬ ∀ member ∈ members, member.InRange) :
    ∃ reason, result = .error reason ∧ ∀ fault, reason ≠ .fatal fault := by
  cases readTo with
  | all inRange => exact absurd inRange outside
  | refused _ ends => exact ⟨_, rfl, ends⟩

theorem ReadTo.cons (inRange : member.InRange) {result : Except ConfigError Members}
    (others : ReadTo members (member.put found) result) :
    ReadTo (member :: members) found result := by
  cases others with
  | all others => exact .all (List.forall_mem_cons.mpr ⟨inRange, others⟩)
  | refused outside ends =>
      obtain ⟨other, listed, outside⟩ := outside
      exact .refused ⟨other, List.mem_cons_of_mem _ listed, outside⟩ ends

theorem readTo_of_error {reason : ConfigError} {first second : Position}
    (outside : ¬ member.InRange)
    (failed : Members.readValue ending found member.key lexemes = .error reason) :
    ReadTo (member :: members) found (Members.read ending found
      (⟨.text member.key, first⟩ :: ⟨.colon, second⟩ :: lexemes)) := by
  rw [Members.read_failed failed]
  refine .refused ⟨member, List.mem_cons_self, outside⟩ fun fault same => ?_
  exact Members.readValue_known_ne_fatal member.key_mem (same ▸ failed)

/-- Members that are read inside of the brackets. -/
def ReadsInside (members : List Member) : Prop :=
  ∃ tokens whole, Reads (piecesInside members) tokens whole ∧
    ∀ {ending found lexemes}, Members.tokens lexemes = tokens → (Ending.IsWhole ending ↔ whole) →
      ReadTo members found (Members.read ending found lexemes)

/-- Members that are read behind the value of another one. -/
def ReadsBehind (members : List Member) : Prop :=
  ∃ tokens whole, Reads (piecesBehind members) tokens whole ∧
    ∀ {ending before found key value lexemes first second}, Members.tokens lexemes = tokens →
      (Ending.IsWhole ending ↔ whole) →
        Members.readValue ending before key value = .ok (found, lexemes) →
          ReadTo members found
            (Members.read ending before (⟨.text key, first⟩ :: ⟨.colon, second⟩ :: value))

theorem head?_piecesBehind (members : List Member) :
    (piecesBehind members).head? ∈ [some [','], some ['\x7d']] := by
  cases members <;> simp [piecesBehind]

theorem reads_key {pieces : List (List Char)} {tokens : List Token} {whole : Prop}
    (member : Member) (behind : Reads (member.literal :: pieces) tokens whole) :
    Reads (member.pieces ++ pieces) (.text member.key :: .colon :: tokens) whole := by
  have plain : Plain member.key.toList := by
    cases member <;> (simp only [key]; decide)
  have key : ∀ rest, Scans ('"' :: member.key.toList ++ ['"']) rest (.text member.key) := by
    intro rest
    simpa using scans_text plain rest
  exact .piece (fun rest _ => key rest) (.piece (fun rest _ => scans_mark (by simp) rest) behind)

theorem ReadsBehind.cons (behind : ReadsBehind members) (member : Member) :
    ReadsInside (member :: members) := by
  obtain ⟨tokens, whole, reads, readTo⟩ := behind
  have ends : ∀ rest, Spaced (piecesBehind members) rest → Ends rest := fun rest spaced =>
    spaced.ends (head?_piecesBehind members)
  cases read : member.token? with
  | none =>
      have broken : Reads (member.literal :: piecesBehind members) [] False :=
        .broken fun rest spaced => (breaks_literal read (ends rest spaced)).1
      have outside : ¬ member.InRange := (breaks_literal read (by simp [Ends] : Ends [])).2
      refine ⟨_, _, reads_key member broken, fun {ending found lexemes} same _ => ?_⟩
      obtain ⟨first, _, rfl, behindKey⟩ := Members.tokens_eq_cons_iff.mp same
      obtain ⟨second, _, rfl, nothing⟩ := Members.tokens_eq_cons_iff.mp behindKey
      obtain rfl := Members.tokens_eq_nil_iff.mp nothing
      obtain ⟨reason, failed⟩ := readValue_of_not_inRange ending found [] (by simp) outside
      exact readTo_of_error outside failed
  | some token =>
      have scanned : Reads (member.literal :: piecesBehind members) (token :: tokens) whole :=
        .piece (fun rest spaced => scans_literal read (ends rest spaced)) reads
      refine ⟨_, _, reads_key member scanned, fun {ending found lexemes} same ended => ?_⟩
      obtain ⟨first, _, rfl, behindKey⟩ := Members.tokens_eq_cons_iff.mp same
      obtain ⟨second, _, rfl, behindColon⟩ := Members.tokens_eq_cons_iff.mp behindKey
      obtain ⟨third, later, rfl, behindValue⟩ := Members.tokens_eq_cons_iff.mp behindColon
      by_cases inRange : member.InRange
      · exact .cons inRange (readTo behindValue ended (readValue_of_inRange read inRange))
      · obtain ⟨reason, failed⟩ := readValue_of_not_inRange ending found (⟨token, third⟩ :: later)
          (by simpa using read) inRange
        exact readTo_of_error inRange failed

theorem reads_close : Reads [['\x7d']] [.curlyClose] True :=
  .piece (fun rest _ => scans_mark (by simp) rest) .done

theorem finish_of_whole (whole : ending.IsWhole) :
    Members.finish ending found [] = .ok found := by
  obtain ⟨position, rfl⟩ := whole
  rfl

theorem readTo_nil (found : Members) : ReadTo [] found (.ok found) :=
  .all (by simp)

theorem readsBehind (members : List Member) : ReadsBehind members := by
  induction members with
  | nil =>
      refine ⟨_, _, reads_close,
        fun {ending before found key value lexemes first second} same ended read => ?_⟩
      obtain ⟨third, _, rfl, nothing⟩ := Members.tokens_eq_cons_iff.mp same
      obtain rfl := Members.tokens_eq_nil_iff.mp nothing
      rw [Members.read_last read, finish_of_whole (ended.mpr trivial)]
      exact readTo_nil found
  | cons member rest ih =>
      obtain ⟨tokens, whole, reads, readTo⟩ := ih.cons member
      have comma : Reads ([','] :: (member.pieces ++ piecesBehind rest)) (.comma :: tokens) whole :=
        .piece (fun rest _ => scans_mark (by simp) rest) reads
      refine ⟨_, _, comma, fun same ended read => ?_⟩
      obtain ⟨third, later, rfl, behindComma⟩ := Members.tokens_eq_cons_iff.mp same
      rw [Members.read_member read]
      exact readTo behindComma ended

theorem readsInside (members : List Member) : ReadsInside members := by
  cases members with
  | nil =>
      refine ⟨_, _, reads_close, fun {ending found lexemes} same ended => ?_⟩
      obtain ⟨third, _, rfl, nothing⟩ := Members.tokens_eq_cons_iff.mp same
      obtain rfl := Members.tokens_eq_nil_iff.mp nothing
      rw [Members.read, finish_of_whole (ended.mpr trivial)]
      exact readTo_nil found
  | cons member members => exact (readsBehind members).cons member

end Member

namespace WrittenObject

variable {text : String}

theorem readTo (object : WrittenObject) (written : object.IsWrittenAs text) :
    Member.ReadTo object.members .empty (Members.ofText text) := by
  obtain ⟨tokens, whole, reads, readTo⟩ := Member.readsInside object.members
  have opened : Reads object.pieces (.curlyOpen :: tokens) whole :=
    .piece (fun rest _ => scans_mark (by simp) rest) reads
  obtain ⟨same, ended⟩ := opened.lexes written .start (Cursor.lookAt text.toList ⟨0, 0⟩)
    (Cursor.chars_lookAt _ _)
  obtain ⟨first, later, lexemes, behind⟩ := Members.tokens_eq_cons_iff.mp same
  have read : Members.ofText text =
      Members.read (TokenStream.ofText text).ending .empty later := by
    rw [Members.ofText]
    unfold TokenStream.ofText
    rw [lexemes]
  rw [read]
  exact readTo behind ended

/-- The members as they are found, before the words of policies are looked at. -/
structure FoundIn (found : Members) (members : List Member) : Prop where
  debug : ∀ mask, found.debug = some mask ↔
    ∃ numeral, .debug (some numeral) ∈ members ∧ .ofNat numeral.value = mask
  unsupported : ∀ text, found.unsupported = some text ↔
    ∃ word, .unsupported (some word) ∈ members ∧ .ofList word.content = text
  prune : ∀ value, found.prune = some value ↔ .prune (some value) ∈ members
  verify : ∀ value, found.verify = some value ↔ .verify (some value) ∈ members

theorem FoundIn.put (foundIn : FoundIn found members)
    (new : member.key ∉ members.map Member.key) :
    FoundIn (member.put found) (members ++ [member]) := by
  have absent : ∀ other, other.key = member.key → other ∉ members := fun other same listed =>
    new (List.mem_map.mpr ⟨other, listed, same⟩)
  obtain ⟨debug, unsupported, prune, verify⟩ := foundIn
  cases member with
  | debug numeral =>
      have absent : ∀ other, .debug other ∉ members := fun other => absent _ rfl
      constructor <;> simp [Member.put, *, @eq_comm _ (some _)]
  | unsupported word =>
      have absent : ∀ other, .unsupported other ∉ members := fun other => absent _ rfl
      constructor <;> simp [Member.put, *, @eq_comm _ (some _)]
  | prune value =>
      have absent : ∀ other, .prune other ∉ members := fun other => absent _ rfl
      constructor <;> simp [Member.put, *, @eq_comm _ (some _)]
  | verify value =>
      have absent : ∀ other, .verify other ∉ members := fun other => absent _ rfl
      constructor <;> simp [Member.put, *, @eq_comm _ (some _)]

theorem foundIn_foldl {members : List Member} (once : (members.map Member.key).Nodup) :
    FoundIn (members.foldl Member.put .empty) members := by
  induction members using List.reverseRecOn with
  | nil => constructor <;> simp [Members.empty]
  | append_singleton members member ih =>
      rw [List.map_append, List.map_singleton] at once
      obtain ⟨earlier, _, apart⟩ := List.nodup_append.mp once
      rw [List.foldl_append]
      apply (ih earlier).put
      exact fun listed => apart member.key listed member.key (by simp) rfl

variable {object : WrittenObject} {policy : Option UnsupportedPolicy}

theorem FoundIn.exists_policy (foundIn : FoundIn found object.members)
    (accepted : ∀ member ∈ object.members, ¬ member.IsRefused) : ∃ policy,
      Option.Rel (fun word policy => UnsupportedPolicy.IsNamedBy policy word)
        found.unsupported policy := by
  cases given : found.unsupported with
  | none => exact ⟨none, .none⟩
  | some text =>
      obtain ⟨word, listed, rfl⟩ := (foundIn.unsupported text).mp given
      obtain ⟨policy, named⟩ := not_forall_not.mp (accepted _ listed)
      exact ⟨some policy, .some named⟩

theorem FoundIn.means (foundIn : FoundIn found object.members)
    (accepted : ∀ member ∈ object.members, ¬ member.IsRefused)
    (named : Option.Rel (fun word policy => UnsupportedPolicy.IsNamedBy policy word)
      found.unsupported policy) :
    object.Means ⟨found.debug, policy, found.prune, found.verify⟩ where
  debug := by
    intro mask
    refine (foundIn.debug mask).trans (exists_congr fun numeral => and_congr_right fun listed => ?_)
    exact (Numeral.areDigitsOf_iff (Nat.le_of_not_lt (accepted _ listed))).symm
  unsupported := by
    intro other
    constructor
    · intro same
      subst same
      cases given : found.unsupported with
      | none => simp [given] at named
      | some text =>
          obtain ⟨word, listed, rfl⟩ := (foundIn.unsupported text).mp given
          exact ⟨word, listed, by simpa [given] using named⟩
    · intro written
      obtain ⟨word, listed, otherNamed⟩ := written
      have given := (foundIn.unsupported _).mpr ⟨word, listed, rfl⟩
      rw [given] at named
      cases named with
      | some named => exact congrArg some (UnsupportedPolicy.IsNamedBy.unique named otherNamed)
  prune := foundIn.prune
  verify := foundIn.verify

theorem exists_means (written : object.IsWrittenAs text)
    (accepted : ∀ member ∈ object.members, ¬ member.IsRefused) :
    ∃ settings, object.Means settings ∧ ofText text = .ok settings.config := by
  have foundIn := foundIn_foldl object.once
  obtain ⟨policy, named⟩ := foundIn.exists_policy accepted
  have read : Members.ofText text = .ok (object.members.foldl Member.put .empty) :=
    (object.readTo written).eq_ok fun member listed =>
      Member.inRange_of_not_isRefused (accepted member listed)
  exact ⟨_, foundIn.means accepted named, (ofText_of_object read).trans (override_of_named named)⟩

/-- A number that is too large stops the reading; words are looked at when all is read. -/
theorem exists_reason (written : object.IsWrittenAs text) (listed : member ∈ object.members)
    (refused : member.IsRefused) :
    ∃ reason, ofText text = .error reason ∧ ∀ fault, reason ≠ .fatal fault := by
  have readTo := object.readTo written
  by_cases inRange : ∀ member ∈ object.members, member.InRange
  · obtain ⟨word, rfl, unknown⟩ := Member.exists_unknown refused (inRange member listed)
    have given := ((foundIn_foldl object.once).unsupported _).mpr ⟨word, listed, rfl⟩
    have read := ofText_of_object (readTo.eq_ok inRange)
    exact ⟨_, read.trans (override_of_unknown given unknown), nofun⟩
  · obtain ⟨reason, read, ends⟩ := readTo.exists_reason inRange
    exact ⟨reason, ofText_of_no_object read, ends⟩

/-- Written configurations are read as what they mean, and written ones with a value that is not
accepted are refused, in whatever order and layout they are written. -/
theorem ofText_of_written (written : object.IsWrittenAs text) :
    ((∀ member ∈ object.members, ¬ member.IsRefused) →
      ∃ settings, object.Means settings ∧ ofText text = .ok settings.config) ∧
    ∀ member ∈ object.members, member.IsRefused →
      ∃ reason message, ofText text = .error reason ∧ reason.diagnostic = .parse message := by
  refine ⟨exists_means written, fun member listed refused => ?_⟩
  obtain ⟨reason, failed, ends⟩ := exists_reason written listed refused
  obtain ⟨message, parse⟩ := ConfigError.exists_parse ends
  exact ⟨reason, message, failed, parse⟩

end WrittenObject

/-- A policy in capitals, a number with zeros in front and a member that is null. -/
def looseObject : WrittenObject where
  members :=
    [.verify none, .debug (some ⟨['0', '0', '7'], by decide, by decide⟩), .prune (some false),
      .unsupported (some ⟨"IGNORE".toList, by decide⟩)]
  once := by decide

def looseText : String :=
  "\t\x7b \"verify\" : null ,\r\n\"debug\":007, \"dce\" :false,\"unsupported\": \"IGNORE\"\n\x7d "

/-- The last member is refused, after one that was read. -/
def lateObject : WrittenObject where
  members :=
    [.prune (some true), .debug (some ⟨"18446744073709551616".toList, by decide, by decide⟩)]
  once := by decide

def lateText : String :=
  "\x7b\"dce\":true,\n \"debug\": 18446744073709551616\x7d"

theorem looseObject_read :
    looseObject.IsWrittenAs looseText ∧ lateObject.IsWrittenAs lateText ∧
      (∃ settings, looseObject.Means settings ∧ ofText looseText = .ok settings.config ∧
        settings.config = { debug := 7, unsupported := .ignore, prune := false, verify := true }) ∧
        ∃ reason message, ofText lateText = .error reason ∧
          reason.diagnostic = .parse message := by
  have loose : looseObject.IsWrittenAs looseText := spaced_of_isSpaced (by decide +kernel)
  have late : lateObject.IsWrittenAs lateText := spaced_of_isSpaced (by decide +kernel)
  have accepted : ∀ member ∈ looseObject.members, ¬ member.IsRefused := by
    have ignore : UnsupportedPolicy.ignore.IsNamedBy "IGNORE" :=
      UnsupportedPolicy.isNamedBy_iff.mpr (by decide)
    intro member listed
    simp only [looseObject, List.mem_cons, List.not_mem_nil, or_false] at listed
    rcases listed with rfl | rfl | rfl | rfl
    · exact id
    · exact Nat.not_lt.mpr (by decide)
    · exact id
    · exact fun unknown => unknown .ignore ignore
  obtain ⟨settings, means, read⟩ := (WrittenObject.ofText_of_written loose).1 accepted
  have config : ofText looseText =
      .ok { debug := 7, unsupported := .ignore, prune := false, verify := true } := by
    decide +kernel
  refine ⟨loose, late, ⟨settings, means, read, ?_⟩, ?_⟩
  · exact Except.ok.inj (read.symm.trans config)
  · refine (WrittenObject.ofText_of_written late).2 (.debug (some _))
      (List.mem_cons_of_mem _ List.mem_cons_self) ?_
    exact (by decide : 4294967295 < Nat.ofDigitChars 10 "18446744073709551616".toList 0)

end OpGraph.Config
