import OpGraph.Proofs.Config.Grammar
import OpGraph.Proofs.Config.Words
import OpGraph.Proofs.Utf8

namespace OpGraph

/-! The layers of a configuration.  A value comes from a variable of the environment, else from the
file that was consulted, else it is the default.  The file is the first candidate that holds a text,
and it sets everything it says or nothing. -/

/-- What a file sets of a configuration; it may leave out anything. -/
structure Settings where
  debug : Option UInt32
  unsupported : Option UnsupportedPolicy
  prune : Option Bool
  verify : Option Bool

namespace Settings

def nothing : Settings :=
  { debug := none, unsupported := none, prune := none, verify := none }

/-- The defaults below some settings. -/
def config (settings : Settings) : Config :=
  { debug := settings.debug.getD 0
    unsupported := settings.unsupported.getD .warn
    prune := settings.prune.getD true
    verify := settings.verify.getD true }

end Settings

namespace Config

variable {read other : Path → FileResult} {environment : Environment} {path : Path} {text : String}
  {candidates passed later : List Path} {file : Option (Path × String)} {members : Members}
  {settings : Settings} {used : Notice} {policy : Option UnsupportedPolicy} {mask : Option UInt32}
  {stored : Option (List UInt8)} {ignored : List Notice}

/-- A path where a text can be read. -/
def Holds (read : Path → FileResult) (path : Path) (text : String) : Prop :=
  read path = .content (Utf8.encode text)

/-- The candidates that are passed by, and the file that is consulted, if any is. -/
inductive Consults (read : Path → FileResult) (candidates : List Path) :
    List Path → Option (Path × String) → Prop where
  | file {passed later : List Path} {path : Path} {text : String}
      (split : candidates = passed ++ path :: later)
      (unreadable : ∀ other ∈ passed, ∀ text, ¬ Holds read other text)
      (holds : Holds read path text) : Consults read candidates passed (some (path, text))
  | nothing (unreadable : ∀ other ∈ candidates, ∀ text, ¬ Holds read other text) :
      Consults read candidates candidates none

/-- What is wrong with a place where something stands but no text. -/
def problemOf : FileResult → FileProblem
  | .refused problem => problem
  | _ => .notUtf8

/-- One warning for each place that is passed by though something stands there. -/
def warnings (read : Path → FileResult) (passed : List Path) : List Notice :=
  (passed.filter (read · ≠ .missing)).map fun path => .fileSkipped path (problemOf (read path))

theorem findFile_of_holds (holds : Holds read path text) :
    findFile read (path :: later) = ([], some (path, text)) := by
  have read : Utf8.text? (Utf8.encode text) = some text := Utf8.text?_eq_some_iff.mpr rfl
  rw [findFile, holds]
  simp [read]

theorem findFile_of_unreadable (unreadable : ∀ text, ¬ Holds read path text) :
    findFile read (path :: later) =
      (warnings read [path] ++ (findFile read later).1, (findFile read later).2) := by
  rw [findFile]
  split
  · next missing => simp [warnings, missing]
  · next problem refused => simp [warnings, refused, problemOf]
  · next bytes content =>
      have noText : Utf8.text? bytes = none :=
        Utf8.text?_eq_none_iff.mpr fun text same => unreadable text (content.trans (same ▸ rfl))
      simp [warnings, content, problemOf, noText]

theorem findFile_append (unreadable : ∀ other ∈ passed, ∀ text, ¬ Holds read other text) :
    findFile read (passed ++ later) =
      (warnings read passed ++ (findFile read later).1, (findFile read later).2) := by
  induction passed with
  | nil => rfl
  | cons path passed ih =>
      obtain ⟨first, others⟩ := List.forall_mem_cons.mp unreadable
      rw [List.cons_append, findFile_of_unreadable first, ih others, ← List.append_assoc,
        warnings, warnings, warnings, ← List.map_append, ← List.filter_append]
      rfl

theorem findFile_of_consults (consults : Consults read candidates passed file) :
    findFile read candidates = (warnings read passed, file) := by
  cases consults with
  | file split unreadable holds =>
      rw [split, findFile_append unreadable, findFile_of_holds holds, List.append_nil]
  | nothing unreadable =>
      have nowhere : findFile read (candidates ++ []) = (warnings read candidates ++ [], none) :=
        findFile_append unreadable
      rwa [List.append_nil, List.append_nil] at nowhere

theorem exists_consults (read : Path → FileResult) (candidates : List Path) :
    ∃ passed file, Consults read candidates passed file := by
  induction candidates with
  | nil => exact ⟨[], none, .nothing (by simp)⟩
  | cons path candidates ih =>
      by_cases readable : ∃ text, Holds read path text
      · obtain ⟨text, holds⟩ := readable
        exact ⟨[], some (path, text), .file rfl (by simp) holds⟩
      · obtain ⟨passed, file, consults⟩ := ih
        have unreadable : ∀ text, ¬ Holds read path text := not_exists.mp readable
        refine ⟨path :: passed, file, ?_⟩
        cases consults with
        | file split others holds =>
            exact .file (congrArg (path :: ·) split)
              (List.forall_mem_cons.mpr ⟨unreadable, others⟩) holds
        | nothing others => exact .nothing (List.forall_mem_cons.mpr ⟨unreadable, others⟩)

theorem Consults.congr (consults : Consults read candidates passed file)
    (agrees : ∀ path ∈ passed ++ (file.map Prod.fst).toList, other path = read path) :
    Consults other candidates passed file := by
  have moved : ∀ path ∈ passed ++ (file.map Prod.fst).toList, ∀ text,
      Holds other path text ↔ Holds read path text := by
    intro path member text
    rw [Holds, Holds, agrees path member]
  cases consults with
  | file split unreadable holds =>
      refine .file split (fun path member text => ?_) ((moved _ (by simp) _).mpr holds)
      exact (moved path (List.mem_append_left _ member) text).not.mpr (unreadable path member text)
  | nothing unreadable =>
      refine .nothing fun path member text => ?_
      exact (moved path (List.mem_append_left _ member) text).not.mpr (unreadable path member text)

theorem warnings_congr (agrees : ∀ path ∈ passed, other path = read path) :
    warnings other passed = warnings read passed := by
  rw [warnings, warnings, List.filter_congr fun path member => by rw [agrees path member]]
  refine List.map_congr_left fun path member => ?_
  rw [agrees path (List.mem_of_mem_filter member)]

theorem level_of_mem_warnings {notice : Notice} (member : notice ∈ warnings read passed) :
    notice.level = .warn := by
  obtain ⟨path, _, rfl⟩ := List.mem_map.mp member
  rfl

theorem level_of_mem_homeNotices {notice : Notice} (member : notice ∈ environment.homeNotices) :
    notice.level = .debug := by
  cases home : environment.home with
  | none =>
      simp only [Environment.homeNotices, home, List.mem_singleton] at member
      subst member
      rfl
  | some path => simp [Environment.homeNotices, home] at member

/-- What the consulted file sets, with the report on it.  A text that is no object and one with a
text for a policy that is none set nothing. -/
inductive Sets : Option (Path × String) → Settings → Notice → Prop where
  | noFile : Sets none .nothing .noFile
  | accepted {path : Path} {text : String} {members : Members} {policy : Option UnsupportedPolicy}
      (object : Members.ofText text = .ok members)
      (named : Option.Rel (fun word policy => policy.IsNamedBy word) members.unsupported policy) :
      Sets (some (path, text)) ⟨members.debug, policy, members.prune, members.verify⟩
        (.fileUsed path)
  | refused {path : Path} {text : String} {reason : ConfigError}
      (noObject : Members.ofText text = .error reason) (ends : ∀ fault, reason ≠ .fatal fault) :
      Sets (some (path, text)) .nothing (.fileRefused path reason)
  | unknownPolicy {path : Path} {text word : String} {members : Members}
      (object : Members.ofText text = .ok members) (given : members.unsupported = some word)
      (unknown : ∀ policy : UnsupportedPolicy, ¬ policy.IsNamedBy word) :
      Sets (some (path, text)) .nothing (.fileRefused path (.unknownPolicy word))

theorem override_of_named
    (named : Option.Rel (fun word policy => policy.IsNamedBy word) members.unsupported policy) :
    default.override members =
      .ok (Settings.mk members.debug policy members.prune members.verify).config := by
  obtain ⟨debug, unsupported, prune, verify⟩ := members
  cases named with
  | none => rfl
  | some named =>
      simp only [override, Option.mapM_some, UnsupportedPolicy.parse_eq_ok_iff.mpr named]
      rfl

theorem override_of_unknown {word : String} (given : members.unsupported = some word)
    (unknown : ∀ policy : UnsupportedPolicy, ¬ policy.IsNamedBy word) :
    default.override members = .error (.unknownPolicy word) := by
  have refused := UnsupportedPolicy.parse_eq_error_iff.mpr ⟨rfl, unknown⟩
  simp only [override, given, Option.mapM_some, refused]
  rfl

theorem ofText_of_object (object : Members.ofText text = .ok members) :
    ofText text = default.override members := by
  rw [ofText, object]
  rfl

theorem ofText_of_no_object {reason : ConfigError}
    (noObject : Members.ofText text = .error reason) : ofText text = .error reason := by
  rw [ofText, noObject]
  rfl

theorem applyFile_of_sets (sets : Sets file settings used) :
    applyFile file = .ok (settings.config, used) := by
  cases sets with
  | noFile => rfl
  | accepted object named =>
      rw [applyFile, ofText_of_object object, override_of_named named]
  | @refused path text reason noObject ends =>
      rw [applyFile, ofText_of_no_object noObject]
      cases reason with
      | fatal fault => exact absurd rfl (ends fault)
      | malformed | unknownPolicy => rfl
  | unknownPolicy object given unknown =>
      rw [applyFile, ofText_of_object object, override_of_unknown given unknown]
      rfl

theorem Sets.level (sets : Sets file settings used) : used.level = .debug := by
  cases sets <;> rfl

theorem exists_sets (path : Path) (ends : ∀ fault, Members.ofText text ≠ .error (.fatal fault)) :
    ∃ settings used, Sets (some (path, text)) settings used := by
  cases object : Members.ofText text with
  | error reason =>
      refine ⟨_, _, .refused object fun fault same => ?_⟩
      exact ends fault (same ▸ object)
  | ok members =>
      obtain ⟨debug, _ | word, prune, verify⟩ := members
      · exact ⟨_, _, .accepted object .none⟩
      · by_cases known : ∃ policy : UnsupportedPolicy, policy.IsNamedBy word
        · obtain ⟨policy, named⟩ := known
          exact ⟨_, _, .accepted object (.some named)⟩
        · exact ⟨_, _, .unknownPolicy object rfl (not_exists.mp known)⟩

/-- What a variable sets, if its value is a text that denotes something. -/
def Assigns {α : Type} (denotes : String → α → Prop) (stored : Option (List UInt8))
    (value : Option α) : Prop :=
  ∀ a, value = some a ↔ ∃ text, stored = some (Utf8.encode text) ∧ denotes text a

/-- The warning about a variable whose value is a text that names no policy. -/
inductive Ignores : Option (List UInt8) → List Notice → Prop where
  | text {text : String} (unknown : ∀ policy : UnsupportedPolicy, ¬ policy.IsNamedBy text) :
      Ignores (some (Utf8.encode text)) [.policyIgnored (.unknownPolicy text)]
  | nothing {stored : Option (List UInt8)} (known : ∀ text, stored = some (Utf8.encode text) →
      ∃ policy : UnsupportedPolicy, policy.IsNamedBy text) : Ignores stored []

theorem Ignores.level (ignores : Ignores stored ignored) {notice : Notice}
    (member : notice ∈ ignored) : notice.level = .warn := by
  cases ignores with
  | text => cases List.mem_singleton.mp member; rfl
  | nothing => cases member

theorem stored_text?_eq_some_iff :
    stored.bind Utf8.text? = some text ↔ stored = some (Utf8.encode text) := by
  simp [Option.bind_eq_some_iff, Utf8.text?_eq_some_iff]

theorem assigns_mask (stored : Option (List UInt8)) :
    Assigns DenotesMask stored ((stored.bind Utf8.text?).bind parseMask) := by
  intro mask
  rw [Option.bind_eq_some_iff]
  simp only [stored_text?_eq_some_iff, parseMask_eq_some_iff]

theorem applyDebug_of_assigns (assigns : Assigns DenotesMask stored mask) (config : Config) :
    config.applyDebug stored = { config with debug := mask.getD config.debug } := by
  have same : (stored.bind Utf8.text?).bind parseMask = mask := by
    ext value
    rw [assigns_mask, assigns]
  rw [applyDebug, same]
  cases mask <;> rfl

theorem assigns_policy (stored : Option (List UInt8)) :
    Assigns (fun text policy => policy.IsNamedBy text) stored
      ((stored.bind Utf8.text?).bind fun text => (UnsupportedPolicy.parse text).toOption) := by
  intro policy
  have parsed : ∀ text, (UnsupportedPolicy.parse text).toOption = some policy ↔
      policy.IsNamedBy text := by
    intro text
    rw [← UnsupportedPolicy.parse_eq_ok_iff]
    cases UnsupportedPolicy.parse text <;> simp [Except.toOption]
  rw [Option.bind_eq_some_iff]
  simp only [stored_text?_eq_some_iff, parsed]

theorem exists_ignores (stored : Option (List UInt8)) : ∃ ignored, Ignores stored ignored := by
  by_cases unknown : ∃ text, stored = some (Utf8.encode text) ∧
      ∀ policy : UnsupportedPolicy, ¬ policy.IsNamedBy text
  · obtain ⟨text, rfl, unknown⟩ := unknown
    exact ⟨_, .text unknown⟩
  · simp only [not_exists, not_and, not_forall, not_not] at unknown
    exact ⟨[], .nothing unknown⟩

theorem applyUnsupported_of_assigns
    (assigns : Assigns (fun text policy => policy.IsNamedBy text) stored policy)
    (ignores : Ignores stored ignored) (config : Config) : config.applyUnsupported stored =
      ({ config with unsupported := policy.getD config.unsupported }, ignored) := by
  have same : (stored.bind Utf8.text?).bind (fun text =>
      (UnsupportedPolicy.parse text).toOption) = policy := by
    ext value
    rw [assigns_policy, assigns]
  subst same
  cases ignores with
  | @text text unknown =>
      have read : Utf8.text? (Utf8.encode text) = some text := Utf8.text?_eq_some_iff.mpr rfl
      have refused := UnsupportedPolicy.parse_eq_error_iff.mpr ⟨rfl, unknown⟩
      simp [applyUnsupported, read, refused, Except.toOption]
  | nothing known =>
      cases read : stored.bind Utf8.text? with
      | none => simp [applyUnsupported, read]
      | some text =>
          obtain ⟨policy, named⟩ := known text (stored_text?_eq_some_iff.mp read)
          have parsed := UnsupportedPolicy.parse_eq_ok_iff.mpr named
          simp [applyUnsupported, read, parsed, Except.toOption]

/-- Where a configuration comes from, and what is reported on the way. -/
structure Layers (read : Path → FileResult) (environment : Environment) where
  passed : List Path
  file : Option (Path × String)
  settings : Settings
  used : Notice
  mask : Option UInt32
  policy : Option UnsupportedPolicy
  ignored : List Notice
  consults : Consults read environment.candidates passed file
  sets : Sets file settings used
  assignsMask : Assigns DenotesMask environment.debug mask
  assignsPolicy : Assigns (fun text policy => policy.IsNamedBy text) environment.unsupported policy
  ignores : Ignores environment.unsupported ignored

namespace Layers

/-- Every value from the uppermost layer that has one. -/
def config (layers : Layers read environment) : Config :=
  { debug := (layers.mask.or layers.settings.debug).getD 0
    unsupported := (layers.policy.or layers.settings.unsupported).getD .warn
    prune := layers.settings.prune.getD true
    verify := layers.settings.verify.getD true }

def notices (layers : Layers read environment) : List Notice :=
  environment.homeNotices ++ warnings read layers.passed ++ layers.used :: layers.ignored

/-- The paths that were tried. -/
def tried (layers : Layers read environment) : List Path :=
  layers.passed ++ (layers.file.map Prod.fst).toList

theorem load_eq (layers : Layers read environment) :
    load read environment = ⟨.ok layers.config, layers.notices⟩ := by
  have found := findFile_of_consults layers.consults
  have applied := applyFile_of_sets layers.sets
  have masked := applyDebug_of_assigns layers.assignsMask layers.settings.config
  have chosen := applyUnsupported_of_assigns layers.assignsPolicy layers.ignores
    { layers.settings.config with debug := layers.mask.getD layers.settings.config.debug }
  simp only [load, found, applied, masked, chosen]
  simp [config, notices, Settings.config, Option.getD_or]

theorem warnings_notices (layers : Layers read environment) :
    layers.notices.filter (·.level = .warn) = warnings read layers.passed ++ layers.ignored := by
  have skipped : ∀ notice ∈ warnings read layers.passed, decide (notice.level = .warn) :=
    fun _ member => decide_eq_true (level_of_mem_warnings member)
  have ignored : ∀ notice ∈ layers.ignored, decide (notice.level = .warn) :=
    fun _ member => decide_eq_true (layers.ignores.level member)
  have home : ∀ notice ∈ environment.homeNotices, ¬ decide (notice.level = .warn) :=
    fun notice member => by simp [level_of_mem_homeNotices member]
  have used : ¬ decide (layers.used.level = .warn) := by simp [layers.sets.level]
  rw [notices, List.filter_append, List.filter_append, List.filter_eq_nil_iff.mpr home,
    List.nil_append, List.filter_eq_self.mpr skipped, List.filter_cons, if_neg used,
    List.filter_eq_self.mpr ignored]

theorem load_congr (layers : Layers read environment)
    (agrees : ∀ path ∈ layers.tried, other path = read path) :
    load other environment = load read environment := by
  let moved : Layers other environment :=
    { layers with consults := layers.consults.congr agrees }
  have same : warnings other layers.passed = warnings read layers.passed :=
    warnings_congr fun path member => agrees path (List.mem_append_left _ member)
  calc
    load other environment = ⟨.ok moved.config, moved.notices⟩ := moved.load_eq
    _ = ⟨.ok layers.config, layers.notices⟩ := by rw [notices, notices, ← same]; rfl
    _ = load read environment := layers.load_eq.symm

end Layers

theorem exists_layers (consults : Consults read environment.candidates passed file)
    (sets : Sets file settings used) : ∃ layers : Layers read environment,
      layers.passed = passed ∧ layers.file = file ∧ layers.settings = settings := by
  obtain ⟨ignored, ignores⟩ := exists_ignores environment.unsupported
  exact ⟨⟨passed, file, settings, used, _, _, ignored, consults, sets, assigns_mask _,
    assigns_policy _, ignores⟩, rfl, rfl, rfl⟩

theorem exists_layers_of_ends (ends : ∀ passed path text fault,
      Consults read environment.candidates passed (some (path, text)) →
        ¬ Members.StopsAt text fault) : Nonempty (Layers read environment) := by
  obtain ⟨passed, _ | ⟨path, text⟩, consults⟩ := exists_consults read environment.candidates
  · obtain ⟨layers, -⟩ := exists_layers consults .noFile
    exact ⟨layers⟩
  · obtain ⟨settings, used, sets⟩ := exists_sets path fun fault failed =>
      ends passed path text fault consults (Members.ofText_eq_fatal_iff.mp failed)
    obtain ⟨layers, -⟩ := exists_layers consults sets
    exact ⟨layers⟩

/-- Whatever files and variables there are, as long as the file that is consulted is read to its
end: the configuration has all its layers, and no file behind the consulted one has a say. -/
theorem load_layered (ends : ∀ passed path text fault,
      Consults read environment.candidates passed (some (path, text)) →
        ¬ Members.StopsAt text fault) :
    Nonempty (Layers read environment) ∧ ∀ layers : Layers read environment,
      load read environment = ⟨.ok layers.config, layers.notices⟩ ∧
      layers.notices.filter (·.level = .warn) = warnings read layers.passed ++ layers.ignored ∧
      ∀ other : Path → FileResult, (∀ path ∈ layers.tried, other path = read path) →
        load other environment = load read environment :=
  ⟨exists_layers_of_ends ends, fun layers =>
    ⟨layers.load_eq, layers.warnings_notices, fun _ => layers.load_congr⟩⟩

deriving instance DecidableEq for Except

def candidateIn (directory : String) : Path :=
  Utf8.encode (directory ++ "/lowir/lower_config.json")

def scatteredText : String :=
  "\x7b\"debug\":5,\"unsupported\":\" Ignore\",\"dce\":false\x7d"

/-- A directory in the place of a file, a file that is no text, and two that are objects. -/
def scatteredFiles : FileTree :=
  .ofPaths [(candidateIn "/home/user/.config", .directory), (candidateIn "/b", .file [0xff]),
    (candidateIn "/c", .file (Utf8.encode scatteredText)),
    (candidateIn "/d", .file (Utf8.encode "\x7b\"verify\":false\x7d"))]

/-- The mask overrides the one of the file; the policy does not, because it is none. -/
def scatteredVariables : Environment where
  home := some (Utf8.encode "/home/user")
  configHome := none
  configDirs := some (Utf8.encode "/a:/b:/c:/d")
  debug := some (Utf8.encode "+2")
  unsupported := some (Utf8.encode "often")

theorem scattered_layers : ∃ layers : Layers scatteredFiles.read scatteredVariables,
    layers.config = { debug := 2, unsupported := .ignore, prune := false, verify := true } ∧
    warnings scatteredFiles.read layers.passed ++ layers.ignored =
      [.fileSkipped (candidateIn "/home/user/.config") .isDirectory,
        .fileSkipped (candidateIn "/b") .notUtf8, .policyIgnored (.unknownPolicy "often")] := by
  have found : (findFile scatteredFiles.read scatteredVariables.candidates).2 =
      some (candidateIn "/c", scatteredText) := by
    decide +kernel
  have object : Members.ofText scatteredText = .ok ⟨some 5, some " Ignore", some false, none⟩ := by
    decide +kernel
  have ends : ∀ passed path text fault,
      Consults scatteredFiles.read scatteredVariables.candidates passed (some (path, text)) →
        ¬ Members.StopsAt text fault := by
    intro passed path text fault consults stops
    rw [findFile_of_consults consults] at found
    cases found
    rw [← Members.ofText_eq_fatal_iff, object] at stops
    cases stops
  have loaded : (load scatteredFiles.read scatteredVariables).result =
      .ok { debug := 2, unsupported := .ignore, prune := false, verify := true } := by
    decide +kernel
  have warned : (load scatteredFiles.read scatteredVariables).notices.filter (·.level = .warn) =
      [.fileSkipped (candidateIn "/home/user/.config") .isDirectory,
        .fileSkipped (candidateIn "/b") .notUtf8, .policyIgnored (.unknownPolicy "often")] := by
    decide +kernel
  obtain ⟨⟨layers⟩, layered⟩ := load_layered ends
  obtain ⟨same, reported, -⟩ := layered layers
  rw [same] at loaded warned
  exact ⟨layers, Except.ok.inj loaded, reported ▸ warned⟩

end Config

end OpGraph
