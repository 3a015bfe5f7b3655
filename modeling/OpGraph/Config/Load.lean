import OpGraph.Config.FileTree
import OpGraph.Config.Text
import OpGraph.Graph.Event

namespace OpGraph

/-! The configuration of a process: defaults, overridden by the first configuration file that can be
read, overridden by two variables of the environment. -/

/-- The variables that matter, as the bytes of their values. -/
structure Environment where
  /-- The home directory of the user, if the system knows of one. -/
  home : Option (List UInt8)
  configHome : Option (List UInt8)
  configDirs : Option (List UInt8)
  debug : Option (List UInt8)
  unsupported : Option (List UInt8)

inductive Notice where
  | fileUsed (path : Path)
  | fileRefused (path : Path) (error : ConfigError)
  | fileSkipped (path : Path) (problem : FileProblem)
  | noHome
  | noFile
  | policyIgnored (error : ConfigError)
deriving DecidableEq

/-- How the search for a configuration ended, and its reports in order. -/
structure Loaded where
  result : Except ConfigFault Config
  notices : List Notice

namespace Notice

def level : Notice → Level
  | fileSkipped _ _ => .warn
  | policyIgnored _ => .warn
  | _ => .debug

def message : Notice → String
  | fileUsed path =>
      "Lowering config " ++ Quoted.ofBytes path ++ " successfully read and parsed."
  | fileRefused path error =>
      "Failed to parse " ++ Quoted.ofBytes path ++ ", " ++ error.diagnostic.message
  | fileSkipped path problem =>
      "Failed to read " ++ Quoted.ofBytes path ++ ", " ++ (Diagnostic.io problem.text).message
  | noHome => "Failed to find config directories, $HOME must be set"
  | noFile => "Failed to find lowir/lower_config.json, using defaults."
  | policyIgnored error => "Ignoring LOWIR_UNSUPPORTED, " ++ error.diagnostic.message

end Notice

namespace Environment

/-- The directory of the user's configuration: the one named by its variable if that is an absolute
path, else the usual one below the home directory. -/
def userDirectory (environment : Environment) (home : Path) : Path :=
  match environment.configHome with
  | some path => if Path.isAbsolute path then path else Path.join home ".config".toUTF8.toList
  | none => Path.join home ".config".toUTF8.toList

/-- The directories of the system's configuration: the absolute paths in the list of its variable,
or the usual one if there are none. -/
def systemDirectories (environment : Environment) : List Path :=
  let named := (Path.splitOn 58 (environment.configDirs.getD [])).filter Path.isAbsolute
  if named.isEmpty then ["/etc/xdg".toUTF8.toList] else named

/-- The places of a configuration file, the user's before the system's.  Without a home directory
there are none, not even those that variables name. -/
def candidates (environment : Environment) : List Path :=
  match environment.home with
  | none => []
  | some home =>
      (environment.userDirectory home :: environment.systemDirectories).map fun directory =>
        Path.join directory "lowir/lower_config.json".toUTF8.toList

def homeNotices (environment : Environment) : List Notice :=
  match environment.home with
  | none => [.noHome]
  | some _ => []

end Environment

namespace Config

/-- The text of the first candidate that can be read, and what was skipped before it.  Candidates
that do not exist are skipped without a word. -/
def findFile (read : Path → FileResult) : List Path → List Notice × Option (Path × String)
  | [] => ([], none)
  | path :: rest =>
      let later := findFile read rest
      match read path with
      | .missing => later
      | .refused problem => (.fileSkipped path problem :: later.1, later.2)
      | .content bytes =>
          match Utf8.text? bytes with
          | some text => ([], some (path, text))
          | none => (.fileSkipped path .notUtf8 :: later.1, later.2)

/-- The configuration that a file makes of the default one.  A file that is refused changes
nothing, but one that is neither accepted nor refused ends everything. -/
def applyFile : Option (Path × String) → Except ConfigFault (Config × Notice)
  | none => .ok (default, .noFile)
  | some (path, text) =>
      match ofText text with
      | .ok config => .ok (config, .fileUsed path)
      | .error (.fatal fault) => .error fault
      | .error error => .ok (default, .fileRefused path error)

/-- A number in decimal that fits a mask, possibly with a plus sign. -/
def parseMask (text : String) : Option UInt32 :=
  let digits := match text.toList with
    | '+' :: rest => rest
    | chars => chars
  let value := Json.digitsValue digits
  if digits.isEmpty || !digits.all Json.isDigit || 4294967295 < value then none
  else some (.ofNat value)

def applyDebug (config : Config) (value : Option (List UInt8)) : Config :=
  match (value.bind Utf8.text?).bind parseMask with
  | some mask => { config with debug := mask }
  | none => config

def applyUnsupported (config : Config) (value : Option (List UInt8)) : Config × List Notice :=
  match (value.bind Utf8.text?).map UnsupportedPolicy.parse with
  | none => (config, [])
  | some (.ok policy) => ({ config with unsupported := policy }, [])
  | some (.error error) => (config, [.policyIgnored error])

/-- The configuration of a process with these files and variables.  What was skipped in the search
is reported even when the file that was found ends everything. -/
def load (read : Path → FileResult) (environment : Environment) : Loaded :=
  let (skipped, found) := findFile read environment.candidates
  let searched := environment.homeNotices ++ skipped
  match applyFile found with
  | .error fault => ⟨.error fault, searched⟩
  | .ok (config, used) =>
      let (config, ignored) :=
        (config.applyDebug environment.debug).applyUnsupported environment.unsupported
      ⟨.ok config, searched ++ used :: ignored⟩

end Config

end OpGraph
