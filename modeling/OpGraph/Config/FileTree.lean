namespace OpGraph

/-- A path, as the bytes of its text. -/
abbrev Path := List UInt8

inductive FileProblem where
  | isDirectory
  /-- A name is looked up in something that is no directory. -/
  | noDirectory
  | notUtf8
  /-- Any other problem, in the words of the system. -/
  | other (text : String)
deriving DecidableEq

inductive FileResult where
  | missing
  | refused (problem : FileProblem)
  | content (bytes : List UInt8)
deriving DecidableEq

inductive FileNode where
  | file (bytes : List UInt8)
  | directory
deriving DecidableEq

namespace FileProblem

def text : FileProblem → String
  | isDirectory => "Is a directory (os error 21)"
  | noDirectory => "Not a directory (os error 20)"
  | notUtf8 => "stream did not contain valid UTF-8"
  | other text => text

end FileProblem

namespace Path

def slash : UInt8 := 47

def isAbsolute (path : Path) : Bool :=
  path.head? = some slash

/-- The path of an entry below a directory, with one slash between the two. -/
def join (directory entry : Path) : Path :=
  if directory.isEmpty || directory.getLast? = some slash then directory ++ entry
  else directory ++ slash :: entry

def splitOn (separator : UInt8) (path : Path) : List Path :=
  path.foldr (fun byte pieces =>
      if byte = separator then [] :: pieces
      else
        match pieces with
        | [] => [[byte]]
        | piece :: rest => (byte :: piece) :: rest)
    [[]]

/-- The names along a path.  Empty names and single dots stand for the same place. -/
def names (path : Path) : List Path :=
  path.splitOn slash

end Path

/-- Places and what stands there, each place by the names that lead to it.  All directories above a
place exist too. -/
structure FileTree where
  entries : List (List Path × FileNode)

namespace FileTree

def ofPaths (entries : List (Path × FileNode)) : FileTree :=
  ⟨entries.map fun (path, node) => (path.names.filter (· ≠ []), node)⟩

def node? (tree : FileTree) (place : List Path) : Option FileNode :=
  match tree.entries.lookup place with
  | some node => some node
  | none =>
      if tree.entries.any fun (other, _) => place.isPrefixOf other then some .directory else none

def dot : Path := [46]

/-- Follows names from a place on.  A name is looked up in a directory only, and two dots lead to
the directory above. -/
def follow (tree : FileTree) (place : List Path) : List Path → FileResult
  | [] =>
      match tree.node? place with
      | none => .missing
      | some .directory => .refused .isDirectory
      | some (.file bytes) => .content bytes
  | name :: rest =>
      match tree.node? place with
      | none => .missing
      | some (.file _) => .refused .noDirectory
      | some .directory =>
          if name = [] ∨ name = dot then tree.follow place rest
          else if name = dot ++ dot then tree.follow place.dropLast rest
          else tree.follow (place ++ [name]) rest

/-- Reads the file at an absolute path; nothing stands at any other path. -/
def read (tree : FileTree) (path : Path) : FileResult :=
  if path.isAbsolute then tree.follow [] path.names else .missing

end FileTree

end OpGraph
