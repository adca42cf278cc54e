import ReleaseWatch.Failure

/-!
# A tree of files

Directories and the texts of files below a root. A path is written as names between slashes; it is
followed name by name, from the root if it begins with a slash and from the working directory
otherwise, so that it leads nowhere if one of the names is missing on the way. Only a file whose
directory exists can be written.
-/

namespace ReleaseWatch

/-- The names that lead from the root to a directory or file. -/
abbrev Path := List String

namespace Path

def text (path : Path) : String :=
  "/".intercalate path

/-- The greatest number of bytes of a name. -/
def nameLimit : Nat := 255

def isTooLong (name : String) : Bool :=
  nameLimit < name.utf8ByteSize

/-- Whether a name stands for the directory before it, or for that around it. -/
def isRelative (name : String) : Bool :=
  name == "" || name == "." || name == ".."

/-- The directory that a written path leads through: what stands before its last slash. -/
def directoryOf (path : String) : String :=
  let before := path.toList.reverse.dropWhile (· ≠ '/')
  if before.all (· == '/') then String.ofList before.reverse
  else String.ofList (before.dropWhile (· == '/')).reverse

def join (directory name : String) : String :=
  if directory = "" || directory.endsWith "/" then directory ++ name else directory ++ "/" ++ name

end Path

/-- The directories below a root, its files with their texts, and the working directory. -/
structure FileTree where
  home : Path := []
  directories : List Path := []
  files : List (Path × String) := []

namespace FileTree

/-- Whether a path leads to a directory; the working directory and those around it always exist. -/
def isDirectory (tree : FileTree) (path : Path) : Bool :=
  path.isPrefixOf tree.home || tree.directories.contains path

def text? (tree : FileTree) (path : Path) : Option String :=
  tree.files.lookup path

/--
Follows one name from a directory to a directory; the root stands for the directory around itself.
-/
def enter (tree : FileTree) (place : Path) (name : String) : Except FileProblem Path :=
  if name = "" || name = "." then .ok place
  else if name = ".." then .ok place.dropLast
  else if Path.isTooLong name then .error .nameTooLong
  else if tree.isDirectory (place ++ [name]) then .ok (place ++ [name])
  else if (tree.text? (place ++ [name])).isSome then .error .notDirectory
  else .error .missing

/-- Follows names from a directory to a directory. -/
def enterAll (tree : FileTree) : Path → List String → Except FileProblem Path
  | place, [] => .ok place
  | place, name :: rest => do
      let next ← tree.enter place name
      tree.enterAll next rest

/-- Where a written path begins, and the names that lead on from there. -/
def route (tree : FileTree) (path : String) : Except Failure (Path × List String) :=
  if path.toList.contains '\x00' then .error .nullInPath
  else if path = "" then .error (.file .missing)
  else
    .ok (if path.startsWith "/" then [] else tree.home, (path.toList.splitOn '/').map String.ofList)

def failing {α : Type} : Except FileProblem α → Except Failure α
  | .ok value => .ok value
  | .error problem => .error (.file problem)

/-- The place below a directory that a path leads to by its last name. -/
def landing (tree : FileTree) (path : String) : Except Failure Path := do
  let (start, names) ← tree.route path
  match names.reverse.dropWhile (· = "") with
  | [] => .error (.file .isDirectory)
  | last :: before => do
      let place ← failing (tree.enterAll start before.reverse)
      if Path.isRelative last || path.endsWith "/" then .error (.file .isDirectory)
      else .ok (place ++ [last])

/-- Where a file may be written: in a directory that exists, and not in the place of a directory. -/
def writable (tree : FileTree) (path : String) : Except Failure Path := do
  let found ← tree.landing path
  if found.any Path.isTooLong then .error (.file .nameTooLong)
  else if tree.isDirectory found then .error (.file .isDirectory)
  else .ok found

/-- What a path leads to: a directory, or a file with its text. -/
inductive Found where
  | directory
  | file (text : String)
  deriving DecidableEq

/-- Follows a written path to whatever is there. -/
def find (tree : FileTree) (path : String) : Except Failure Found := do
  let (start, names) ← tree.route path
  match tree.enterAll start names with
  | .ok _ => .ok .directory
  | .error problem =>
      match names.reverse with
      | [] => .error (.file .missing)
      | last :: before =>
          let place ← failing (tree.enterAll start before.reverse)
          match tree.text? (place ++ [last]) with
          | some text => .ok (.file text)
          | none => .error (.file problem)

/-- Whether there is a file or directory at a written path. -/
def hasPath (tree : FileTree) (path : String) : Bool :=
  (tree.find path).toOption.isSome

def read (tree : FileTree) (path : String) : Except Failure String := do
  match ← tree.find path with
  | .directory => .error (.file .isDirectory)
  | .file text => .ok text

def remove (tree : FileTree) (path : Path) : FileTree :=
  { tree with files := tree.files.filter (·.1 != path) }

/-- Puts a file with its text into the tree, in the place of a file of that path. -/
def put (tree : FileTree) (path : Path) (text : String) : FileTree :=
  { tree with files := (path, text) :: (tree.remove path).files }

def write (tree : FileTree) (path text : String) : Except Failure FileTree := do
  let file ← tree.writable path
  return tree.put file text

/-- Writes at the end of a file, which need not exist. -/
def append (tree : FileTree) (path text : String) : Except Failure FileTree := do
  let file ← tree.writable path
  return tree.put file ((tree.text? file).getD "" ++ text)

/-- Moves a file, to the place of another one if there is one. -/
def move (tree : FileTree) (source target : String) : Except Failure FileTree := do
  let text ← tree.read source
  let origin ← tree.writable source
  let file ← tree.writable target
  return (tree.remove origin).put file text

/-- Makes the directories along names that are missing. -/
def makeAlong (tree : FileTree) (place : Path) : List String → Except FileProblem FileTree
  | [] => .ok tree
  | name :: rest =>
      match tree.enter place name with
      | .ok next => tree.makeAlong next rest
      | .error .missing =>
          makeAlong { tree with directories := (place ++ [name]) :: tree.directories }
            (place ++ [name]) rest
      | .error .notDirectory => .error (if rest.all (· = "") then .occupied else .notDirectory)
      | .error problem => .error problem

/-- Makes a directory and those that lead to it, as far as they are missing. -/
def makeDirectories (tree : FileTree) (path : String) : Except Failure FileTree := do
  let (start, names) ← tree.route path
  failing (tree.makeAlong start names)

end FileTree

end ReleaseWatch
