import TableGraph.DuckDb.Catalog
import TableGraph.Fault.Failure
import TableGraph.FilePath

/-!
The files that a command can see, and what becomes of them.

Each file and directory has its place: a path in which `..` only leads upwards, from the current
directory. Other paths are walked through name by name, so that `a/..` leads somewhere only if `a` is a
directory. A directory may be there by way of what it contains only, and so are the current one and those
above it.
-/

namespace TableGraph

inductive FileEntry where
  | directory
  | text (content : String)
  | database (tables : List DuckDb.CatalogTable)

inductive PathProblem where
  | missing
  | occupied
  | notDirectory
  | isDirectory
  | tooLong
  deriving DecidableEq, Repr

namespace PathProblem

def className : PathProblem → String
  | .missing => "FileNotFoundError"
  | .occupied => "FileExistsError"
  | .notDirectory => "NotADirectoryError"
  | .isDirectory => "IsADirectoryError"
  | .tooLong => "OSError"

def wording : PathProblem → Nat × String
  | .missing => (2, "No such file or directory")
  | .occupied => (17, "File exists")
  | .notDirectory => (20, "Not a directory")
  | .isDirectory => (21, "Is a directory")
  | .tooLong => (36, "File name too long")

def failure (problem : PathProblem) (path : FilePath) : Failure :=
  let (number, text) := problem.wording
  .other problem.className
    ("[Errno " ++ toString number ++ "] " ++ text ++ ": " ++ Text.quoted path.toString)

end PathProblem

def nameLimit : Nat := 255

def pathLimit : Nat := 4095

structure Artifact where
  path : FilePath
  text : String
  deriving DecidableEq, Repr

abbrev FileTree := List (FilePath × FileEntry)

namespace FileTree

def get? (tree : FileTree) (place : FilePath) : Option FileEntry :=
  (tree.find? (·.1 == place)).map (·.2)

def put (tree : FileTree) (place : FilePath) (entry : FileEntry) : FileTree :=
  match tree with
  | [] => [(place, entry)]
  | (other, old) :: rest =>
    if other == place then (place, entry) :: rest else (other, old) :: put rest place entry

theorem get?_put (tree : FileTree) (place other : FilePath) (entry : FileEntry) :
    (tree.put place entry).get? other = if other = place then some entry else tree.get? other := by
  unfold get?
  induction tree with
  | nil => grind [put]
  | cons first rest ih => grind [put]

def isInhabited (tree : FileTree) (place : FilePath) : Bool :=
  tree.any fun (other, _) => other.root == place.root && place.parts.isPrefixOf other.parts

def entryAt? (tree : FileTree) (place : FilePath) : Option FileEntry :=
  match tree.get? place with
  | some entry => some entry
  | none => if place.isAbove || tree.isInhabited place then some .directory else none

/-- Walks from a place through names, all of which but the last have to lead to directories. Nothing
needs to be at the last place. -/
def walk (tree : FileTree) (place : FilePath) : List String → Except PathProblem FilePath
  | [] => .ok place
  | name :: names =>
    match tree.entryAt? place with
    | none => .error .missing
    | some .directory =>
      if nameLimit < name.utf8ByteSize then .error .tooLong else tree.walk (place.step name) names
    | some _ => .error .notDirectory

def locate (tree : FileTree) (path : FilePath) : Except PathProblem FilePath :=
  if pathLimit < path.toString.utf8ByteSize then .error .tooLong
  else tree.walk path.start path.parts

/-- The place that a name leads to, where a `.` and a slash at the end are names of directories. An empty
name leads nowhere. -/
def locateName (tree : FileTree) (name : String) : Except PathProblem FilePath :=
  if name.isEmpty then
    .error .missing
  else if pathLimit < name.utf8ByteSize then
    .error .tooLong
  else
    let names := (Text.split '/' name).filter (!·.isEmpty)
    tree.walk (FilePath.ofString name).start (if name.toList.getLast? == some '/' then names ++ ["."] else names)

def named? (tree : FileTree) (name : String) : Option FileEntry :=
  match tree.locateName name with
  | .ok place => tree.entryAt? place
  | .error _ => none

def isDirectory (tree : FileTree) (path : FilePath) : Bool :=
  match (tree.locate path).toOption.bind tree.entryAt? with
  | some .directory => true
  | _ => false

def makeDirectory (tree : FileTree) (path : FilePath) : Except PathProblem FileTree := do
  let place ← tree.locate path
  match tree.entryAt? place with
  | none => return tree.put place .directory
  | some _ => throw .occupied

def write (tree : FileTree) (file : Artifact) : Except PathProblem FileTree := do
  let place ← tree.locate file.path
  match tree.entryAt? place with
  | some .directory => throw .isDirectory
  | _ => return tree.put place (.text file.text)

end FileTree

end TableGraph
