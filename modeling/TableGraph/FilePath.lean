import TableGraph.Text.Split

/-!
Paths of files, in a plain form: no empty components and no `.` among them. A `..` stays, since what it
leads to depends on the directories that exist.
-/

namespace TableGraph

/-- The components of a path below a root, which is empty for a path from the current directory. -/
structure FilePath where
  root : String := ""
  parts : List String
  deriving DecidableEq, Repr, Inhabited

namespace FilePath

/-- The root of a path text. Two slashes at its start are a root of their own, three are one slash. -/
def rootOf (s : String) : String :=
  match s.toList.takeWhile (· == '/') with
  | [] => ""
  | [_, _] => "//"
  | _ => "/"

def ofString (s : String) : FilePath where
  root := rootOf s
  parts := (Text.split '/' s).filter fun part => !part.isEmpty && part != "."

def toString (path : FilePath) : String :=
  if path.root.isEmpty && path.parts.isEmpty then "." else path.root ++ "/".intercalate path.parts

instance : ToString FilePath := ⟨toString⟩

def child (path : FilePath) (name : String) : FilePath :=
  { path with parts := path.parts ++ [name] }

def name (path : FilePath) : String :=
  path.parts.getLastD ""

/-- The name without its last ending; a point at either end of a name starts no ending. -/
def stem (path : FilePath) : String :=
  let name := path.name.toList
  match name.reverse.span (· != '.') with
  | (ending, _ :: stem) =>
    if ending.isEmpty || stem.isEmpty then path.name else String.ofList stem.reverse
  | (_, []) => path.name

def isAbove (path : FilePath) : Bool :=
  path.parts.all (· == "..")

def start (path : FilePath) : FilePath where
  root := if path.root.isEmpty then "" else "/"
  parts := []

def parent (path : FilePath) : FilePath :=
  if path.isAbove then
    if path.root.isEmpty then path.child ".." else path
  else
    { path with parts := path.parts.dropLast }

def step (directory : FilePath) (name : String) : FilePath :=
  if name == "." then directory
  else if name == ".." then directory.parent
  else directory.child name

def resolve (path : FilePath) : FilePath :=
  path.parts.foldl step path.start

end FilePath

end TableGraph
