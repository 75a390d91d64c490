import TableGraph.FileTree

/-!
What a command works on: the files that it can see from the current directory.
-/

namespace TableGraph

structure Workspace where
  directory : String
  files : FileTree

namespace Workspace

def fullName (workspace : Workspace) (place : FilePath) : String :=
  if place.root.isEmpty then workspace.directory ++ "/" ++ place.toString else place.toString

def openDatabase (workspace : Workspace) (name : String) : Except String DuckDb.Catalog :=
  let path := FilePath.ofString name
  match workspace.files.named? name with
  | some (.database tables) => .ok ⟨DuckDb.databaseName path, tables⟩
  | _ =>
    .error ("IO Error: The file \"" ++ workspace.fullName path.resolve ++
      "\" exists, but it is not a valid DuckDB database file!")

end Workspace

end TableGraph
