import TableGraph.Command.Run
import TableGraph.DuckDb.CatalogJson
import TableGraph.Json.Parser

/-!
The program. A database file is a catalog in JSON; every other file is no database.
-/

namespace TableGraph

def mentionedNames (words : List String) : List String :=
  Command.defaultOutput :: words ++ words.filterMap (fun word => (Command.splitValue word).2) ++
    words.map fun word => (word.drop 2).toString

def pathsOf (name : String) : List FilePath :=
  let path := FilePath.ofString name
  let above := (List.range path.parts.length).map fun count =>
    { path with parts := path.parts.take (count + 1) }
  above ++ [resolverDirectory path]

def entryOfText (text : String) : FileEntry :=
  match (Json.parse? text).bind DuckDb.tablesOfJson? with
  | some tables => .database tables
  | none => .text text

def readEntry? (path : FilePath) : IO (Option FileEntry) := do
  try
    return some (entryOfText (← IO.FS.readFile path.toString))
  catch
    | .inappropriateType none _ _ => return some .directory
    | .userError _ => return some (.text "")
    | _ => return none

def loadWorkspace (words : List String) : IO Workspace := do
  let mut files : FileTree := []
  for path in ((mentionedNames words).flatMap pathsOf).eraseDups do
    if let some entry ← readEntry? path then
      files := files.put path.resolve entry
  return { directory := (← IO.currentDir).toString, files }

def drawId : IO String := do
  let digits ← (List.range 32).mapM fun place => do
    let digit ← IO.rand 0 15
    return if place == 12 then 4 else if place == 16 then 8 + digit % 4 else digit
  let digits := digits.map Text.hexDigit
  let group (start count : Nat) := String.ofList ((digits.drop start).take count)
  return "-".intercalate [group 0 8, group 8 4, group 12 4, group 16 4, group 20 12]

def perform : Command.Effect → IO Unit
  | .show text => IO.print text
  | .report text => IO.eprint text
  | .log line => do
    IO.eprintln (line.render (toString (← IO.monoMsNow)))
  | .makeDirectory path => IO.FS.createDir path.toString
  | .write file => IO.FS.writeFile file.path.toString file.text

def suited (effect : Command.Effect) : IO Command.Effect := do
  let stream ←
    match effect with
    | .report _ => IO.getStderr
    | _ => IO.getStdout
  return if ← stream.isTty then effect else effect.plain

end TableGraph

open TableGraph in
def main (words : List String) : IO UInt32 := do
  let workspace ← loadWorkspace words
  let outcome := Command.run workspace (← drawId) words
  for effect in outcome.effects do
    perform (← suited effect)
  if let .uncaught failure := outcome.ending then
    IO.eprintln (failure.className ++ ": " ++ failure.text)
  return outcome.ending.exitCode.toUInt32
