import TableGraph.Command.Pages
import TableGraph.Workspace

/-!
From the words of a command line to a request, or to what is shown instead of running one.
-/

namespace TableGraph.Command

structure Request where
  verb : Verb
  database : String
  output : String
  strict : Bool
  verbose : Bool
  schemaName : String

inductive Stop where
  | help (place : Place)
  | nothing
  | option (place : Place) (fault : OptionFault)
  | usage (place : Place) (message : String)
  | uncaught (failure : Failure)

def lastOf (settings : List Setting) (value? : Setting → Option α) : Option α :=
  settings.reverse.findSome? value?

def Setting.output? : Setting → Option String
  | .output directory => some directory
  | _ => none

def Setting.strict? : Setting → Option Bool
  | .strict on => some on
  | _ => none

def Setting.schemaName? : Setting → Option String
  | .schemaName name => some name
  | _ => none

def nulProblem? (name : String) : Option Stop :=
  if name.toList.contains '\x00' then
    some (.uncaught (.other "ValueError" "embedded null byte"))
  else
    none

def outputProblem? (workspace : Workspace) (directory : String) : Option Stop :=
  nulProblem? directory <|>
    match workspace.files.named? directory with
    | none | some .directory => none
    | some _ =>
      some (.usage (some .build) ("Invalid value for '--output' / '-o': Directory " ++
        Text.quoted directory ++ " is a file."))

def databaseProblem? (workspace : Workspace) (verb : Verb) : Option String → Option Stop
  | none => some (.usage (some verb) "Missing argument 'DATABASE'.")
  | some name =>
    let invalid (problem : String) : Option Stop :=
      some (.usage (some verb)
        ("Invalid value for 'DATABASE': File " ++ Text.quoted name ++ problem))
    nulProblem? name <|>
      match workspace.files.named? name with
      | none => invalid " does not exist."
      | some .directory => invalid " is a directory."
      | some _ => none

def extraProblem? (verb : Verb) : List String → Option Stop
  | [] => none
  | [word] => some (.usage (some verb) ("Got unexpected extra argument (" ++ word ++ ")"))
  | words =>
    some (.usage (some verb) ("Got unexpected extra arguments (" ++ " ".intercalate words ++ ")"))

def defaultOutput : String := "build"

/-- The first problem of a command's words. A directory that is given is looked at before the database
file, the default one after it. -/
def problem? (workspace : Workspace) (verb : Verb) (words : Words) : Option Stop :=
  let given := lastOf words.settings Setting.output?
  let default := if verb == .build && given.isNone then some defaultOutput else none
  given.bind (outputProblem? workspace) <|>
    databaseProblem? workspace verb words.others.head? <|>
    default.bind (outputProblem? workspace) <|>
    extraProblem? verb words.others.tail

def requestOf (workspace : Workspace) (verb : Verb) (words : List String) : Except Stop Request :=
  match readWords verb.forms true words with
  | .error fault => .error (.option (some verb) fault)
  | .ok words =>
    if words.settings.contains .help then
      .error (.help (some verb))
    else
      match problem? workspace verb words with
      | some stop => .error stop
      | none => .ok {
          verb
          database := words.others.headD ""
          output := (lastOf words.settings Setting.output?).getD defaultOutput
          strict := (lastOf words.settings Setting.strict?).getD true
          verbose := words.settings.contains .verbose
          schemaName := (lastOf words.settings Setting.schemaName?).getD "main" }

/-- Why the first word names no command. A word like an option is read as one first. -/
def noCommand (words : List String) (name : String) : Stop :=
  match readWords [helpForm] false words with
  | .error fault => .option none fault
  | .ok read =>
    if read.settings.contains .help then
      .help none
    else
      .usage none ("No such command " ++ Text.quoted name ++ "." ++
        meantText (Text.closeMatches name (Verb.all.map Verb.name)))

def request (workspace : Workspace) (words : List String) : Except Stop Request :=
  if words.isEmpty then
    .error .nothing
  else
    match readWords [helpForm] false words with
    | .error fault => .error (.option none fault)
    | .ok read =>
      if read.settings.contains .help then
        .error (.help none)
      else
        match read.others with
        | [] => .error (.usage none "Missing command.")
        | name :: rest =>
          match Verb.ofName? name with
          | some verb => requestOf workspace verb rest
          | none => .error (noCommand (name :: rest) name)

end TableGraph.Command
