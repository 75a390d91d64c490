import TableGraph.Command.Request
import TableGraph.DuckDb.Answer
import TableGraph.DuckDb.Reader
import TableGraph.Emission
import TableGraph.Text.ControlSequence

/-!
Running a command: what it writes, shows and logs, in order, and its exit code.
-/

namespace TableGraph.Command

inductive Effect where
  | show (text : String)
  | report (text : String)
  | log (line : LogLine)
  | makeDirectory (path : FilePath)
  | write (file : Artifact)
  deriving DecidableEq

inductive Ending where
  | done
  | stopped (code : Nat)
  | aborted
  | uncaught (failure : Failure)

def Ending.exitCode : Ending → Nat
  | .done => 0
  | .stopped code => code
  | .aborted => 1
  | .uncaught _ => 1

structure Outcome where
  effects : List Effect
  ending : Ending

namespace Outcome

def after (outcome : Outcome) (effects : List Effect) : Outcome :=
  { outcome with effects := effects ++ outcome.effects }

def abort (effects : List Effect) : Outcome :=
  ⟨effects ++ [.report "Aborted!\n"], .aborted⟩

end Outcome

def isShown (verbose : Bool) (line : LogLine) : Bool :=
  verbose || LogLevel.warning.rank ≤ line.level.rank

def shown (verbose : Bool) (log : Log) : List Effect :=
  (log.filter (isShown verbose)).map .log

def faultReport (fault : Fault) (verbose : Bool) : List Effect :=
  let details :=
    if fault.details.isEmpty then []
    else ["📍 Context: " ++ (Json.record fault.details).nested]
  let suggestions :=
    if fault.suggestions.isEmpty then []
    else "\n💡 Suggestions:" :: fault.suggestions.map ("   • " ++ ·)
  let correlation :=
    if verbose then ["\n🔍 Correlation ID: " ++ fault.correlation?.getD ""] else []
  (("\n❌ " ++ fault.code ++ ": " ++ fault.message) :: details ++ suggestions ++ correlation).map
    fun line => .report (line ++ "\n")

def runFresh (program : Reading (DuckDb.ReaderState Unit) α) :
    Except Failure α × Session (DuckDb.ReaderState Unit) :=
  program.run { state := { connection := () } }

def withBuild (workspace : Workspace) (id : String) (request : Request) (next : Build → Outcome) :
    Outcome :=
  match workspace.openDatabase request.database with
  | .error problem =>
    .abort [.report ("❌ Could not open " ++ request.database ++ ": " ++ problem ++ "\n")]
  | .ok catalog =>
    let reader := DuckDb.reader catalog.connection "main"
    let options : BuildOptions := { strict := request.strict }
    let database := (FilePath.ofString request.database).stem
    let (outcome, session) := runFresh (Build.run reader options id database)
    let log := shown request.verbose session.log
    match outcome with
    | .ok build => (next build).after log
    | .error (.fault fault) => .abort (log ++ faultReport fault request.verbose)
    | .error failure => ⟨log, .uncaught failure⟩

def showSchema (build : Build) : Outcome :=
  ⟨[.show (build.document.print ++ "\n")], .done⟩

def effectOf? (verbose : Bool) : EmissionStep → Option Effect
  | .makeDirectory path => some (.makeDirectory path)
  | .write file => some (.write file)
  | .say line => if isShown verbose line then some (.log line) else none

def writeBuild (workspace : Workspace) (request : Request) (build : Build) : Outcome :=
  let found := Effect.show
    ("📊 Found " ++ toString build.tables.length ++ " tables: " ++
      ", ".intercalate build.tableNames ++ "\n")
  let (outcome, emission) :=
    (build.emit (FilePath.ofString request.output)).run { tree := workspace.files }
  let effects := found :: emission.steps.filterMap (effectOf? request.verbose)
  match outcome with
  | .ok paths =>
    let written := Effect.show
      ("✅ Wrote " ++ toString paths.length ++ " files to " ++ request.output ++ "\n")
    ⟨effects ++ [written], .done⟩
  | .error failure => ⟨effects, .uncaught failure⟩

def readTable (reader : Reader σ) (name : String) : Reading σ Table := do
  let columns ← reader.callDescribeTable name
  let references ← reader.callReferencingTables name
  return { name, columns, references }

def readEach (reader : Reader σ) : List String → Reading σ (List Table)
  | [] => return []
  | name :: names => do
    let table ← readTable reader name
    let tables ← readEach reader names
    return table :: tables

def readTables (reader : Reader σ) (database : String) : Reading σ (List Table) := do
  reader.callBegin database
  let program := do
    let names ← reader.callListTables database
    readEach reader names
  program.thenFinally reader.callFinish

def tableLine (table : Table) : String :=
  let keys := ", ".intercalate table.keyColumns
  "  - " ++ table.name ++ " (" ++ toString table.columns.length ++ " columns, key: " ++
    (if keys.isEmpty then "none" else keys) ++ ")" ++
    (if table.references.isEmpty then "" else " <- " ++ ", ".intercalate table.references)

def listTables (workspace : Workspace) (request : Request) : Outcome :=
  let failed (problem : String) := Effect.report ("❌ Error: " ++ problem ++ "\n")
  match workspace.openDatabase request.database with
  | .error problem => .abort [failed problem]
  | .ok catalog =>
    let reader := DuckDb.reader catalog.connection request.schemaName
    let database := (FilePath.ofString request.database).stem
    let (outcome, session) := runFresh (readTables reader database)
    let log := shown request.verbose session.log
    match outcome with
    | .ok tables => ⟨log ++ [.show (lines ("📊 Tables:" :: tables.map tableLine))], .done⟩
    | .error failure => .abort (log ++ [failed failure.text])

def Request.run (workspace : Workspace) (id : String) (request : Request) : Outcome :=
  match request.verb with
  | .schema => withBuild workspace id request showSchema
  | .build => withBuild workspace id request (writeBuild workspace request)
  | .tables => listTables workspace request

def Stop.outcome : Stop → Outcome
  | .help place => ⟨[.show place.helpPage], .done⟩
  | .nothing => ⟨[.report (Place.helpPage none)], .stopped 2⟩
  | .option place fault =>
    let text :=
      match fault with
      | .unknown _ _ => place.usageError fault.message
      | .needsValue _ | .takesNoValue _ => lines ["Error: " ++ fault.message]
    ⟨[.report text], .stopped 2⟩
  | .usage place message => ⟨[.report (place.usageError message)], .stopped 2⟩
  | .uncaught failure => ⟨[], .uncaught failure⟩

def run (workspace : Workspace) (id : String) (words : List String) : Outcome :=
  match request workspace words with
  | .ok request => request.run workspace id
  | .error stop => stop.outcome

namespace Effect

def applyTo (files : FileTree) : Effect → FileTree
  | .makeDirectory path => (files.makeDirectory path).toOption.getD files
  | .write file => (files.write file).toOption.getD files
  | .show _ | .report _ | .log _ => files

def plain : Effect → Effect
  | .show text => .show (String.ofList (Text.withoutControlSequences text.toList))
  | .report text => .report (String.ofList (Text.withoutControlSequences text.toList))
  | effect => effect

end Effect

end TableGraph.Command
