import TableGraph.Reader
import TableGraph.Record
import TableGraph.Resolver
import TableGraph.Schema
import TableGraph.TypeSystem.Basic

/-!
Builds: reading all tables of a database one at a time, in the order in which the reader lists them, and
assembling their document. The first failure ends a build. Every fault of a build carries the build's
correlation id, and so does every line that the build logs about its own progress.
-/

namespace TableGraph

structure BuildOptions extends TableOptions where
  validate : Bool := true

structure Build where
  database : String
  tables : List TableTypes
  document : Document

namespace Build

def progress (id : String) (level : LogLevel) (message : String) : Log :=
  [⟨level, .build, "[" ++ id ++ "] " ++ message⟩]

structure CallWording where
  logged : String
  message : String

def wordingOf : ReaderCall → CallWording
  | .begin database =>
    ⟨"Failed to open database '" ++ database ++ "'", "Failed to set database to " ++ database⟩
  | .listTables database =>
    ⟨"Failed to list tables in '" ++ database ++ "'", "Failed to list tables in " ++ database⟩
  | .describeTable table =>
    ⟨"Failed to describe table '" ++ table ++ "'", "Failed to describe table " ++ table⟩
  | .referencingTables table =>
    ⟨"Failed to read foreign keys of '" ++ table ++ "'",
      "Failed to read foreign keys referencing " ++ table⟩
  | .finish => ⟨"Failed to end", "Failed to end"⟩

def callFault (id : String) (made : ReaderCall) (failure : Failure) : Fault :=
  let message := (wordingOf made).message
  match made with
  | .begin _ | .listTables _ =>
    .ofCall failure made.name message none made.argument? (some id)
  | .describeTable _ | .referencingTables _ | .finish =>
    .ofCall failure made.name message made.argument? none (some id)

def callFailed (id : String) (made : ReaderCall) (failure : Failure) : Log :=
  progress id .error ((wordingOf made).logged ++ ": " ++ failure.text)

def guarding (id : String) (made : ReaderCall) (program : Reading σ α) : Reading σ α := do
  match ← Reading.observe program with
  | .ok answer => return answer
  | .error failure =>
    Reading.say (callFailed id made failure)
    throw (.fault (callFault id made failure))

def readTable (reader : Reader σ) (options : BuildOptions) (id name : String) :
    Reading σ TableTypes := do
  let columns ← guarding id (.describeTable name) (reader.callDescribeTable name)
  let references ← guarding id (.referencingTables name) (reader.callReferencingTables name)
  Reading.say (progress id .debug
    ("Table '" ++ name ++ "': " ++ toString columns.length ++ " columns, referenced by " ++
      (Json.list (references.map .text)).nested))
  let table : Table := { name, columns, references }
  Reading.say (table.warnings options.strict)
  match table.types options.toTableOptions with
  | .ok types => return types
  | .error fault => throw (.fault (fault.stamp id))

def readEach (reader : Reader σ) (options : BuildOptions) (id : String) :
    List String → Reading σ (List TableTypes)
  | [] => return []
  | name :: names => do
    let types ← readTable reader options id name
    let rest ← readEach reader options id names
    return types :: rest

def readTables (reader : Reader σ) (options : BuildOptions) (id database : String) :
    Reading σ (List TableTypes) := do
  let names ← guarding id (.listTables database) (reader.callListTables database)
  readEach reader options id names

def emptyFault (database : String) : Fault :=
  Report.fault {
    kind := .schema
    message := "Database '" ++ database ++ "' has no tables"
    details := [("database", .text database)]
    suggestions := ["Create at least one table before generating a schema"] }

def validationFailed (id : String) (fault : Fault) : Log :=
  progress id .error
    ("Generated schema failed validation: " ++
      ((fault.details.lookup "original_error").getD .null).display)

def checkDocument (options : BuildOptions) (id : String) (document : Document) :
    Reading σ Unit := do
  if options.validate then
    match document.failure? with
    | none => return ()
    | some (.fault fault) =>
      Reading.say (validationFailed id fault)
      throw (.fault (fault.stamp id))
    | some failure => throw failure

def assemble (options : BuildOptions) (id database : String) (tables : List TableTypes) :
    Reading σ Build := do
  if tables.isEmpty then
    throw (.fault ((emptyFault database).stamp id))
  let document := Document.ofTables tables
  Reading.say [Document.assembled tables]
  checkDocument options id document
  Reading.say (progress id .info
    ("Built schema with " ++ toString document.length ++ " definitions for " ++
      toString tables.length ++ " tables"))
  return { database, tables, document }

/-- Begins with a database. If that fails the reader is released all the same, and a failure to release
it counts before the failure to begin. -/
def beginWith (reader : Reader σ) (id database : String) : Reading σ Unit := do
  match ← Reading.observe (reader.callBegin database) with
  | .ok () => return ()
  | .error failure =>
    Reading.say (callFailed id (.begin database) failure)
    reader.callFinish
    throw (.fault (callFault id (.begin database) failure))

def run (reader : Reader σ) (options : BuildOptions) (id database : String) : Reading σ Build := do
  Reading.say (progress id .info ("Building schema for database '" ++ database ++ "'"))
  beginWith reader id database
  let tables ← (readTables reader options id database).thenFinally reader.callFinish
  assemble options id database tables

def tableNames (build : Build) : List String :=
  build.tables.map (·.table)

/-- The resolvers of each table; a table that was listed several times counts once. -/
def resolvers (build : Build) : List (String × List (Operation × Resolver)) :=
  recordEntries (build.tables.map fun types => (types.table, types.resolvers))

def skippedResolvers (build : Build) : Log :=
  build.tables.flatMap (·.skipped)

end Build

end TableGraph
