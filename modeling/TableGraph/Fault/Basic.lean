import TableGraph.Json.Display

/-!
Faults: what goes wrong on the way from a database to a schema.

Whoever meets a fault reports it: a message, and what it concerns. From the report follow the fault's
code, its details, in the order in which they are shown, and its suggestions.
-/

namespace TableGraph

inductive FaultKind where
  | general
  | schema
  | primaryKey
  | introspection
  | template
  deriving DecidableEq, Repr

namespace FaultKind

def className : FaultKind → String
  | .general => "RelQLError"
  | .schema => "SchemaError"
  | .primaryKey => "PrimaryKeyError"
  | .introspection => "IntrospectionError"
  | .template => "TemplateError"

def code : FaultKind → String
  | .general => "RELQL_ERROR"
  | .schema => "SCHEMA_ERROR"
  | .primaryKey => "PRIMARY_KEY_ERROR"
  | .introspection => "INTROSPECTION_ERROR"
  | .template => "TEMPLATE_ERROR"

def suggestions : FaultKind → List String
  | .primaryKey =>
    ["Declare exactly one PRIMARY KEY column on the table",
     "Composite primary keys are not supported",
     "Use --no-strict to skip get/update/delete operations for keyless tables"]
  | .introspection =>
    ["Check that the database is reachable and the name is spelled correctly",
     "Verify the user can read the table definitions",
     "Re-run the build; partial schemas are never produced"]
  | _ => []

end FaultKind

/-- Named details of a fault, in the order in which they were first given. -/
abbrev Details := List (String × Json)

namespace Details

/-- Gives a detail: in the place of the one with the same name if there is one, else at the end. -/
def put (details : Details) (name : String) (value : Json) : Details :=
  match details with
  | [] => [(name, value)]
  | (other, old) :: rest =>
    if other == name then (name, value) :: rest else (other, old) :: put rest name value

def putAll (details entries : Details) : Details :=
  entries.foldl (fun details entry => details.put entry.1 entry.2) details

@[simp]
theorem putAll_nil (details : Details) : details.putAll [] = details := rfl

@[simp]
theorem putAll_cons (details : Details) (entry : String × Json) (entries : Details) :
    details.putAll (entry :: entries) = (details.put entry.1 entry.2).putAll entries := rfl

end Details

structure Fault where
  kind : FaultKind
  message : String
  code : String
  details : Details
  suggestions : List String
  correlation? : Option String
  deriving Repr

namespace Fault

def stamp (fault : Fault) (correlation : String) : Fault :=
  { fault with correlation? := some correlation }

/-- The fault as part of the given build if it belongs to none yet. -/
def claim (fault : Fault) (correlation : String) : Fault :=
  if fault.correlation?.isSome then fault else fault.stamp correlation

def text (fault : Fault) : String :=
  let head := fault.code ++ ": " ++ fault.message
  let details := fault.details.map fun (name, value) => "  " ++ name ++ ": " ++ value.display
  let suggestions :=
    if fault.suggestions.isEmpty then [] else "Try:" :: fault.suggestions.map ("  - " ++ ·)
  let last := "(build " ++ fault.correlation?.getD "" ++ ")"
  "\n".intercalate (head :: details ++ suggestions ++ [last])

end Fault

/--
What is told about a fault. A text that is empty counts as not told, a code apart: an empty code is that
of a general fault.
-/
structure Report where
  kind : FaultKind
  message : String
  code? : Option String := none
  details : Details := []
  suggestions : List String := []
  correlation? : Option String := none
  table? : Option String := none
  column? : Option String := none
  keyColumns? : Option (List String) := none
  operation? : Option String := none
  database? : Option String := none

namespace Report

def textEntry (name : String) : Option String → Details
  | some value => if value.isEmpty then [] else [(name, .text value)]
  | none => []

def entries (report : Report) : Details :=
  let table := textEntry "table" report.table?
  let column := textEntry "column" report.column?
  let operation := textEntry "operation" report.operation?
  match report.kind with
  | .general => []
  | .schema => table ++ column
  | .primaryKey =>
    let keys := report.keyColumns?.map fun names => ("primary_keys", Json.list (names.map .text))
    keys.toList ++ table ++ column
  | .introspection => operation ++ table ++ textEntry "database" report.database?
  | .template => table ++ operation

def code (report : Report) : String :=
  match report.kind, report.code? with
  | .general, some code | .schema, some code =>
    if code.isEmpty then FaultKind.general.code else code
  | kind, _ => kind.code

def faultWith (report : Report) (details : Details) : Fault where
  kind := report.kind
  message := report.message
  code := report.code
  details := details
  suggestions :=
    if report.suggestions.isEmpty then report.kind.suggestions else report.suggestions
  correlation? := report.correlation?.filter (!·.isEmpty)

def fault (report : Report) : Fault :=
  report.faultWith (report.details.putAll report.entries)

end Report

end TableGraph
