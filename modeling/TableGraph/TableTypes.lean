import TableGraph.Column
import TableGraph.Definition.Basic
import TableGraph.Fault.Basic
import TableGraph.Log
import TableGraph.Name
import TableGraph.Scalar

/-!
The types that are generated for one table: the entity, with a field for each column and each table that
refers to it, and the inputs of its create and update mutations.

A table is refused at the first of its faults; `TableTypes.faults` lists all of them in order.
-/

namespace TableGraph

structure Key where
  column : String
  scalar : String
  deriving DecidableEq, Repr

structure TableTypes where
  table : String
  entity : ObjectType
  createInput : InputType
  updateInput : InputType
  key? : Option Key
  deriving DecidableEq, Repr

def TableTypes.columnNames (types : TableTypes) : List String :=
  types.createInput.fields.map (·.name)

structure TableOptions where
  strict : Bool := true
  overrides : Overrides := []

structure Table where
  name : String
  columns : List Column
  references : List String := []
  deriving DecidableEq, Repr

namespace Table

def keyColumns (table : Table) : List String :=
  (table.columns.filter (·.isPrimaryKey)).map (·.name)

def keyColumn? (table : Table) : Option String :=
  match table.keyColumns with
  | [name] => some name
  | _ => none

def nameFault (table : Table) (name : String) (column? : Option String) : Fault :=
  Report.fault {
    kind := .schema
    message := "'" ++ name ++ "' is not a valid GraphQL name"
    table? := some table.name
    column? := column?
    suggestions := [
      "Names must start with a letter or underscore",
      "Only letters, digits and underscores are allowed",
      "Rename the table or column"] }

def nameFaults (table : Table) (name : String) (column? : Option String) : List Fault :=
  if isAcceptedName name then [] else [table.nameFault name column?]

def keyFaults (table : Table) (strict : Bool) : List Fault :=
  if strict && table.keyColumn?.isNone then
    let problem :=
      if table.keyColumns.isEmpty then "has no primary key" else "has a composite primary key"
    [Report.fault {
      kind := .primaryKey
      message :=
        "Table '" ++ table.name ++ "' " ++ problem ++ "; expected exactly one primary key column"
      table? := some table.name
      keyColumns? := some table.keyColumns }]
  else
    []

def faults (table : Table) (strict : Bool) : List Fault :=
  table.nameFaults table.name none ++ table.keyFaults strict ++
    table.columns.flatMap (fun column => table.nameFaults column.name (some column.name)) ++
    table.references.flatMap (table.nameFaults · none)

def warnings (table : Table) (strict : Bool) : Log :=
  if isAcceptedName table.name && !strict && table.keyColumn?.isNone then
    [⟨.warning, .tables,
      "Table '" ++ table.name ++ "' has " ++ toString table.keyColumns.length ++
        " primary key columns; get/update/delete operations will not be generated"⟩]
  else
    []

def scalarOf (overrides : Overrides) (column : Column) : String :=
  Scalar.ofSqlType overrides column.sqlType

def fieldType (overrides : Overrides) (column : Column) : TypeRef :=
  let scalar := TypeRef.named (scalarOf overrides column)
  if column.isPrimaryKey || !column.nullable then .nonNull scalar else scalar

def updateType (overrides : Overrides) (column : Column) : TypeRef :=
  let scalar := TypeRef.named (scalarOf overrides column)
  if column.isPrimaryKey then .nonNull scalar else scalar

/-- The key with its scalar, which is that of the last column of the key's name. -/
def key? (table : Table) (overrides : Overrides) : Option Key :=
  table.keyColumn?.bind fun name =>
    (table.columns.reverse.find? (·.name == name)).map fun column =>
      ⟨name, scalarOf overrides column⟩

def typesWith (table : Table) (overrides : Overrides) : TableTypes where
  table := table.name
  entity := {
    name := table.name
    fields :=
      table.columns.map (fun column =>
        { name := column.name, type := fieldType overrides column }) ++
      table.references.map (fun reference =>
        { name := reference, type := .named (connectionName reference) }) }
  createInput := {
    name := createInputName table.name
    fields := table.columns.map fun column => ⟨column.name, fieldType overrides column⟩ }
  updateInput := {
    name := updateInputName table.name
    fields := table.columns.map fun column => ⟨column.name, updateType overrides column⟩ }
  key? := table.key? overrides

def types (table : Table) (options : TableOptions) : Except Fault TableTypes :=
  match table.faults options.strict with
  | [] => .ok (table.typesWith options.overrides.byBaseName)
  | fault :: _ => .error fault

end Table

end TableGraph
