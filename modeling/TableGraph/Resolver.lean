import TableGraph.Sql
import TableGraph.TableTypes
import TableGraph.Template.Basic

/-!
Resolvers: the mapping templates of a field in a root type. The request template makes SQL statements and
the values bound in them, the response template makes the field's value from their results.

Values reach the database through named placeholders only. The columns are those of the table's create
input, so they follow the order of declaration and not the order in a request.
-/

namespace TableGraph

inductive Operation where
  | get
  | list
  | create
  | update
  | delete
  deriving DecidableEq, Repr

namespace Operation

def name : Operation → String
  | .get => "get"
  | .list => "list"
  | .create => "create"
  | .update => "update"
  | .delete => "delete"

def all : List Operation :=
  [.get, .list, .create, .update, .delete]

def ofName? (name : String) : Option Operation :=
  all.find? (·.name == name)

def needsKey : Operation → Bool
  | .get | .update | .delete => true
  | .list | .create => false

end Operation

structure Resolver where
  type : String
  field : String
  request : Template
  response : Template
  deriving Repr

namespace Resolver

def requestVersion : String := "2018-05-29"

def requestOf (statements : List Template) (values : Template) : Template :=
  .object [
    ("version", .text requestVersion),
    ("statements", .list statements),
    ("variableMap", values)]

def requestError : Expression :=
  .path "ctx" ["error"]

def raiseError : Template :=
  .branch (.reference requestError)
    (.reference (.call (.variable "util") "error"
      [requestError.property "message", requestError.property "type"])) none

def rows (statement : Nat) : Expression :=
  .item (.call (.path "utils" ["rds"]) "toJsonObject" [.path "ctx" ["result"]]) statement

def resultJson (value : Expression) : Template :=
  .reference (.call (.variable "utils") "toJson" [value])

def firstRow (statement : Nat) : Template :=
  resultJson (.item (rows statement) 0)

def valueJson (value : Expression) : Template :=
  .reference (.call (.variable "util") "toJson" [value])

def argument (name : String) : Expression :=
  .path "ctx" ["args", name]

def keyValue (key : String) : Template :=
  .object [(Sql.placeholder key, valueJson (argument key))]

def addTo (list text : String) : Template :=
  .effect (.call (.variable list) "add" [.text text])

def bind (name : String) (value : Expression) : Template :=
  .effect (.call (.variable "variables") "put" [.text (Sql.placeholder name), value])

def bindColumn : Template :=
  bind "$col" (.call (.variable "input") "get" [.variable "col"])

def forEachGiven (columns : List String) (parts : List Template) : Template :=
  .forEach (.reference (.variable "col")) (.list (columns.map .text)) [
    .branch (.reference (.call (.variable "input") "containsKey" [.variable "col"]))
      (.sequence parts) none]

def setTo (name : String) (value : Template) : Template :=
  .assign (.reference (.variable name)) value

def listText (list opening closing : String) : Template :=
  let text := Expression.call (.variable list) "toString" []
  let opened := Expression.call text "replace" [.text "[", .text opening]
  .reference (.call opened "replace" [.text "]", .text closing])

def get (table key : String) : Resolver where
  type := "Query"
  field := getFieldName table
  request := .sequence [
    .comment "[Start] Get Request",
    requestOf [.text (Sql.selectByKey table key)] (keyValue key)]
  response := .sequence [raiseError, firstRow 0]

/-- Lists all rows; the page token is not looked at. -/
def list (table : String) : Resolver where
  type := "Query"
  field := listFieldName table
  request := .sequence [
    .comment "[Start] List Request",
    requestOf [.text (Sql.selectAll table)] (.object [])]
  response := .sequence [
    raiseError,
    .object [("items", resultJson (rows 0)), ("nextToken", .null)]]

/-- Inserts the given columns. The new row is read back by its key, or is the input without one. -/
def create (table : String) (columns : List String) (key? : Option String) : Resolver where
  type := "Mutation"
  field := createFieldName table
  request := .sequence [
    .comment "[Start] Create Request",
    setTo "input" (.reference (argument (createArgumentName table))),
    setTo "cols" (.list []),
    setTo "vals" (.list []),
    setTo "variables" (.object []),
    forEachGiven columns [
      addTo "cols" (Sql.identifier "$col"),
      addTo "vals" (Sql.placeholder "$col"),
      bindColumn],
    setTo "colStr" (listText "cols" "(" ")"),
    setTo "valStr" (listText "vals" "(" ")"),
    requestOf
      (.text (Sql.insertInto table ++ " $colStr VALUES $valStr") ::
        (key?.map fun key => Template.text (Sql.selectByKey table key)).toList)
      (valueJson (.variable "variables"))]
  response := .sequence [
    raiseError,
    match key? with
    | some _ => firstRow 1
    | none => valueJson (argument (createArgumentName table))]

/-- Sets the given columns other than the key; a request that gives none of them is refused. -/
def update (table : String) (columns : List String) (key : String) : Resolver where
  type := "Mutation"
  field := updateFieldName table
  request := .sequence [
    .comment "[Start] Update Request",
    setTo "input" (.reference (argument (updateArgumentName table))),
    setTo "assignments" (.list []),
    setTo "variables" (.object []),
    forEachGiven (columns.filter (· != key)) [
      addTo "assignments" (Sql.assignment "$col"),
      bindColumn],
    .branch (.reference (.call (.variable "assignments") "isEmpty" []))
      (.reference (.call (.variable "util") "error"
        [.text ("No fields to update on " ++ table), .text "ValidationError"]))
      none,
    bind key (.property (.variable "input") key),
    setTo "assignmentList" (listText "assignments" "" ""),
    requestOf
      [.text (Sql.updateSet table ++ " $assignmentList " ++ Sql.keyClause key),
       .text (Sql.selectByKey table key)]
      (valueJson (.variable "variables"))]
  response := .sequence [raiseError, firstRow 1]

def delete (table key : String) : Resolver where
  type := "Mutation"
  field := deleteFieldName table
  request := .sequence [
    .comment "[Start] Delete Request",
    requestOf [.text (Sql.selectByKey table key), .text (Sql.deleteByKey table key)] (keyValue key)]
  response := .sequence [raiseError, firstRow 0]

end Resolver

namespace TableTypes

def keyColumn? (types : TableTypes) : Option String :=
  types.key?.map (·.column)

def resolver (types : TableTypes) (operation : Operation) : Except Sql.MissingKey Resolver :=
  match operation with
  | .get => (Sql.requireKey types.table types.keyColumn?).map (Resolver.get types.table)
  | .list => .ok (Resolver.list types.table)
  | .create => .ok (Resolver.create types.table types.columnNames types.keyColumn?)
  | .update =>
    (Sql.requireKey types.table types.keyColumn?).map
      (Resolver.update types.table types.columnNames)
  | .delete => (Sql.requireKey types.table types.keyColumn?).map (Resolver.delete types.table)

def resolverNamed (types : TableTypes) (name : String) : Except Fault Resolver :=
  match Operation.ofName? name with
  | none => .error <| Report.fault {
      kind := .template
      message := "Unknown resolver operation '" ++ name ++ "'"
      table? := some types.table
      operation? := some name
      suggestions := ["Use one of: " ++ ", ".intercalate (Operation.all.map Operation.name)] }
  | some operation =>
    match types.resolver operation with
    | .ok resolver => .ok resolver
    | .error _ => .error <| Report.fault {
        kind := .template
        message :=
          "Cannot generate a " ++ name ++ " resolver for a table without a primary key"
        table? := some types.table
        operation? := some name }

def resolvers (types : TableTypes) : List (Operation × Resolver) :=
  Operation.all.filterMap fun operation =>
    match types.resolver operation with
    | .ok resolver => some (operation, resolver)
    | .error _ => none

def skipped (types : TableTypes) : Log :=
  if types.key?.isSome then
    []
  else
    (Operation.all.filter (·.needsKey)).map fun operation =>
      ⟨.debug, .resolvers,
        "Skipping " ++ operation.name ++ " resolver for keyless table '" ++ types.table ++ "'"⟩

end TableTypes

end TableGraph
