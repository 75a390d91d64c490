import TableGraph.Definition.Printer
import TableGraph.Log
import TableGraph.TableTypes

/-!
The schema document of a list of tables: for each table its connection, create input, entity and update
input, and after them the root types and the schema definition.
-/

namespace TableGraph

namespace TableTypes

def connection (types : TableTypes) : ObjectType where
  name := connectionName types.table
  fields := [
    { name := "items", type := .list (.named types.table) },
    { name := "nextToken", type := .named "String" }]

def keyArgument (key : Key) : InputValue :=
  ⟨key.column, .nonNull (.named key.scalar)⟩

def mutations (types : TableTypes) : List Field :=
  let delete := types.key?.map fun key =>
    { name := deleteFieldName types.table
      args := [keyArgument key]
      type := .named types.table }
  let create := {
    name := createFieldName types.table
    args := [⟨createArgumentName types.table, .nonNull (.named types.createInput.name)⟩]
    type := .named types.table }
  let update := types.key?.map fun _ =>
    { name := updateFieldName types.table
      args := [⟨updateArgumentName types.table, .nonNull (.named types.updateInput.name)⟩]
      type := .named types.table }
  delete.toList ++ [create] ++ update.toList

def queries (types : TableTypes) : List Field :=
  let get := types.key?.map fun key =>
    { name := getFieldName types.table
      args := [keyArgument key]
      type := .named types.table }
  let list := {
    name := listFieldName types.table
    args := [⟨"nextToken", .named "String"⟩]
    type := .named (connectionName types.table) }
  get.toList ++ [list]

def subscription (types : TableTypes) : Field where
  name := onCreateFieldName types.table
  type := .named types.table
  subscriptions := [[createFieldName types.table]]

def definitions (types : TableTypes) : List Definition :=
  [.object types.connection, .input types.createInput, .object types.entity,
   .input types.updateInput]

end TableTypes

namespace Document

def roots (tables : List TableTypes) : List Definition :=
  [.object ⟨"Mutation", tables.flatMap (·.mutations)⟩,
   .object ⟨"Query", tables.flatMap (·.queries)⟩,
   .object ⟨"Subscription", tables.map (·.subscription)⟩,
   .schema ⟨"Query", "Mutation", "Subscription"⟩]

def ofTables (tables : List TableTypes) : Document :=
  tables.flatMap (·.definitions) ++ roots tables

def assembled (tables : List TableTypes) : LogLine :=
  ⟨.debug, .document,
    "Assembled " ++ toString (ofTables tables).length ++ " definitions for " ++
      toString tables.length ++ " tables"⟩

end Document

end TableGraph
