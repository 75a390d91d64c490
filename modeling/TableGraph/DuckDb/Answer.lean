import TableGraph.DuckDb.Excerpt
import TableGraph.DuckDb.Lookup

/-!
The answers of an opened database file to the queries about its tables.

The query for the columns of a table takes a qualified name. The query for tables asks the schema
`information_schema`, which nothing tells from a database of that name. Where rows are picked by a name, names are
compared as they are.
-/

namespace TableGraph.DuckDb.Catalog

def sorted (names : List String) : List Row :=
  (names.eraseDups.mergeSort (· ≤ ·)).map fun name => [.text name]

def columnRows (table : CatalogTable) : List Row :=
  table.columns.zipIdx.map fun (column, index) =>
    let primary := table.primaryKey.any (sameName column.name)
    [.int index, .text column.name, .text column.type, .bool (column.required || primary), .null,
      .bool primary]

def keyColumns (table : CatalogTable) (key : ForeignKey) : List String :=
  key.columns.map fun name =>
    ((table.columns.find? fun column => sameName column.name name).map (·.name)).getD name

def answer (catalog : Catalog) : Query → Except Failure (List Row)
  | .currentDatabase => .ok [[.text catalog.database]]
  | .use database =>
    if database == catalog.database then
      .ok []
    else
      .error (.other "CatalogException"
        ("Catalog Error: SET schema: No catalog + schema named \"" ++ database ++ "\" found."))
  | .tableNames schema =>
    match catalog.ambiguity? "information_schema" with
    | some failure => .error failure
    | none => .ok (sorted ((catalog.tables.filter fun table => table.schema == schema && !table.isView).map
      (·.name)))
  | .columns name =>
    match catalog.findText name with
    | .ok table => .ok (columnRows table)
    | .error failure => .error (withExcerpt (.columns name) failure)
  | .foreignKeys name schema =>
    .ok ((catalog.tables.filter fun table => table.name == name && table.schema == schema).flatMap
      fun table => table.foreignKeys.map fun key => [.list ((keyColumns table key).map .text)])
  | .referencing schema name =>
    .ok (sorted ((catalog.tables.filter fun table =>
      table.schema == schema && table.foreignKeys.any (·.table == name)).map (·.name)))

def connection (catalog : Catalog) : Connection Unit where
  execute query state := (catalog.answer query, state)

end TableGraph.DuckDb.Catalog
