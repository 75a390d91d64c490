import TableGraph.FilePath

/-!
What a DuckDB database file holds: tables and views in schemas, and the name that the database has when
the file is opened.
-/

namespace TableGraph.DuckDb

structure CatalogColumn where
  name : String
  type : String
  required : Bool := false

structure ForeignKey where
  columns : List String
  table : String
  targets : List String

structure CatalogTable where
  name : String
  schema : String := "main"
  isView : Bool := false
  columns : List CatalogColumn := []
  primaryKey : List String := []
  unique : List (List String) := []
  foreignKeys : List ForeignKey := []

structure Catalog where
  database : String
  tables : List CatalogTable

structure CatalogSchema where
  database : String
  name : String
  tables : List CatalogTable

def reservedNames : List String := ["main", "temp", "system"]

/-- The name of the database in a file: the file's name up to its first point, with an ending if that is
reserved. -/
def databaseName (path : FilePath) : String :=
  let name := String.ofList (path.name.toList.takeWhile (· != '.'))
  if reservedNames.contains name then name ++ "_db" else name

def lowerCase (s : String) : String :=
  String.ofList (s.toList.map Char.toLower)

/-- Whether two names are the same but for the case of their ASCII letters. -/
def sameName (a b : String) : Bool :=
  lowerCase a == lowerCase b

/-- The tables with their schemas spelled as they are where they come first, `known` holding the earlier
ones. -/
def spellSchemas (known : List String) : List CatalogTable → List CatalogTable
  | [] => []
  | table :: tables =>
    match known.find? (sameName table.schema) with
    | some schema => { table with schema } :: spellSchemas known tables
    | none => table :: spellSchemas (known ++ [table.schema]) tables

/-- The schemas of a file: `main`, and those that tables are in. -/
def Catalog.ownSchemas (catalog : Catalog) : List CatalogSchema :=
  ("main" :: catalog.tables.map (·.schema)).eraseDups.map fun name =>
    ⟨catalog.database, name, catalog.tables.filter (·.schema == name)⟩

end TableGraph.DuckDb
