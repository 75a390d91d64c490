import TableGraph.DuckDb.Identifier
import TableGraph.DuckDb.QualifiedName
import TableGraph.DuckDb.SystemViews
import TableGraph.Text.Resemblance

/-!
Looking for a table by a qualified name.

The file's own database is current when it is opened. Beside it a session has the databases `temp`, which
is empty, and `system`, which holds views. Names without a schema are looked for in `main` of each of them
and in `pg_catalog`. Names of tables, schemas and databases may be written in any case. If there is no table
of a name, the error proposes the ones that resemble it most.
-/

namespace TableGraph.DuckDb

namespace CatalogSchema

def table? (schema : CatalogSchema) (name : String) : Option CatalogTable :=
  schema.tables.find? (sameName name ·.name)

def isNamed (schema : CatalogSchema) (database name : String) : Bool :=
  sameName schema.database database && sameName schema.name name

end CatalogSchema

structure Candidate where
  share : Text.Share
  schema : CatalogSchema
  name : String

namespace Candidate

def bytes (s : String) : List UInt8 :=
  s.toList.flatMap String.utf8EncodeChar

/-- How much a table's name resembles another one. Here case counts. -/
def of (schema : CatalogSchema) (name : String) (table : CatalogTable) : Candidate :=
  ⟨Text.resemblance (bytes table.name) (bytes name), schema, table.name⟩

def best (candidates : List Candidate) : List Candidate :=
  candidates.filter fun a => !candidates.any fun b => a.share.isLess b.share

def bestIn (name : String) (schema : CatalogSchema) : Option Candidate :=
  let tables := schema.tables.mergeSort fun a b => lowerCase a.name ≤ lowerCase b.name
  let candidates := (tables.map (Candidate.of schema name)).filter (Text.Share.none.isLess ·.share)
  (best candidates).head?

def bestOf (name : String) (schemas : List CatalogSchema) : List Candidate :=
  best (schemas.filterMap (bestIn name))

end Candidate

def alternatives (names : List String) : String :=
  match names.eraseDups.mergeSort (· ≤ ·) with
  | [] => ""
  | [a] => a
  | [a, b] => a ++ " or " ++ b
  | names => ", ".intercalate names.dropLast ++ ", or " ++ names.getLastD ""

def missingSchema (path : List String) (name : String) : Failure :=
  let schema := ".".intercalate path
  .other "CatalogException"
    ("Catalog Error: Table with name \"" ++ schema ++ "." ++ name ++
      "\" does not exist because schema \"" ++ schema ++ "\" does not exist.")

def ambiguous (database name : String) : Failure :=
  .other "BinderException"
    ("Binder Error: Ambiguous reference to catalog or schema \"" ++ name ++
      "\" - use a fully qualified path like '" ++ identifier database ++ "." ++ identifier name ++ "'")

namespace Catalog

def databases (catalog : Catalog) : List String :=
  ["temp", catalog.database, "system"]

def schemas (catalog : Catalog) : List CatalogSchema :=
  ⟨"temp", "main", []⟩ :: catalog.ownSchemas ++ systemSchemas

def searchPath (catalog : Catalog) : List (String × String) :=
  catalog.databases.map (·, "main") ++ [("system", "pg_catalog")]

def placesOfSchema (catalog : Catalog) (schema : String) : List (String × String) :=
  if sameName schema "main" then catalog.databases.map (·, schema)
  else if systemSchemas.any (sameName schema ·.name) then [("system", schema)]
  else [(catalog.database, schema)]

def placesOfDatabase (catalog : Catalog) (database : String) : List (String × String) :=
  catalog.searchPath.filter (sameName database ·.1)

def schemaAt? (catalog : Catalog) (place : String × String) : Option CatalogSchema :=
  catalog.schemas.find? (·.isNamed place.1 place.2)

def isDatabase (catalog : Catalog) (name : String) : Bool :=
  catalog.databases.any (sameName name)

def ambiguity? (catalog : Catalog) (name : String) : Option Failure :=
  if catalog.isDatabase name then
    ((catalog.placesOfSchema name).find? fun place => (catalog.schemaAt? place).isSome).map
      fun (database, _) => ambiguous database name
  else
    none

/-- Where a qualified name is looked for. A single qualifier may be a database or a schema, two of them are
a database and its schema. No schema lies in another one. -/
def places (catalog : Catalog) : List String → Except Failure (List (String × String))
  | [] => .ok catalog.searchPath
  | [name] =>
    match catalog.ambiguity? name with
    | some failure => .error failure
    | none =>
      .ok (if catalog.isDatabase name then catalog.placesOfDatabase name
        else catalog.placesOfSchema name)
  | [database, schema] => .ok (if catalog.isDatabase database then [(database, schema)] else [])
  | _ => .ok []

def schemaPath (catalog : Catalog) : List String → List String
  | first :: second :: rest =>
    if catalog.isDatabase first then second :: rest else first :: second :: rest
  | qualifiers => qualifiers

/-- A candidate's name with what tells it from tables of other schemas: its schema, or its database if it
is in the file's schema `main`. -/
def qualified (catalog : Catalog) (candidate : Candidate) : String :=
  let schema := candidate.schema
  let qualifier :=
    if schema.isNamed catalog.database "main" then schema.database else schema.name
  qualifier ++ "." ++ candidate.name

/-- What is proposed for a name that is in none of the searched schemas: the best candidates in these,
unless there are better ones elsewhere. -/
def proposals (catalog : Catalog) (searched : List CatalogSchema) (name : String) : List String :=
  let near := Candidate.bestOf name searched
  let anywhere := Candidate.bestOf name catalog.schemas
  if near.any fun a => !anywhere.any fun b => a.share.isLess b.share then near.map (·.name)
  else anywhere.map catalog.qualified

def missingTable (catalog : Catalog) (searched : List CatalogSchema) (name : String) : Failure :=
  let proposal := alternatives (catalog.proposals searched name)
  let text :=
    if proposal.isEmpty then "" else "\nDid you mean \"" ++ proposal ++ "\"?"
  .other "CatalogException"
    ("Catalog Error: Table with name " ++ name ++ " does not exist!" ++ text)

def find (catalog : Catalog) (name : QualifiedName) : Except Failure CatalogTable := do
  let searched := (← catalog.places name.qualifiers).filterMap catalog.schemaAt?
  match searched.findSome? (·.table? name.name) with
  | some table => return table
  | none =>
    throw (if searched.isEmpty then missingSchema (catalog.schemaPath name.qualifiers) name.name
      else catalog.missingTable searched name.name)

def findText (catalog : Catalog) (text : String) : Except Failure CatalogTable :=
  match QualifiedName.parse text with
  | .ok name => catalog.find name
  | .error fault => .error (fault.failure text)

end Catalog

end TableGraph.DuckDb
