import TableGraph.DuckDb.Catalog
import TableGraph.Json.Basic

/-!
Catalogs as JSON: a list of records, one for each table or view.
-/

namespace TableGraph

namespace Json

def asText? : Json → Option String
  | .text s => some s
  | _ => none

def asBool? : Json → Option Bool
  | .bool b => some b
  | _ => none

def asList? : Json → Option (List Json)
  | .list items => some items
  | _ => none

def asTexts? (json : Json) : Option (List String) := do
  (← json.asList?).mapM asText?

def memberD (json : Json) (name : String) (default : Json) : Json :=
  (json.member? name).getD default

end Json

namespace DuckDb

def CatalogColumn.ofJson? (json : Json) : Option CatalogColumn := do
  return {
    name := ← (← json.member? "name").asText?
    type := ← (← json.member? "type").asText?
    required := ← (json.memberD "not_null" (.bool false)).asBool? }

def ForeignKey.ofJson? (json : Json) : Option ForeignKey := do
  return {
    columns := ← (← json.member? "columns").asTexts?
    table := ← (← json.member? "table").asText?
    targets := ← (json.memberD "to" (.list [])).asTexts? }

def viewColumns : List CatalogColumn := [{ name := "x", type := "INTEGER" }]

def CatalogTable.ofJson? (json : Json) : Option CatalogTable := do
  let isView ← (json.memberD "view" (.bool false)).asBool?
  let columns ← (← (json.memberD "columns" (.list [])).asList?).mapM CatalogColumn.ofJson?
  return {
    name := ← (← json.member? "name").asText?
    schema := ← (json.memberD "schema" (.text "main")).asText?
    isView
    columns := if isView && columns.isEmpty then viewColumns else columns
    primaryKey := ← (json.memberD "primary_key" (.list [])).asTexts?
    unique := ← (← (json.memberD "unique" (.list [])).asList?).mapM Json.asTexts?
    foreignKeys :=
      ← (← (json.memberD "foreign_keys" (.list [])).asList?).mapM ForeignKey.ofJson? }

def tablesOfJson? (json : Json) : Option (List CatalogTable) := do
  return spellSchemas ["main"] (← (← json.asList?).mapM CatalogTable.ofJson?)

end DuckDb

end TableGraph
