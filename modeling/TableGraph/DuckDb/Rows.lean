import TableGraph.Column
import TableGraph.DuckDb.Query
import TableGraph.Scalar

/-!
Reading the rows that answer the queries about tables.
-/

namespace TableGraph.DuckDb

def typeAliases : List (String × String) := [
  ("BOOLEAN", "BOOL"), ("LOGICAL", "BOOL"),
  ("TIMESTAMP WITH TIME ZONE", "TIMESTAMP"), ("TIMESTAMP WITHOUT TIME ZONE", "TIMESTAMP"),
  ("TIMESTAMPTZ", "TIMESTAMP"), ("TIMESTAMP_S", "TIMESTAMP"), ("TIMESTAMP_MS", "TIMESTAMP"),
  ("TIMESTAMP_NS", "TIMESTAMP"),
  ("TIME WITH TIME ZONE", "TIME"), ("TIMETZ", "TIME"),
  ("HUGEINT", "BIGINT"), ("UHUGEINT", "BIGINT"), ("UBIGINT", "BIGINT"),
  ("UINTEGER", "INTEGER"), ("USMALLINT", "SMALLINT"), ("UTINYINT", "TINYINT")]

def commonType (sqlType : String) : String :=
  (typeAliases.lookup (baseName sqlType)).getD sqlType

namespace Cell

def asText (otherwise : String → Malformed) (cell : Cell) : Except Malformed String :=
  match cell.textIn? with
  | some value => .ok value
  | none => .error (otherwise cell.className)

/-- The names in a list. Other values are no names, and some cannot even be compared with one. -/
def namesIn : List Cell → Except Malformed (List String)
  | [] => .ok []
  | cell :: cells =>
    match cell with
    | .list _ | .record _ => .error (.unhashable cell.className)
    | _ => (namesIn cells).map (cell.textIn?.toList ++ ·)

def asNames (cell : Cell) : Except Malformed (List String) :=
  match cell with
  | .list items => namesIn items
  | .record members => .ok (members.map (·.1))
  | .text value => .ok (value.toList.map fun c => String.ofList [c])
  | _ => if cell.isSet then .error (.noNames cell.className) else .ok []

end Cell

def firstCell : Row → Except Malformed Cell
  | cell :: _ => .ok cell
  | [] => .error .noCell

def onlyCell : List Row → Except Malformed Cell
  | row :: _ => firstCell row
  | [] => .error .noRow

def firstColumn : List Row → Except Malformed (List Cell)
  | [] => .ok []
  | row :: rows => do
    let cell ← firstCell row
    let cells ← firstColumn rows
    return cell :: cells

def keyColumnNames : List Row → Except Malformed (List String)
  | [] => .ok []
  | row :: rows =>
    match row with
    | [cell] => do
      let names ← cell.asNames
      let rest ← keyColumnNames rows
      return names ++ rest
    | [] => .error (.tooFewCells 1 0)
    | _ => .error (.tooManyCells 1)

/-- The column of a row with position, name, type, a flag for values that may not be missing, default
and a flag for the primary key. -/
def columnOfRow (foreign : List String) : Row → Except Malformed Column
  | [_, name, sqlType, required, _, primary] => do
    let sqlType ← sqlType.asText (.lacks · "upper")
    let name ← name.asText .noText
    return {
      name
      sqlType := commonType sqlType
      nullable := !required.isSet
      role :=
        if primary.isSet then .primary
        else if foreign.contains name then .foreignIndex
        else .none }
  | row => .error (if row.length < 6 then .tooFewCells 6 row.length else .tooManyCells 6)

def columnsOfRows (foreign : List String) : List Row → Except Malformed (List Column)
  | [] => .ok []
  | row :: rows => do
    let column ← columnOfRow foreign row
    let columns ← columnsOfRows foreign rows
    return column :: columns

end TableGraph.DuckDb
