import TableGraph.Json.Display
import TableGraph.Text.Blank
import TableGraph.Text.Case

/-!
Columns as a reader describes them.
-/

namespace TableGraph

inductive KeyRole where
  | none
  | primary
  | foreignIndex
  deriving DecidableEq, Repr

def KeyRole.ofTag (tag : String) : KeyRole :=
  let tag := String.ofList (Text.upper (Text.trim tag.toList))
  if tag == "PRI" then .primary else if tag == "MUL" then .foreignIndex else .none

structure Column where
  name : String
  sqlType : String
  nullable : Bool
  role : KeyRole
  deriving DecidableEq, Repr

def Column.isPrimaryKey (column : Column) : Bool :=
  column.role == .primary

structure DescriptionRow where
  field? : Option String
  type? : Option String
  null? : Option Json
  key? : Option String

def Column.ofRow (row : DescriptionRow) : Except String Column := do
  let some name := row.field? | throw "Field"
  let some sqlType := row.type? | throw "Type"
  let null := (row.null?.getD (.text "YES")).display
  return {
    name
    sqlType
    nullable := String.ofList (Text.upper null.toList) == "YES"
    role := .ofTag (row.key?.getD "") }

end TableGraph
