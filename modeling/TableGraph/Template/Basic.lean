import TableGraph.Decimal.Binary64
import TableGraph.Record
import TableGraph.Template.Expression

/-!
Mapping templates as trees. A tree may hold values that are no templates at all; they are kept with the
name of their class and cannot be rendered.
-/

namespace TableGraph

inductive Template where
  | text (value : String)
  | int (value : Int)
  | decimal (value : Binary64)
  | bool (value : Bool)
  | null
  | reference (expression : Expression)
  | effect (expression : Expression)
  | raw (code : String)
  | comment (remark : String)
  | object (members : List (String × Template))
  | list (items : List Template)
  | assign (target value : Template)
  | sequence (parts : List Template)
  | forEach (item collection : Template) (body : List Template)
  | branch (condition thenPart : Template) (elsePart : Option Template)
  | foreign (className : String)
  deriving Inhabited, Repr

def Template.record (members : List (String × Template)) : Template :=
  .object (recordEntries members)

end TableGraph
