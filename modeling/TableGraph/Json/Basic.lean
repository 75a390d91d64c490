import TableGraph.Decimal.Binary64

/-!
JSON values. The members of a record keep their order and their repeats. Numbers that are written as
integers are integers of any size; the others are floating-point numbers, also those that are not finite.
-/

namespace TableGraph

inductive Json where
  | null
  | bool (value : Bool)
  | int (value : Int)
  | decimal (value : Binary64)
  | text (value : String)
  | list (items : List Json)
  | record (members : List (String × Json))
  deriving Inhabited, Repr

namespace Json

def member? (name : String) : Json → Option Json
  | .record members => (members.reverse.find? (·.1 == name)).map (·.2)
  | _ => none

end Json

end TableGraph
