import TableGraph.Decimal.Notation
import TableGraph.Json.Basic
import TableGraph.Text.Quoted

/-!
Values as messages show them: a text stands as it is, inside a list or a record it is quoted.
-/

namespace TableGraph.Json

mutual

def nested : Json → String
  | .null => "None"
  | .bool true => "True"
  | .bool false => "False"
  | .int n => toString n
  | .decimal value => value.text
  | .text s => Text.quoted s
  | .list items => "[" ++ ", ".intercalate (nestedItems items) ++ "]"
  | .record members => "\x7b" ++ ", ".intercalate (nestedMembers members) ++ "\x7d"

def nestedItems : List Json → List String
  | [] => []
  | item :: items => nested item :: nestedItems items

def nestedMembers : List (String × Json) → List String
  | [] => []
  | (name, value) :: members => (Text.quoted name ++ ": " ++ nested value) :: nestedMembers members

end

def display : Json → String
  | .text s => s
  | value => nested value

end TableGraph.Json
