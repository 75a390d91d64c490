import TableGraph.Decimal.Notation
import TableGraph.Json.Basic
import TableGraph.Json.Literal

/-!
Writing JSON texts, in ASCII and without spaces. Numbers that are not finite are written as words.
-/

namespace TableGraph.Json

def decimalText : Binary64 → String
  | .finite negative significand exponent => (Binary64.finite negative significand exponent).text
  | .infinite negative => if negative then "-Infinity" else "Infinity"
  | .undefined => "NaN"

mutual

def print : Json → String
  | .null => "null"
  | .bool true => "true"
  | .bool false => "false"
  | .int n => toString n
  | .decimal value => decimalText value
  | .text s => literal s
  | .list items => "[" ++ ",".intercalate (printItems items) ++ "]"
  | .record members => "\x7b" ++ ",".intercalate (printMembers members) ++ "\x7d"

def printItems : List Json → List String
  | [] => []
  | item :: items => print item :: printItems items

def printMembers : List (String × Json) → List String
  | [] => []
  | (name, value) :: members => (literal name ++ ":" ++ print value) :: printMembers members

end

end TableGraph.Json
