import TableGraph.Scalar
import TableGraph.Text.Case
import TableGraph.Text.EditDistance
import TableGraph.Text.NaturalOrder

/-!
The type names that every schema knows, and suggestions for names that it does not know.
-/

namespace TableGraph

def standardScalars : List String :=
  ["Int", "Float", "String", "Boolean", "ID"]

def introspectionTypes : List String :=
  ["__Schema", "__Directive", "__DirectiveLocation", "__Type", "__Field", "__InputValue",
   "__EnumValue", "__TypeKind"]

def standardNames : List String :=
  standardScalars ++ introspectionTypes

def nameDistance (name candidate : String) : Nat :=
  if name == candidate then
    0
  else
    let name := Text.lower name.toList
    let candidate := Text.lower candidate.toList
    if name == candidate then 1 else Text.editDistance name candidate

def suggestionBound (name : String) : Nat :=
  2 * name.length / 5 + 1

/--
Whether the distance of a candidate from a name can be measured. A candidate whose lower case is far from
that of the name in length is not near, whatever it holds. The others are measured in a table with a
column for each character of the name as it is written, and the shorter of the two lower cases, which has
more characters than the name if letters such as `İ` grow, has to fit into it.
-/
def isMeasurable (name candidate : String) : Bool :=
  let lowerName := Text.lower name.toList
  let lowerCandidate := Text.lower candidate.toList
  let shorter := min lowerName.length lowerCandidate.length
  let longer := max lowerName.length lowerCandidate.length
  name == candidate || lowerName == lowerCandidate ||
    shorter + suggestionBound name < longer || shorter ≤ name.length

def near (name : String) (candidates : List String) : List (Nat × String) :=
  candidates.eraseDups.filterMap fun candidate =>
    let distance := nameDistance name candidate
    if distance ≤ suggestionBound name then some (distance, candidate) else none

inductive SuggestionProblem where
  | unmeasurable
  /-- A candidate near the name has so many digits in a row that it cannot be put in natural order. -/
  | overlongRun (digits : Nat)
  deriving DecidableEq, Repr

def suggestionProblem? (name : String) (candidates : List String) : Option SuggestionProblem :=
  if candidates.all (isMeasurable name) then
    ((near name candidates).findSome? fun entry => Text.overlongRun? entry.2).map .overlongRun
  else
    some .unmeasurable

def suggestions (name : String) (candidates : List String) : List String :=
  let ordered := (near name candidates).mergeSort fun a b =>
    ((compare a.1 b.1).then (Text.naturalCompare a.2 b.2)).isLE
  ordered.map (·.2)

def alternatives : List String → String
  | [] => ""
  | [a] => "'" ++ a ++ "'"
  | [a, b] => "'" ++ a ++ "' or '" ++ b ++ "'"
  | names =>
    ", ".intercalate (names.dropLast.map fun name => "'" ++ name ++ "'") ++ ", or '" ++
      names.getLastD "" ++ "'"

def didYouMean (suggestions : List String) : String :=
  if suggestions.isEmpty then "" else " Did you mean " ++ alternatives (suggestions.take 5) ++ "?"

end TableGraph
