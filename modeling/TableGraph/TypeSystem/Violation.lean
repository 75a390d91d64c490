import TableGraph.Definition.Basic
import TableGraph.TypeSystem.Suggestion

/-!
Violations of the rules that a document has to keep as a document: type names are distinct, the fields of
one type name are distinct, and every type that is referred to is defined. They are listed in document
order.
-/

namespace TableGraph

inductive Violation where
  | repeatedType (name : String)
  | repeatedField (type field : String)
  | unknownType (name : String) (suggestions : List String)
  deriving DecidableEq, Repr

def Violation.message : Violation → String
  | .repeatedType name => "There can be only one type named '" ++ name ++ "'."
  | .repeatedField type field =>
    "Field '" ++ type ++ "." ++ field ++ "' can only be defined once."
  | .unknownType name suggestions => "Unknown type '" ++ name ++ "'." ++ didYouMean suggestions

namespace Definition

def fieldNames : Definition → List String
  | .object type => type.fields.map (·.name)
  | .input type => type.fields.map (·.name)
  | .schema _ => []

def references : Definition → List String
  | .object type =>
    type.fields.flatMap fun field => field.args.map (·.type.name) ++ [field.type.name]
  | .input type => type.fields.map (·.type.name)
  | .schema roots => [roots.query, roots.mutation, roots.subscription]

end Definition

namespace Document

def typeNames (document : Document) : List String :=
  document.filterMap (·.name?)

def knownNames (document : Document) : List String :=
  standardNames ++ Scalar.serviceNames ++ document.typeNames

def unknownNames (document : Document) : List String :=
  (document.flatMap (·.references)).filter (!document.knownNames.contains ·)

def suggestionProblem? (document : Document) : Option SuggestionProblem :=
  document.unknownNames.findSome? (TableGraph.suggestionProblem? · document.knownNames)

def fieldsOf (document : Document) (name : String) : List String :=
  (document.filter (·.name? == some name)).flatMap (·.fieldNames)

/-- The names that occur in `seen` or further left, in order. -/
def repeats (seen : List String) : List String → List String
  | [] => []
  | name :: names =>
    if seen.contains name then name :: repeats seen names else repeats (name :: seen) names

def violationsOf (before : Document) (known : List String) (definition : Definition) :
    List Violation :=
  let types :=
    match definition.name? with
    | some name =>
      if (Scalar.serviceNames ++ before.typeNames).contains name then [.repeatedType name] else []
    | none => []
  let fields :=
    match definition.name? with
    | some name =>
      (repeats (before.fieldsOf name) definition.fieldNames).map (.repeatedField name ·)
    | none => []
  let unknown := definition.references.filter (!known.contains ·)
  types ++ fields ++ unknown.map fun name => .unknownType name (suggestions name known)

def violationsFrom (before : Document) (known : List String) : Document → List Violation
  | [] => []
  | definition :: rest =>
    violationsOf before known definition ++ violationsFrom (before ++ [definition]) known rest

def violations (document : Document) : List Violation :=
  violationsFrom [] document.knownNames document

end Document

end TableGraph
