import TableGraph.Fault.Failure
import TableGraph.Name
import TableGraph.TypeSystem.Violation

/-!
Documents as type systems. A document is refused for its violations, all of them together, or else for
the first name that is none in GraphQL: of its types in document order, and then, again in that order, of
the arguments and fields of each type. A definition of a standard type is passed over.
-/

namespace TableGraph

def SuggestionProblem.failure : SuggestionProblem → Failure
  | .unmeasurable => .other "IndexError" "list assignment index out of range"
  | .overlongRun digits => .overlong (some digits)

inductive Refusal where
  | violations (all : List Violation)
  | emptyName
  | nameChars (name : String)
  | nameStart (name : String)
  | inFields (type : String) (refusal : Refusal)
  deriving DecidableEq, Repr

def Refusal.message : Refusal → String
  | .violations all => "\n\n".intercalate (all.map Violation.message)
  | .emptyName => "Expected name to be a non-empty string."
  | .nameChars name =>
    "Names must only contain [_a-zA-Z0-9] but " ++ Text.quoted name ++ " does not."
  | .nameStart name =>
    "Names must start with [_a-zA-Z] but " ++ Text.quoted name ++ " does not."
  | .inFields type refusal => type ++ " fields cannot be resolved. " ++ refusal.message

/-- Why a name is none in GraphQL: the characters after the first are looked at before the first. -/
def nameRefusal? (name : String) : Option Refusal :=
  match name.toList with
  | [] => some .emptyName
  | c :: rest =>
    if !rest.all isNameChar then some (.nameChars name)
    else if !isNameStart c then some (.nameStart name)
    else none

namespace Definition

def nameRefusals : Definition → List Refusal
  | .object type =>
    (type.fields.flatMap (·.args)).filterMap (fun arg =>
      (nameRefusal? arg.name).map (.inFields type.name)) ++
    type.fields.filterMap fun field => nameRefusal? field.name
  | .input type => type.fields.filterMap fun field => nameRefusal? field.name
  | .schema _ => []

end Definition

namespace Document

def ownDefinitions (document : Document) : List Definition :=
  document.filter fun definition => definition.name?.any (!standardNames.contains ·)

def nameRefusals (document : Document) : List Refusal :=
  let own := document.ownDefinitions
  (own.filterMap (·.name?)).filterMap nameRefusal? ++ own.flatMap Definition.nameRefusals

def refusal? (document : Document) : Option Refusal :=
  match document.violations with
  | [] => document.nameRefusals.head?
  | all => some (.violations all)

def rootTypes? (document : Document) : Option RootTypes :=
  document.findSome? fun
    | .schema roots => some roots
    | _ => none

def schemaTypes (document : Document) : List String :=
  let types :=
    Scalar.serviceNames ++ document.typeNames ++ document.ownDefinitions.flatMap (·.references) ++
      ["String", "Boolean"]
  types.eraseDups.mergeSort (· ≤ ·)

def fault? (document : Document) : Option Fault :=
  document.refusal?.map fun refusal => Report.fault {
    kind := .schema
    message := "Generated schema is not valid GraphQL"
    details := [("original_error", .text refusal.message)]
    suggestions := [
      "Check for tables whose names collide with generated type names",
      "Check for tables named Query, Mutation or Subscription"] }

/-- What checking a document fails with. If suggestions cannot be looked for, nothing else counts. -/
def failure? (document : Document) : Option Failure :=
  match document.suggestionProblem? with
  | some problem => some problem.failure
  | none => document.fault?.map .fault

end Document

end TableGraph
