import TableGraph.Definition.Basic
import TableGraph.Text.Hex
import TableGraph.Text.Layout

/-!
Definitions as text of the schema definition language.
-/

namespace TableGraph

open Text

def sdlLiteralChar (c : Char) : List Char :=
  if c == '"' || c == '\\' then ['\\', c]
  else if c == '\x08' then ['\\', 'b']
  else if c == '\t' then ['\\', 't']
  else if c == '\n' then ['\\', 'n']
  else if c == '\x0c' then ['\\', 'f']
  else if c == '\r' then ['\\', 'r']
  else if c.toNat < 0x20 || (0x7F ≤ c.toNat && c.toNat ≤ 0x9F) then
    '\\' :: 'u' :: (hexDigits 4 c.toNat).map Char.toUpper
  else [c]

def sdlLiteral (s : String) : String :=
  String.ofList ('"' :: s.toList.flatMap sdlLiteralChar ++ ['"'])

def maxListWidth : Nat := 80

def printValues (values : List String) : String :=
  let line := "[" ++ joinParts ", " values ++ "]"
  if line.length ≤ maxListWidth then line else "[\n" ++ indent (joinParts "\n" values) ++ "\n]"

def TypeRef.print : TypeRef → String
  | .named name => name
  | .list item => "[" ++ item.print ++ "]"
  | .nonNull type => type.print ++ "!"

def InputValue.print (value : InputValue) : String :=
  value.name ++ ": " ++ value.type.print

def printSubscription (mutations : List String) : String :=
  "@aws_subscribe(mutations: " ++ printValues (mutations.map sdlLiteral) ++ ")"

def printArgs (args : List String) : String :=
  if args.any (·.contains '\n') then
    bracket "(\n" (indent (joinParts "\n" args)) "\n)"
  else
    bracket "(" (joinParts ", " args) ")"

def Field.print (field : Field) : String :=
  field.name ++ printArgs (field.args.map InputValue.print) ++ ": " ++ field.type.print ++
    bracket " " (joinParts " " (field.subscriptions.map printSubscription)) ""

def ObjectType.print (type : ObjectType) : String :=
  joinParts " " ["type", type.name, block (type.fields.map Field.print)]

def InputType.print (type : InputType) : String :=
  joinParts " " ["input", type.name, block (type.fields.map InputValue.print)]

def RootTypes.print (roots : RootTypes) : String :=
  joinParts " " ["schema", block [
    "query: " ++ roots.query,
    "mutation: " ++ roots.mutation,
    "subscription: " ++ roots.subscription]]

def Definition.print : Definition → String
  | .object type => type.print
  | .input type => type.print
  | .schema roots => roots.print

def Document.print (document : Document) : String :=
  joinParts "\n\n" (document.map Definition.print)

end TableGraph
