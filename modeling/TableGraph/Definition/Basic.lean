/-!
GraphQL type definitions, as far as generated schemas use them.
-/

namespace TableGraph

inductive TypeRef where
  | named (name : String)
  | list (item : TypeRef)
  | nonNull (type : TypeRef)
  deriving DecidableEq, Inhabited, Repr

def TypeRef.name : TypeRef → String
  | .named name => name
  | .list item => item.name
  | .nonNull type => type.name

structure InputValue where
  name : String
  type : TypeRef
  deriving DecidableEq, Repr

/-- A field of an object type, with one `@aws_subscribe` directive for each list of mutations. -/
structure Field where
  name : String
  args : List InputValue := []
  type : TypeRef
  subscriptions : List (List String) := []
  deriving DecidableEq, Repr

structure ObjectType where
  name : String
  fields : List Field
  deriving DecidableEq, Repr

structure InputType where
  name : String
  fields : List InputValue
  deriving DecidableEq, Repr

structure RootTypes where
  query : String
  mutation : String
  subscription : String
  deriving DecidableEq, Repr

inductive Definition where
  | object (type : ObjectType)
  | input (type : InputType)
  | schema (roots : RootTypes)
  deriving DecidableEq, Repr

def Definition.name? : Definition → Option String
  | .object type => some type.name
  | .input type => some type.name
  | .schema _ => none

abbrev Document := List Definition

end TableGraph
