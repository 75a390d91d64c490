/-!
Expressions of mapping templates: variables, their properties and items, and calls of their methods. A
text inside an expression may itself hold references, which are replaced when it is evaluated.
-/

namespace TableGraph

inductive Expression where
  | code (source : String)
  | text (content : String)
  | variable (name : String)
  | property (base : Expression) (name : String)
  | item (base : Expression) (index : Nat)
  | call (base : Expression) (method : String) (args : List Expression)
  deriving Inhabited, Repr

namespace Expression

/-- The mark of a reference before its source; a text is no reference, and code brings its own mark. -/
def mark : Expression → String
  | .code _ | .text _ => ""
  | _ => "$"

mutual

def source : Expression → String
  | .code source => source
  | .text content => "\"" ++ content ++ "\""
  | .variable name => name
  | .property base name => base.source ++ "." ++ name
  | .item base index => base.source ++ "[" ++ toString index ++ "]"
  | .call base method args =>
    base.source ++ "." ++ method ++ "(" ++ ", ".intercalate (argumentSources args) ++ ")"

def argumentSources : List Expression → List String
  | [] => []
  | arg :: args => (arg.mark ++ arg.source) :: argumentSources args

end

def argument (e : Expression) : String :=
  e.mark ++ e.source

def path (root : String) (properties : List String) : Expression :=
  properties.foldl .property (.variable root)

example :
    (Expression.call (.variable "cols") "add" [.text ":$col", .path "ctx" ["args"]]).argument =
      "$cols.add(\":$col\", $ctx.args)" := by
  decide

end Expression

end TableGraph
