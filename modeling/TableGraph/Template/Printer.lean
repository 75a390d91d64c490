import TableGraph.Decimal.Notation
import TableGraph.Fault.Failure
import TableGraph.Json.Literal
import TableGraph.Template.Basic

/-!
Mapping templates as text. A tree is rendered for the depth of indentation at which it stands: the bodies
of loops and branches and the members of objects stand one deeper, the parts of a sequence stand on lines
of their own at the same depth.
-/

namespace TableGraph

inductive RenderProblem where
  | foreign (className : String)
  | overlong
  deriving DecidableEq, Repr

def RenderProblem.failure : RenderProblem → Failure
  | .foreign className => .fault (Report.fault {
      kind := .template
      message := "Cannot render template node of type " ++ className })
  | .overlong => .overlong none

namespace Template

def margin (depth : Nat) : String :=
  String.ofList (List.replicate (2 * depth) ' ')

theorem eq_of_mem_margin {depth : Nat} {c : Char} (hc : c ∈ (margin depth).toList) : c = ' ' := by
  rw [margin, String.toList_ofList] at hc
  exact List.eq_of_mem_replicate hc

theorem margin_add (depth levels : Nat) : margin (depth + levels) = margin levels ++ margin depth := by
  unfold margin
  rw [← String.ofList_append, List.replicate_append_replicate, ← Nat.mul_add, Nat.add_comm]

mutual

/-- The text of a tree at a depth. Where several parts cannot be rendered, the first one in order counts;
the body of a loop comes before its head, and the first body of a branch before its condition. -/
def renderAt (depth : Nat) : Template → Except RenderProblem String
  | .text value => .ok (Json.literal value)
  | .int value => if Text.isWritten value then .ok (toString value) else .error .overlong
  | .decimal value => .ok value.text
  | .bool value => .ok (if value then "true" else "false")
  | .null => .ok "null"
  | .reference expression => .ok ("$" ++ expression.source)
  | .effect expression => .ok ("$util.qr(" ++ expression.argument ++ ")")
  | .raw code => .ok code
  | .comment remark => .ok ("## " ++ remark ++ " **")
  | .object [] => .ok "\x7b\x7d"
  | .object (member :: members) => do
    let lines ← renderMembers (depth + 1) (member :: members)
    return "\x7b\n" ++ ",\n".intercalate lines ++ "\n" ++ margin depth ++ "\x7d"
  | .list items => do
    let items ← renderParts depth items
    return "[" ++ ", ".intercalate items ++ "]"
  | .assign target value => do
    let target ← renderAt depth target
    let value ← renderAt depth value
    return "#set( " ++ target ++ " = " ++ value ++ " )"
  | .sequence parts => do
    let parts ← renderParts depth parts
    return ("\n" ++ margin depth).intercalate parts
  | .forEach item collection body => do
    let body ← renderParts (depth + 1) body
    let item ← renderAt depth item
    let collection ← renderAt depth collection
    return "#foreach( " ++ item ++ " in " ++ collection ++ " )\n" ++
      "\n".intercalate (body.map (margin (depth + 1) ++ ·)) ++ "\n" ++ margin depth ++ "#end"
  | .branch condition thenPart elsePart => do
    let thenPart ← renderAt (depth + 1) thenPart
    let condition ← renderAt depth condition
    let elseLines ← renderElse depth elsePart
    return "#if( " ++ condition ++ " )\n" ++ margin (depth + 1) ++ thenPart ++ "\n" ++ elseLines ++
      margin depth ++ "#end"
  | .foreign className => .error (.foreign className)

def renderParts (depth : Nat) : List Template → Except RenderProblem (List String)
  | [] => .ok []
  | part :: parts => do
    let part ← renderAt depth part
    let parts ← renderParts depth parts
    return part :: parts

def renderMembers (depth : Nat) : List (String × Template) → Except RenderProblem (List String)
  | [] => .ok []
  | (name, value) :: members => do
    let value ← renderAt depth value
    let members ← renderMembers depth members
    return (margin depth ++ Json.literal name ++ ": " ++ value) :: members

def renderElse (depth : Nat) : Option Template → Except RenderProblem String
  | none => .ok ""
  | some elsePart => do
    let elsePart ← renderAt (depth + 1) elsePart
    return margin depth ++ "#else\n" ++ margin (depth + 1) ++ elsePart ++ "\n"

end

def render (template : Template) : Except RenderProblem String :=
  template.renderAt 0

end Template

end TableGraph
