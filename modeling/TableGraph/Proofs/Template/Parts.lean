import TableGraph.Proofs.Text.Lacks
import TableGraph.Template.Basic

/-!
What stands where in a mapping template: its parts, the texts in it, and the expressions in it with the
expressions that these are made of.
-/

namespace TableGraph
namespace Expression

mutual

@[simp]
def parts : Expression → List Expression
  | .code source => [.code source]
  | .text content => [.text content]
  | .variable name => [.variable name]
  | .property base name => .property base name :: base.parts
  | .item base index => .item base index :: base.parts
  | .call base method args => .call base method args :: (base.parts ++ partsOfAll args)

@[simp]
def partsOfAll : List Expression → List Expression
  | [] => []
  | arg :: args => arg.parts ++ partsOfAll args

end

@[simp]
def text? : Expression → Option String
  | .code source => some source
  | .text content => some content
  | _ => none

@[simp]
def isArguments : Expression → Bool
  | .property (.variable root) name => root == "ctx" && name == "args"
  | _ => false

@[simp]
def argument? : Expression → Option String
  | .property base name => if base.isArguments then some name else none
  | _ => none

def propertyOf? (root : String) : Expression → Option String
  | .property (.variable other) name => if other == root then some name else none
  | _ => none

end Expression

namespace Template

mutual

@[simp]
def parts : Template → List Template
  | .object members => .object members :: partsOfMembers members
  | .list items => .list items :: partsOfAll items
  | .assign target value => .assign target value :: (target.parts ++ value.parts)
  | .sequence steps => .sequence steps :: partsOfAll steps
  | .forEach item collection body =>
    .forEach item collection body :: (item.parts ++ collection.parts ++ partsOfAll body)
  | .branch condition thenPart elsePart =>
    .branch condition thenPart elsePart :: (condition.parts ++ thenPart.parts ++ partsOfElse elsePart)
  | leaf => [leaf]

@[simp]
def partsOfAll : List Template → List Template
  | [] => []
  | part :: rest => part.parts ++ partsOfAll rest

@[simp]
def partsOfMembers : List (String × Template) → List Template
  | [] => []
  | (_, value) :: members => value.parts ++ partsOfMembers members

@[simp]
def partsOfElse : Option Template → List Template
  | none => []
  | some elsePart => elsePart.parts

end

@[simp]
def expressionsHere : Template → List Expression
  | .reference expression | .effect expression => expression.parts
  | _ => []

@[simp]
def textsHere : Template → List String
  | .text value => [value]
  | .raw code => [code]
  | .comment remark => [remark]
  | .object members => members.map (·.1)
  | _ => []

def expressions (template : Template) : List Expression :=
  template.parts.flatMap expressionsHere

def texts (template : Template) : List String :=
  template.parts.flatMap textsHere ++ template.expressions.filterMap (·.text?)

def collections (template : Template) : List Template :=
  template.parts.filterMap fun
    | .forEach _ collection _ => some collection
    | _ => none

end Template

def argumentMark : List Char :=
  "ctx.args.".toList

def argumentsIn : List Char → List String
  | [] => []
  | c :: rest =>
    if argumentMark.isPrefixOf (c :: rest) then
      let behind := (c :: rest).drop argumentMark.length
      String.ofList (behind.takeWhile isNameChar) :: argumentsIn rest
    else
      argumentsIn rest

theorem argumentsIn_eq_nil {cs : List Char} (hdotless : '.' ∉ cs) : argumentsIn cs = [] := by
  induction cs with
  | nil => rfl
  | cons c rest ih =>
    unfold argumentsIn
    rw [if_neg]
    . exact ih fun hmem => hdotless (List.mem_cons_of_mem c hmem)
    . intro hmark
      have hstart : argumentMark <+: c :: rest := List.isPrefixOf_iff_prefix.mp hmark
      exact hdotless (hstart.subset (by decide))

def Template.argumentsRead (template : Template) : List String :=
  template.expressions.filterMap (·.argument?) ++ template.texts.flatMap (argumentsIn ·.toList)

theorem Template.argumentsRead_of_dotless {template : Template}
    (hdotless : ∀ text ∈ template.texts, Lacks '.' text) :
    template.argumentsRead = template.expressions.filterMap (·.argument?) := by
  have hnone : template.texts.flatMap (argumentsIn ·.toList) = [] := by
    rw [List.flatMap_eq_nil_iff]
    intro text htext
    exact argumentsIn_eq_nil (hdotless text htext)
  unfold argumentsRead
  rw [hnone, List.append_nil]

@[simp]
theorem Template.partsOfAll_texts (texts : List String) :
    partsOfAll (texts.map Template.text) = texts.map Template.text := by
  induction texts with
  | nil => rfl
  | cons text rest ih =>
    rw [List.map_cons, partsOfAll, ih]
    rfl

def Template.propertiesRead (template : Template) (root : String) : List String :=
  template.expressions.filterMap (·.propertyOf? root)

end TableGraph
