import TableGraph.Json.Basic
import TableGraph.Proofs.Text.Lacks
import TableGraph.Proofs.Text.Marked
import TableGraph.Template.Basic

/-!
The execution of mapping templates, as far as the templates of resolvers use it: assignments set variables,
loops run over the items of a list in order, branches run if their condition holds, effects change the list or
record in a variable, and everything else that is met is written as JSON. An execution ends without a result
when the template raises an error, or when it does something that is not known here.
-/

namespace TableGraph

namespace Json

def put (members : List (String × Json)) (name : String) (value : Json) : List (String × Json) :=
  match members with
  | [] => [(name, value)]
  | (other, old) :: rest =>
    if other == name then (name, value) :: rest else (other, old) :: put rest name value

def text? : Json → Option String
  | .text value => some value
  | _ => none

def replaceIn (value : String) (old : Char) (new : String) : String :=
  String.ofList (value.toList.flatMap fun c => if c == old then new.toList else [c])

theorem replaceIn_append (first second : String) (old : Char) (new : String) :
    replaceIn (first ++ second) old new = replaceIn first old new ++ replaceIn second old new := by
  unfold replaceIn
  rw [String.toList_append, List.flatMap_append, String.ofList_append]

theorem replaceIn_of_lacks {value : String} {old : Char} (hvalue : Lacks old value) (new : String) :
    replaceIn value old new = value := by
  have hchars : (value.toList.flatMap fun c => if c == old then new.toList else [c]) = value.toList := by
    unfold Lacks at hvalue
    generalize value.toList = cs at hvalue
    induction cs with
    | nil => rfl
    | cons c cs ih =>
      rw [List.mem_cons, not_or] at hvalue
      rw [List.flatMap_cons, if_neg, ih hvalue.right]
      . rfl
      . simpa using Ne.symm hvalue.left
  unfold replaceIn
  rw [hchars, String.ofList_toList]

theorem mapM_text? (texts : List String) : (texts.map Json.text).mapM text? = some texts := by
  induction texts with
  | nil => rfl
  | cons text rest ih =>
    rw [List.map_cons, List.mapM_cons, ih]
    rfl

def call? (receiver : Json) (method : String) (args : List Json) : Option Json :=
  match receiver, args with
  | .list items, [] =>
    if method == "isEmpty" then some (.bool items.isEmpty)
    else if method == "toString" then
      (items.mapM text?).map fun texts => .text ("[" ++ ", ".intercalate texts ++ "]")
    else none
  | .text value, [.text old, .text new] =>
    match method == "replace", old.toList with
    | true, [c] => some (.text (replaceIn value c new))
    | _, _ => none
  | .record members, [.text name] =>
    if method == "containsKey" then some (.bool (members.any (·.1 == name)))
    else if method == "get" then some ((member? name (.record members)).getD .null)
    else none
  | _, _ => none

theorem call?_toString (texts : List String) :
    (list (texts.map text)).call? "toString" [] = some (.text ("[" ++ ", ".intercalate texts ++ "]")) := by
  rw [call?, mapM_text?]
  rfl

theorem call?_replace (value new : String) {old : String} {c : Char} (hold : old.toList = [c]) :
    (text value).call? "replace" [.text old, .text new] = some (.text (replaceIn value c new)) := by
  rw [call?, hold]
  rfl

def update? (receiver : Json) (method : String) (args : List Json) : Option Json :=
  match receiver, args with
  | .list items, [item] => if method == "add" then some (.list (items ++ [item])) else none
  | .record members, [.text name, value] =>
    if method == "put" then some (.record (put members name value)) else none
  | _, _ => none

end Json

abbrev Scope := List (String × Json)

namespace Scope

/-- What a piece of a text stands for; a dollar sign without a name stands for itself. -/
def piece? (scope : Scope) : Text.Piece → Option (List Char)
  | .plain c => some [c]
  | .marked [] => some ['$']
  | .marked name => ((scope.lookup (String.ofList name)).bind Json.text?).map (·.toList)

def splice? (scope : Scope) : List Text.Piece → Option (List Char)
  | [] => some []
  | piece :: rest => (scope.piece? piece).bind fun here => (scope.splice? rest).map (here ++ ·)

/-- A text with the texts of its variables. They are not escaped, so they may not hold what would have to
be escaped in a literal. -/
def interpolate? (scope : Scope) (text : String) : Option String :=
  ((scope.splice? (Text.pieces '$' none text.toList)).filter (·.all fun c => Json.literalChar c == [c])).map
    String.ofList

variable {scope : Scope}

theorem splice?_plain (cs : List Char) (rest : List Text.Piece) :
    scope.splice? (cs.map .plain ++ rest) = (scope.splice? rest).map (cs ++ ·) := by
  induction cs with
  | nil => simp
  | cons c cs ih =>
    rw [List.map_cons, List.cons_append, splice?, ih]
    simp [piece?, Function.comp_def]

theorem splice?_text {text : String} (htext : Lacks '$' text) (rest : List Char) :
    scope.splice? (Text.pieces '$' none (text.toList ++ rest))
      =
    (scope.splice? (Text.pieces '$' none rest)).map (text.toList ++ ·) := by
  rw [Text.pieces_plain htext, splice?_plain]

theorem splice?_last {text : String} (htext : Lacks '$' text) :
    scope.splice? (Text.pieces '$' none text.toList) = some text.toList := by
  have hspliced : scope.splice? (Text.pieces '$' none (text.toList ++ [])) = _ := splice?_text htext []
  rw [List.append_nil] at hspliced
  rw [hspliced]
  simp [Text.pieces, splice?]

theorem splice?_reference {name value : String} (hname : IsName name)
    (hvalue : scope.lookup name = some (.text value)) {rest : List Char} (hrest : Text.EndsName rest) :
    scope.splice? (Text.pieces '$' none ('$' :: (name.toList ++ rest)))
      =
    (scope.splice? (Text.pieces '$' none rest)).map (value.toList ++ ·) := by
  have hpiece : scope.piece? (.marked name.toList) = some value.toList := by
    cases hchars : name.toList with
    | nil =>
      -- a dollar sign alone is no reference
      rw [IsName, hchars] at hname
      cases hname
    | cons c cs =>
      rw [piece?, ← hchars, String.ofList_toList, hvalue]
      . rfl
      . simp
  rw [Text.pieces_marked (fun c hc => hname.isNameChar hc) hrest, splice?, hpiece]
  rfl

theorem interpolate?_of_splice? {text result : String}
    (hsplice : scope.splice? (Text.pieces '$' none text.toList) = some result.toList)
    (hresult : Plain result) : scope.interpolate? text = some result := by
  have hall : (result.toList.all fun c => Json.literalChar c == [c]) = true := by
    rw [List.all_eq_true]
    intro c hc
    exact beq_iff_eq.mpr (hresult c hc).right
  unfold interpolate?
  rw [hsplice, Option.filter_some, if_pos hall, Option.map_some, String.ofList_toList]

theorem interpolate?_of_plain {text : String} (htext : Plain text) :
    scope.interpolate? text = some text := by
  apply interpolate?_of_splice? _ htext
  exact splice?_last htext.lacks

end Scope

namespace Expression

mutual

def evaluate? (scope : Scope) : Expression → Option Json
  | .code _ => none
  | .text content => (scope.interpolate? content).map .text
  | .variable name => scope.lookup name
  | .property base name => (base.evaluate? scope).bind (Json.member? name)
  | .item base index =>
    match base.evaluate? scope with
    | some (.list items) => items[index]?
    | _ => none
  | .call base method args =>
    (base.evaluate? scope).bind fun receiver => (evaluateAll? scope args).bind (receiver.call? method)

def evaluateAll? (scope : Scope) : List Expression → Option (List Json)
  | [] => some []
  | arg :: args => (arg.evaluate? scope).bind fun value => (evaluateAll? scope args).map (value :: ·)

end

def toolArguments? (tool method : String) : Expression → Option (List Expression)
  | .call (.variable name) called args => if name == tool && called == method then some args else none
  | _ => none

def effect? (scope : Scope) : Expression → Option (String × Json)
  | .call (.variable name) method args =>
    (scope.lookup name).bind fun receiver => (evaluateAll? scope args).bind fun args =>
      (receiver.update? method args).map (name, ·)
  | _ => none

end Expression

namespace Template

def target? : Template → Option String
  | .reference (.variable name) => some name
  | _ => none

/-- Where a template is evaluated: where its value is used by a directive, or in a part of what is
written, in which values stand as JSON only. -/
inductive Position where
  | used
  | written

def Position.evaluate? (position : Position) (scope : Scope) (expression : Expression) : Option Json :=
  match position with
  | .used => expression.evaluate? scope
  | .written =>
    match expression.toolArguments? "util" "toJson" with
    | some [value] => value.evaluate? scope
    | _ => none

mutual

def evaluate? (position : Position) (scope : Scope) : Template → Option Json
  | .text value => (scope.interpolate? value).map .text
  | .int value => some (.int value)
  | .decimal value => some (.decimal value)
  | .bool value => some (.bool value)
  | .null => some .null
  | .reference expression => position.evaluate? scope expression
  | .object members => (evaluateMembers? position scope members).map .record
  | .list items => (evaluateAll? position scope items).map .list
  | _ => none

def evaluateAll? (position : Position) (scope : Scope) : List Template → Option (List Json)
  | [] => some []
  | item :: items =>
    (item.evaluate? position scope).bind fun value =>
      (evaluateAll? position scope items).map (value :: ·)

def evaluateMembers? (position : Position) (scope : Scope) :
    List (String × Template) → Option (List (String × Json))
  | [] => some []
  | (name, member) :: members =>
    (scope.interpolate? name).bind fun name => (member.evaluate? position scope).bind fun value =>
      (evaluateMembers? position scope members).map ((name, value) :: ·)

end

structure Memory where
  scope : Scope
  output : List Json := []

def Memory.set (memory : Memory) (name : String) (value : Json) : Memory :=
  { memory with scope := (name, value) :: memory.scope }

namespace Memory

variable (memory : Memory) {name : String} (value : Json)

@[simp]
theorem output_set : (memory.set name value).output = memory.output := rfl

@[simp]
theorem lookup_set_self : (memory.set name value).scope.lookup name = some value := by
  apply List.lookup_cons_self

@[simp]
theorem lookup_set_of_ne {other : String} (hne : other ≠ name) :
    (memory.set name value).scope.lookup other = memory.scope.lookup other := by
  have hother : (other == name) = false := by simpa using hne
  rw [set, List.lookup_cons, hother]

end Memory

inductive Stop where
  | refused (args : List Json)
  | stuck

mutual

def execute : Template → Memory → Except Stop Memory
  | .comment _, memory => .ok memory
  | .assign target value, memory =>
    match target.target?, value.evaluate? .used memory.scope with
    | some name, some value => .ok (memory.set name value)
    | _, _ => .error .stuck
  | .effect expression, memory =>
    match expression.effect? memory.scope with
    | some (name, value) => .ok (memory.set name value)
    | none => .error .stuck
  | .sequence parts, memory => executeAll parts memory
  | .forEach item collection body, memory =>
    match item.target?, collection.evaluate? .used memory.scope with
    | some name, some (.list items) =>
      items.foldlM (fun memory item => executeAll body (memory.set name item)) memory
    | _, _ => .error .stuck
  | .branch condition thenPart elsePart, memory =>
    match condition.evaluate? .used memory.scope with
    | some (.bool true) => execute thenPart memory
    | some (.bool false) => executeElse elsePart memory
    | _ => .error .stuck
  | .reference expression, memory =>
    match (expression.toolArguments? "util" "error").bind (Expression.evaluateAll? memory.scope) with
    | some args => .error (.refused args)
    | none => .error .stuck
  | written, memory =>
    match written.evaluate? .written memory.scope with
    | some value => .ok { memory with output := memory.output ++ [value] }
    | none => .error .stuck

def executeAll : List Template → Memory → Except Stop Memory
  | [], memory => .ok memory
  | part :: parts, memory => execute part memory >>= executeAll parts

def executeElse : Option Template → Memory → Except Stop Memory
  | none, memory => .ok memory
  | some elsePart, memory => execute elsePart memory

end

def run (template : Template) (args : List (String × Json)) : Except Stop (List Json) :=
  (template.execute { scope := [("ctx", .record [("args", .record args)])] }).map (·.output)

section Steps

variable {memory memory' : Memory} {part : Template}

theorem executeAll_of_ok (hpart : part.execute memory = .ok memory') (parts : List Template) :
    executeAll (part :: parts) memory = executeAll parts memory' := by
  rw [executeAll, hpart]
  rfl

theorem executeAll_of_error {stop : Stop} (hpart : part.execute memory = .error stop)
    (parts : List Template) : executeAll (part :: parts) memory = .error stop := by
  rw [executeAll, hpart]
  rfl

theorem executeAll_comment (remark : String) (parts : List Template) :
    executeAll (.comment remark :: parts) memory = executeAll parts memory :=
  executeAll_of_ok (by rw [execute]) parts

theorem evaluateAll?_texts (position : Position) {scope : Scope} {texts : List String}
    (htexts : ∀ text ∈ texts, Plain text) :
    evaluateAll? position scope (texts.map .text) = some (texts.map .text) := by
  induction texts with
  | nil => rfl
  | cons text rest ih =>
    rw [List.forall_mem_cons] at htexts
    rw [List.map_cons, evaluateAll?, evaluate?, Scope.interpolate?_of_plain htexts.left, ih htexts.right]
    rfl

end Steps

end Template
end TableGraph
