import TableGraph.Fault.Failure

/-!
Names of tables together with what they are in, as one text: components with points between them, and
perhaps one at the end. A component that starts with a quote ends with one; inside it a point is a point
and two quotes are one. No component is empty.
-/

namespace TableGraph.DuckDb

structure QualifiedName where
  qualifiers : List String := []
  name : String
  deriving DecidableEq, Repr

inductive NameFault where
  | emptyComponent
  | emptyQuotes
  | strayQuote
  | openQuote
  | afterQuote
  deriving DecidableEq, Repr

namespace NameFault

def message : NameFault → String
  | .emptyComponent => "Zero-length identifier in qualified name!"
  | .emptyQuotes => "Zero-length delimited identifier in qualified name!"
  | .strayQuote => "Unexpected quote in the middle of a qualified name component!"
  | .openQuote => "Unterminated quote in qualified name!"
  | .afterQuote => "Unexpected character after a quoted identifier in a qualified name!"

def failure (fault : NameFault) (text : String) : Failure :=
  .other "ParserException" ("Parser Error: " ++ fault.message ++ " (input: " ++ text ++ ")")

end NameFault

namespace QualifiedName

/-- How far a component has come: nothing of it is read, it has no quotes, its quotes are open, or a quote
was read that may be its last. -/
inductive Progress where
  | start
  | plain
  | quoted
  | closing
  deriving DecidableEq, Repr

/-- The components of the rest of a text; `run` holds the present one backwards. A component without
quotes may still be empty. -/
def componentsFrom (progress : Progress) (run : List Char) :
    List Char → Except NameFault (List String)
  | [] =>
    match progress with
    | .start => .ok []
    | .plain => .ok [String.ofList run.reverse]
    | .quoted => .error .openQuote
    | .closing => if run.isEmpty then .error .emptyQuotes else .ok [String.ofList run.reverse]
  | c :: rest =>
    match progress with
    | .start =>
      if c == '"' then componentsFrom .quoted [] rest
      else if c == '.' then (componentsFrom .start [] rest).map ("" :: ·)
      else componentsFrom .plain [c] rest
    | .plain =>
      if c == '"' then .error .strayQuote
      else if c == '.' then (componentsFrom .start [] rest).map (String.ofList run.reverse :: ·)
      else componentsFrom .plain (c :: run) rest
    | .quoted =>
      if c == '"' then componentsFrom .closing run rest else componentsFrom .quoted (c :: run) rest
    | .closing =>
      if c == '"' then componentsFrom .quoted (c :: run) rest
      else if run.isEmpty then .error .emptyQuotes
      else if c == '.' then (componentsFrom .start [] rest).map (String.ofList run.reverse :: ·)
      else .error .afterQuote

def parse (text : String) : Except NameFault QualifiedName := do
  let components ← componentsFrom .start [] text.toList
  if components.any String.isEmpty then
    throw .emptyComponent
  return ⟨components.dropLast, components.getLastD ""⟩

example : parse "main.t" = .ok ⟨["main"], "t"⟩ := by rfl
example : parse "\"a.b\".c" = .ok ⟨["a.b"], "c"⟩ := by rfl
example : parse "\"\"\"a\"" = .ok ⟨[], "\"a"⟩ := by rfl
example : parse "\"t\"." = .ok ⟨[], "t"⟩ := by rfl
example : parse "q\"uo" = .error .strayQuote := by rfl
example : parse "\"\".t" = .error .emptyQuotes := by rfl
example : parse "a..b" = .error .emptyComponent := by rfl
example : parse ".a\"" = .error .strayQuote := by rfl

end QualifiedName

end TableGraph.DuckDb
