/-!
The parts of a text between the occurrences of a separator.
-/

namespace TableGraph.Text

def parts (separator : Char) : List Char → List (List Char)
  | [] => [[]]
  | c :: rest =>
    if c == separator then
      [] :: parts separator rest
    else
      match parts separator rest with
      | [] => [[c]]
      | first :: others => (c :: first) :: others

def split (separator : Char) (s : String) : List String :=
  (parts separator s.toList).map String.ofList

end TableGraph.Text
