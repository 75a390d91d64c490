/-!
Layout of printed definitions: parts that are empty leave no trace of their separators and brackets, and
a block is indented as a whole.
-/

namespace TableGraph.Text

def joinParts (separator : String) (parts : List String) : String :=
  separator.intercalate (parts.filter (!·.isEmpty))

def bracket (opening part closing : String) : String :=
  if part.isEmpty then "" else opening ++ part ++ closing

def indentChar (c : Char) : List Char :=
  if c == '\n' then ['\n', ' ', ' '] else [c]

def indent (s : String) : String :=
  if s.isEmpty then "" else "  " ++ String.ofList (s.toList.flatMap indentChar)

def block (lines : List String) : String :=
  if lines.isEmpty then "" else "\x7b\n" ++ indent (joinParts "\n" lines) ++ "\n\x7d"

end TableGraph.Text
