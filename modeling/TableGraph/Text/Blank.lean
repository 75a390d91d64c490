/-!
White space, and the two ways in which text loses it: `trim` drops it at both ends, `collapse` turns
every run of it inside a text into one space.
-/

namespace TableGraph.Text

/--
The Unicode white space characters together with the four separators U+001C to U+001F.
-/
def isBlank (c : Char) : Bool :=
  let n := c.toNat
  (0x09 ≤ n && n ≤ 0x0D) || (0x1C ≤ n && n ≤ 0x20) || n == 0x85 || n == 0xA0 || n == 0x1680 ||
    (0x2000 ≤ n && n ≤ 0x200A) || n == 0x2028 || n == 0x2029 || n == 0x202F || n == 0x205F ||
    n == 0x3000

def trimEnd : List Char → List Char
  | [] => []
  | c :: rest =>
    match trimEnd rest with
    | [] => if isBlank c then [] else [c]
    | kept => c :: kept

def trim (cs : List Char) : List Char :=
  trimEnd (cs.dropWhile isBlank)

/--
The maximal runs of characters that are not blank, in order. The accumulator holds the current run
backwards.
-/
def words (cs : List Char) (run : List Char) : List (List Char) :=
  match cs with
  | [] => if run.isEmpty then [] else [run.reverse]
  | c :: rest =>
    if isBlank c then
      if run.isEmpty then words rest [] else run.reverse :: words rest []
    else
      words rest (c :: run)

def collapse (s : String) : String :=
  " ".intercalate ((words s.toList []).map String.ofList)

theorem trimEnd_append_of_not_blank (cs : List Char) {c : Char} (h : isBlank c = false) :
    trimEnd (cs ++ [c]) = cs ++ [c] := by
  induction cs with
  | nil => simp [trimEnd, h]
  | cons d ds ih => cases ds <;> simp_all [trimEnd]

end TableGraph.Text
