import TableGraph.Text.CasedTable
import TableGraph.Text.CaseTable

/-!
Full upper case and lower case of a text. Upper case goes character by character, and so does lower case
but for the capital sigma, which becomes another letter at the end of a word than elsewhere.
-/

namespace TableGraph.Text

def mapCase (runs : List CaseRun) (sequences : List (Nat × List Nat)) (c : Char) : List Char :=
  match sequences.lookup c.toNat with
  | some images => images.map Char.ofNat
  | none =>
    match runs.findSome? (·.map? c.toNat) with
    | some image => [Char.ofNat image]
    | none => [c]

def upperChar (c : Char) : List Char :=
  if c.toNat < 0x80 then [c.toUpper] else mapCase upperRuns upperSequences c

def lowerChar (c : Char) : List Char :=
  if c.toNat < 0x80 then [c.toLower] else mapCase lowerRuns lowerSequences c

def upper (cs : List Char) : List Char :=
  cs.flatMap upperChar

def wordGoesOn : List Char → Bool
  | [] => false
  | c :: rest => if isCaseIgnorable c then wordGoesOn rest else isCased c

def lowerAfter (inWord : Bool) : List Char → List Char
  | [] => []
  | c :: rest =>
    let image := if c == 'Σ' && inWord && !wordGoesOn rest then ['ς'] else lowerChar c
    image ++ lowerAfter (if isCaseIgnorable c then inWord else isCased c) rest

/-- The lower case of a text. A capital sigma is final if its word has begun and does not go on. -/
def lower (cs : List Char) : List Char :=
  lowerAfter false cs

end TableGraph.Text
