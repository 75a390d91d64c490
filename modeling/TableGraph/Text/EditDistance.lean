/-!
The number of edits between two texts, where an edit inserts, removes or replaces a character or swaps
two neighbours, and no character is edited twice.

The distances from the prefixes of one text to the prefixes of the other form a table; it is filled
row by row, and a row needs the two above it.
-/

namespace TableGraph.Text

/-- A filled row: the character that the row stands for, and the distances by column. -/
structure DistanceRow where
  char : Char
  cells : List Nat

/--
The cells of the row for `x` to the right of `left`, one for each character of `ys`. `diagonal` stands
above `left`, `above` holds the cells of the row above that follow, `before` is the character left of
`ys`, and `swapped` holds the cells from which a swap starts: of the row two above, from two columns
to the left on.
-/
def distanceCells (x : Char) (previous : Option Char) (before : Option Char) (left diagonal : Nat) :
    (ys : List Char) → (above swapped : List Nat) → List Nat
  | y :: ys, up :: above, swapped =>
    let replaced := if x == y then diagonal else diagonal + 1
    let cell := min (min (up + 1) (left + 1)) replaced
    let cell :=
      match previous, before, swapped with
      | some p, some b, s :: _ => if x == b && p == y then min cell (s + 1) else cell
      | _, _, _ => cell
    let swapped := if before.isSome then swapped.tail else swapped
    cell :: distanceCells x previous (some y) cell up ys above swapped
  | _, _, _ => []

def distanceRows (ys : List Char) (index : Nat) (twoAbove : Option DistanceRow) (above : List Nat) :
    (xs : List Char) → List Nat
  | [] => above
  | x :: xs =>
    let swapped := (twoAbove.map (·.cells)).getD []
    let cells :=
      index :: distanceCells x (twoAbove.map (·.char)) none index (above.headD 0) ys above.tail swapped
    distanceRows ys (index + 1) (some ⟨x, above⟩) cells xs

def editDistance (xs ys : List Char) : Nat :=
  (distanceRows ys 1 none (List.range (ys.length + 1)) xs).getLastD 0

example : editDistance "ca".toList "abc".toList = 3 := by decide
example : editDistance "itn".toList "int".toList = 1 := by decide
example : editDistance "".toList "abc".toList = 3 := by decide

end TableGraph.Text
