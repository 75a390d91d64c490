/-!
Similarity of two texts: twice the characters that lie in common blocks, over the characters of both.
The common blocks are the longest common block of the two texts, and those of what lies before it and
of what lies after it.
-/

namespace TableGraph.Text

def commonLength {α : Type} [BEq α] : List α → List α → Nat
  | a :: as, b :: bs => if a == b then commonLength as bs + 1 else 0
  | _, _ => 0

structure CommonBlock where
  left : Nat
  right : Nat
  length : Nat

def CommonBlock.longer (a b : CommonBlock) : CommonBlock :=
  if a.length < b.length then b else a

def longestCommonBlock (as bs : List Char) : CommonBlock :=
  (List.range as.length).foldl (fun best i =>
    (List.range bs.length).foldl (fun best j =>
      best.longer ⟨i, j, commonLength (as.drop i) (bs.drop j)⟩) best) ⟨0, 0, 0⟩

/-- The number of characters in common blocks; `depth` bounds the nesting of blocks. -/
def commonChars (depth : Nat) (as bs : List Char) : Nat :=
  match depth with
  | 0 => 0
  | depth + 1 =>
    let common := longestCommonBlock as bs
    if common.length == 0 then
      0
    else
      commonChars depth (as.take common.left) (bs.take common.right) + common.length +
        commonChars depth (as.drop (common.left + common.length))
          (bs.drop (common.right + common.length))

structure Likeness where
  candidate : String
  common : Nat
  total : Nat

def Likeness.of (word candidate : String) : Likeness :=
  let as := candidate.toList
  let bs := word.toList
  ⟨candidate, 2 * commonChars as.length as bs, as.length + bs.length⟩

def Likeness.isClose (l : Likeness) : Bool :=
  3 * l.total ≤ 5 * l.common

def Likeness.precedes (a b : Likeness) : Bool :=
  match compare (a.common * b.total) (b.common * a.total) with
  | .gt => true
  | .lt => false
  | .eq => b.candidate ≤ a.candidate

def closeMatches (word : String) (candidates : List String) : List String :=
  let close := (candidates.map (Likeness.of word)).filter (·.isClose)
  (((close.mergeSort Likeness.precedes).take 3).map (·.candidate)).mergeSort (· ≤ ·)

end TableGraph.Text
