import TableGraph.Text.Digit

/-!
Natural order of texts: runs of digits compare as numbers, everything between them character by
character, so that `a2` comes before `a10`.
-/

namespace TableGraph.Text

inductive Stretch where
  | plain (text : String)
  | number (value : Nat) (text : String)
  deriving DecidableEq, Repr

def digitsValue (digits : List Nat) : Nat :=
  digits.foldl (fun value d => value * 10 + d) 0

def stretchOfRun (numeric : Bool) (run : List Char) : Stretch :=
  let text := String.ofList run.reverse
  if numeric then .number (digitsValue (run.reverse.filterMap digitValue?)) text else .plain text

/--
Splits a text into stretches that alternate between the two kinds. `run` holds the current stretch
backwards.
-/
def stretchesFrom (numeric : Bool) (run : List Char) : List Char → List Stretch
  | [] => [stretchOfRun numeric run]
  | c :: rest =>
    if (digitValue? c).isSome == numeric then
      stretchesFrom numeric (c :: run) rest
    else
      stretchOfRun numeric run :: stretchesFrom (!numeric) [c] rest

def stretches (s : String) : List Stretch :=
  stretchesFrom false [] s.toList

def overlongRun? (s : String) : Option Nat :=
  (stretches s).findSome? fun
    | .plain _ => none
    | .number _ text => if text.length ≤ maxDigits then none else some text.length

def Stretch.compare : Stretch → Stretch → Ordering
  | .plain a, .plain b => Ord.compare a b
  | .number m a, .number n b => (Ord.compare m n).then (Ord.compare a b)
  | .plain _, .number _ _ => .lt
  | .number _ _, .plain _ => .gt

def compareStretches : List Stretch → List Stretch → Ordering
  | [], [] => .eq
  | [], _ :: _ => .lt
  | _ :: _, [] => .gt
  | a :: as, b :: bs => (a.compare b).then (compareStretches as bs)

def naturalCompare (a b : String) : Ordering :=
  compareStretches (stretches a) (stretches b)

end TableGraph.Text
