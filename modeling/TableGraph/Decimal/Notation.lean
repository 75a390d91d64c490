import TableGraph.Decimal.Shortest

/-!
The written form of floating-point numbers in mapping templates: positional from the exponent -4 up to
15, where a whole number keeps one zero after the point, and scientific beyond, with a signed exponent of
two digits at least.
-/

namespace TableGraph.Binary64

def isPositional (leading : Int) : Bool :=
  -4 ≤ leading && leading ≤ 15

def positional (digits : List Char) (leading : Int) : String :=
  if leading < 0 then
    "0." ++ String.ofList (List.replicate (-leading - 1).toNat '0' ++ digits)
  else
    let count := leading.toNat + 1
    let whole := digits.take count ++ List.replicate (count - digits.length) '0'
    let rest := digits.drop count
    String.ofList whole ++ "." ++ (if rest.isEmpty then "0" else String.ofList rest)

def scientific (digits : List Char) (leading : Int) : String :=
  let fraction := digits.drop 1
  let exponent := toString leading.natAbs
  String.ofList (digits.take 1) ++ (if fraction.isEmpty then "" else "." ++ String.ofList fraction) ++
    (if leading < 0 then "e-" else "e+") ++ (if exponent.length < 2 then "0" else "") ++ exponent

def sizeText (significand : Nat) (exponent : Int) : String :=
  if significand == 0 then
    "0.0"
  else
    let (digits, place) := Decimal.shortestDigits significand exponent
    let digits := Nat.toDigits 10 digits
    let leading := place + digits.length - 1
    if isPositional leading then positional digits leading else scientific digits leading

def text : Binary64 → String
  | .finite negative significand exponent =>
    (if negative then "-" else "") ++ sizeText significand exponent
  | .infinite negative => if negative then "-inf" else "inf"
  | .undefined => "nan"

end TableGraph.Binary64
