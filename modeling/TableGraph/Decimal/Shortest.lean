import TableGraph.Decimal.Binary64

/-!
The shortest decimal number that reads back as a given floating-point number, and of several that are as
short the one nearest to it.

A positive number is a fraction of natural numbers here. The decimal numbers that read back as it are
those between its two bounds, which lie half-way to its neighbours; the bounds themselves belong to it
iff its significand is even. On every grid of decimal numbers, if any point lies between the bounds, one
of the two points around the number does, so only these are tried, from the coarsest grid on.
-/

namespace TableGraph.Decimal

/-- A positive number and the bounds of what reads back as it, over a common denominator. -/
structure RoundingInterval where
  value : Nat
  lower : Nat
  upper : Nat
  denominator : Nat
  closed : Bool

/--
The interval of `significand · 2 ^ exponent`. The gap below a power of two is half as wide as the one
above it, the least power apart.
-/
def RoundingInterval.of (significand : Nat) (exponent : Int) : RoundingInterval :=
  let narrow := significand == Binary64.hiddenBit && Binary64.leastExponent < exponent
  let scale := 1 <<< (exponent - 2).toNat
  { value := 4 * significand * scale
    lower := (4 * significand - (if narrow then 1 else 2)) * scale
    upper := (4 * significand + 2) * scale
    denominator := 1 <<< (2 - exponent).toNat
    closed := significand % 2 == 0 }

/-- Whether `point / scale · unit` lies in the interval, for a grid of distance `unit / scale`. -/
def RoundingInterval.contains (i : RoundingInterval) (point unit scale : Nat) : Bool :=
  let x := point * unit * i.denominator
  if i.closed then
    i.lower * scale ≤ x && x ≤ i.upper * scale
  else
    i.lower * scale < x && x < i.upper * scale

/--
A point of the grid of distance `unit / scale` that reads back as the number: the nearer of the two
around it, the even one if both are as near.
-/
def RoundingInterval.pointOn? (i : RoundingInterval) (unit scale : Nat) : Option Nat :=
  let step := unit * i.denominator
  let below := i.value * scale / step
  let rest := i.value * scale % step
  match i.contains below unit scale, i.contains (below + 1) unit scale with
  | true, false => some below
  | false, true => some (below + 1)
  | true, true =>
    if 2 * rest < step || (2 * rest == step && below % 2 == 0) then some below else some (below + 1)
  | false, false => none

def leadingExponent (value denominator : Nat) (bound : Nat) : Int :=
  if denominator ≤ value then
    (Nat.toDigits 10 (value / denominator)).length - 1
  else
    match (List.range bound).find? fun k => denominator ≤ value * Nat.pow 10 (k + 1) with
    | some k => -(k + 1 : Int)
    | none => -(bound : Int)

def dropZeros (fuel digits : Nat) (exponent : Int) : Nat × Int :=
  match fuel with
  | 0 => (digits, exponent)
  | fuel + 1 =>
    if digits % 10 == 0 && digits != 0 then dropZeros fuel (digits / 10) (exponent + 1)
    else (digits, exponent)

/--
The digits of the shortest decimal number for `significand · 2 ^ exponent`, and their power of ten.
Seventeen digits are enough for every number.
-/
def shortestDigits (significand : Nat) (exponent : Int) : Nat × Int :=
  let interval := RoundingInterval.of significand exponent
  let leading := leadingExponent interval.value interval.denominator 400
  let found := (List.range 17).findSome? fun (count : Nat) =>
    let place := leading - (count : Int)
    (interval.pointOn? (Nat.pow 10 place.toNat) (Nat.pow 10 (-place).toNat)).map (·, place)
  match found with
  | some (digits, place) => dropZeros 18 digits place
  | none => (0, 0)

end TableGraph.Decimal
