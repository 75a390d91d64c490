import TableGraph.Decimal.Basic

/-!
Floating-point numbers of 64 bits, taken apart: a finite one is a sign, a significand and a power of two.
A decimal number is read as the nearest of them, and of two that are as near as the one with the even
significand.
-/

namespace TableGraph

inductive Binary64 where
  /-- The number `± significand · 2 ^ exponent`. -/
  | finite (negative : Bool) (significand : Nat) (exponent : Int)
  | infinite (negative : Bool)
  | undefined
  deriving DecidableEq, Repr

namespace Binary64

def hiddenBit : Nat := 1 <<< 52

def leastExponent : Int := -1074

def greatestExponent : Int := 971

def roundDiv (value denominator : Nat) : Nat :=
  let below := value / denominator
  let rest := value % denominator
  if 2 * rest < denominator || (2 * rest == denominator && below % 2 == 0) then below else below + 1

def exponentFor (value denominator : Nat) : Int :=
  let gap : Int := value.log2 - denominator.log2
  let fits := value <<< (-gap).toNat < denominator <<< gap.toNat
  max leastExponent (if fits then gap - 53 else gap - 52)

def ofQuotient (negative : Bool) (value denominator : Nat) : Binary64 :=
  let exponent := exponentFor value denominator
  let significand := roundDiv (value <<< (-exponent).toNat) (denominator <<< exponent.toNat)
  let carried := significand == 2 * hiddenBit
  let exponent := if carried then exponent + 1 else exponent
  if greatestExponent < exponent then .infinite negative
  else .finite negative (if carried then hiddenBit else significand) exponent

/--
The number nearest to a decimal number. A highest digit that stands for more than `10 ^ 400` is out of
reach, and one that stands for less than `10 ^ (- 400)` is too near to zero.
-/
def ofDecimal (d : Decimal) : Binary64 :=
  let leading := d.exponent + (Nat.toDigits 10 d.digits).length
  if d.digits == 0 || leading < -400 then
    .finite d.negative 0 leastExponent
  else if 400 < leading then
    .infinite d.negative
  else
    ofQuotient d.negative (d.digits * Nat.pow 10 d.exponent.toNat) (Nat.pow 10 (-d.exponent).toNat)

end Binary64

end TableGraph
