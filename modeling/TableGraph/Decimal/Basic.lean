/-!
Decimal numbers as they are written: a sign, digits and a power of ten. The sign of zero is kept.
-/

namespace TableGraph

/-- The number `± digits · 10 ^ exponent`. -/
structure Decimal where
  negative : Bool
  digits : Nat
  exponent : Int
  deriving DecidableEq, Repr

end TableGraph
