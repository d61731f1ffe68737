/-
  Decimal numbers.

  * `Decimal`: a whole significand and a power of ten.
  * `Decimal.nearest`: the magnitude word of the double nearest to a decimal.
    Exponents far outside the range of doubles are decided without computing
    the power.
-/
import NearestHost.Double.Exact

namespace NearestHost

/-- The number `significand * 10 ^ exponent`. -/
structure Decimal where
  significand : Nat
  exponent : Int
  deriving Repr, DecidableEq, Inhabited

namespace Decimal

/-- Enough digits to write the whole number `n`: `n < 10 ^ digitBound n`, since `8 < 10`. -/
def digitBound (n : Nat) : Nat := (n.log2 + 1) / 3 + 1

/-- The magnitude word nearest to a decimal, a tie going to the even word.
    From `10 ^ 310` on it is infinity, and below `10 ^ -324` zero. -/
def nearest (d : Decimal) : Nat :=
  if d.significand = 0 then
    0
  else if 0 ≤ d.exponent then
    if 310 ≤ d.exponent then
      Double.infinity
    else
      Double.nearest (d.significand * 10 ^ d.exponent.toNat) 1
  else if digitBound d.significand + 324 ≤ (-d.exponent).toNat then
    0
  else
    Double.nearest d.significand (10 ^ (-d.exponent).toNat)

end Decimal

end NearestHost
