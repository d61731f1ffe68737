/-
  Doubles with one decimal place.

  * `tenths`: the value of a magnitude word in tenths, rounded to the nearest
    whole number of them, a half to the even one.
  * `oneDecimal`: the text of a double with that many tenths.
-/
import NearestHost.Decimal.Written

namespace NearestHost.Decimal

/-- The tenths nearest to the value of a magnitude word, a half going to the even one. -/
def tenths (b : Nat) : Nat := Double.roundHalfEven (Double.units b * 10) (2 ^ 1074)

/-- The text of a double with one digit after the point. -/
def oneDecimal (x : Float) : String :=
  if Double.isFinite x then
    let t := tenths (Double.magnitude x)
    (if Double.isNegative x then "-" else "") ++ toString (t / 10) ++ "." ++ toString (t % 10)
  else
    display x

end NearestHost.Decimal
