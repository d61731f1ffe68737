/-
  The text of a double.

  * `Style`: the decisions of a format: how ties between shortest decimals go,
    which decimal exponents are written with a point at its place, and what
    follows a whole number.
  * `Style.write`: the text of a finite double in a style.
  * `plain`: the style without exponents, and `display` its extension to the
    doubles that are not finite.
-/
import NearestHost.Decimal.Shortest

namespace NearestHost.Decimal

/-- How the shortest decimal of a double is written. -/
structure Style where
  tie : Tie
  /-- Whether a number `d.ddd * 10 ^ e` is written without an exponent. -/
  positional : Int → Bool
  /-- What follows a whole number. -/
  wholeTail : List Char

/-- The digits of the significand. -/
def digits (d : Decimal) : List Char := Nat.toDigits 10 d.significand

/-- The exponent of the first digit. -/
def leadingExponent (d : Decimal) : Int := (d.digits.length : Int) - 1 + d.exponent

/-- The text with the point at its place. -/
def positionalText (tail : List Char) (d : Decimal) : List Char :=
  if 0 ≤ d.exponent then
    d.digits ++ List.replicate d.exponent.toNat '0' ++ tail
  else
    let places := (-d.exponent).toNat
    if places < d.digits.length then
      let whole := d.digits.length - places
      d.digits.take whole ++ '.' :: d.digits.drop whole
    else
      '0' :: '.' :: List.replicate (places - d.digits.length) '0' ++ d.digits

/-- The text with one digit before the point, and an exponent with its sign. -/
def scientificText (d : Decimal) : List Char :=
  let mantissa := match d.digits with
    | [] => []
    | [c] => [c]
    | c :: r => c :: '.' :: r
  let e := d.leadingExponent
  mantissa ++ 'e' :: (if e < 0 then '-' else '+') :: Nat.toDigits 10 e.natAbs

/-- The text of a decimal in a style. -/
def Style.text (s : Style) (d : Decimal) : List Char :=
  if s.positional d.leadingExponent then positionalText s.wholeTail d else scientificText d

/-- The text of a sign and a finite magnitude word in a style. -/
def Style.wordText (s : Style) (negative : Bool) (b : Nat) : List Char :=
  (if negative then ['-'] else []) ++ s.text (shortest s.tie b)

/-- The text of a finite double in a style. -/
def Style.write (s : Style) (x : Float) : List Char :=
  s.wordText (Double.isNegative x) (Double.magnitude x)

/-- Never an exponent, and nothing after a whole number. -/
def plain : Style := ⟨.up, fun _ => true, []⟩

/-- The plain text of any double. -/
def display (x : Float) : String :=
  if Double.isFinite x then String.ofList (plain.write x)
  else if Double.isNaN x then "NaN"
  else if Double.isNegative x then "-inf"
  else "inf"

end NearestHost.Decimal
