/-
  Decimal texts read as doubles.

  A text is an optional sign and either digits with an optional point and an
  optional exponent, or one of the words `inf`, `infinity` and `nan` in any
  letter case.  At least one digit stands before the exponent, and at least
  one in it.

  * `Literal`: what a text denotes, and `Literal.toFloat` the nearest double.
  * `Literal.ofChars?`: the reader.
-/
import NearestHost.Decimal.Basic

namespace NearestHost.Decimal

/-- A number as it is written. -/
inductive Literal
  | finite (negative : Bool) (value : Decimal)
  | infinite (negative : Bool)
  | nan
  deriving Repr, DecidableEq

/-- The double nearest to a written number. -/
def Literal.toFloat : Literal → Float
  | .finite negative d => Double.ofMagnitude negative d.nearest
  | .infinite negative => Double.ofMagnitude negative Double.infinity
  | .nan => Double.ofMagnitude false (Double.infinity + 2 ^ 51)

/-- A sign and the rest of the text. -/
def splitSign : List Char → Bool × List Char
  | '-' :: r => (true, r)
  | '+' :: r => (false, r)
  | r => (false, r)

/-- The number of a non-empty row of digits. -/
def wholeNumber? (cs : List Char) : Option Nat :=
  if cs ≠ [] ∧ cs.all Char.isDigit then some (Nat.ofDigitChars 10 cs 0) else none

/-- The exponent at the end of a text: none, or a mark and a whole number with an optional sign. -/
def exponent? : List Char → Option Int
  | [] => some 0
  | c :: r =>
    if c = 'e' ∨ c = 'E' then
      let (negative, ds) := splitSign r
      (wholeNumber? ds).map fun (n : Nat) => if negative then -(n : Int) else (n : Int)
    else
      none

/-- The digits after an optional point, and the rest of the text. -/
def splitFraction : List Char → List Char × List Char
  | '.' :: r => (r.takeWhile Char.isDigit, r.dropWhile Char.isDigit)
  | r => ([], r)

/-- The decimal that an unsigned text denotes. -/
def ofChars? (cs : List Char) : Option Decimal :=
  let whole := cs.takeWhile Char.isDigit
  let (fraction, rest) := splitFraction (cs.dropWhile Char.isDigit)
  match wholeNumber? (whole ++ fraction), exponent? rest with
  | some n, some e => some ⟨n, e - fraction.length⟩
  | _, _ => none

/-- What an unsigned word denotes, in any letter case. -/
def word? (negative : Bool) (cs : List Char) : Option Literal :=
  match cs.map Char.toLower with
  | ['i', 'n', 'f'] => some (.infinite negative)
  | ['i', 'n', 'f', 'i', 'n', 'i', 't', 'y'] => some (.infinite negative)
  | ['n', 'a', 'n'] => some .nan
  | _ => none

/-- What a text denotes, if it is a number. -/
def Literal.ofChars? (cs : List Char) : Option Literal :=
  let (negative, r) := splitSign cs
  match Decimal.ofChars? r with
  | some d => some (.finite negative d)
  | none => word? negative r

/-- The double nearest to the number that a text denotes. -/
def read? (s : String) : Option Float := (Literal.ofChars? s.toList).map Literal.toFloat

end NearestHost.Decimal
