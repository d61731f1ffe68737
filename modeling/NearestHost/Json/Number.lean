/-
  The bytes of a number, one at a time, and the double that they make.

  * `Part.next`: how a byte goes on from the part of a number that it follows.
  * `Tally`: the digits gathered so far.  Digits are taken while the
    significand stays below `2 ^ 64`; further digits before the point only
    count, and those after it are dropped.
  * `Tally.number?`: the number.  Its significand is rounded to a double and
    then multiplied with a power of ten, or divided by it, and rounded again.
    A result beyond the doubles is refused.
-/
import NearestHost.Double.Exact
import NearestHost.Json.Quoted

namespace NearestHost.Json

/-- A number: a whole one below `2 ^ 64` that is written in digits only, or any other. -/
inductive Number
  | natural (n : Nat)
  | real (x : Float)

/-- The double of a number. -/
def Number.toFloat : Number → Float
  | .natural n => Double.ofMagnitude false (Double.nearest n 1)
  | .real x => x

/-! ## Parts -/

/-- The part of a number that ends at a byte. -/
inductive Part
  | /-- the minus sign -/ sign
  | /-- a zero in front -/ zero
  | /-- digits before the point -/ whole
  | /-- the point -/ point
  | /-- digits after the point -/ fraction
  | /-- the letter of the exponent -/ mark
  | /-- the sign of the exponent -/ markSign
  | /-- digits of the exponent -/ exponent
  deriving Repr, DecidableEq

/-- Where a byte after a number, or in one, leads. -/
inductive Turn
  | part (p : Part)
  | /-- the number ends before the byte -/ ended
  | /-- no number goes on like this -/ refused
  deriving Repr, DecidableEq

/-- Whether a byte is a decimal digit. -/
def isDigitByte (b : UInt8) : Bool := byteOf '0' ≤ b && b ≤ byteOf '9'

/-- The value of a decimal digit. -/
def digitOf (b : UInt8) : Nat := (b - byteOf '0').toNat

/-- Whether a byte starts an exponent. -/
def isMark (b : UInt8) : Bool := b == byteOf 'e' || b == byteOf 'E'

namespace Part

/-- The part that a number starts with. -/
def start? (b : UInt8) : Option Part :=
  if b = byteOf '-' then some .sign
  else if b = byteOf '0' then some .zero
  else if isDigitByte b then some .whole
  else none

/-- Whether a number may end here. -/
def isComplete : Part → Bool
  | .zero | .whole | .fraction | .exponent => true
  | _ => false

/-- After the digits before the point. -/
def afterWhole (b : UInt8) : Turn :=
  if b = byteOf '.' then .part .point else if isMark b then .part .mark else .ended

/-- How a byte goes on. -/
def next (p : Part) (b : UInt8) : Turn :=
  match p with
  | .sign =>
    if b = byteOf '0' then .part .zero else if isDigitByte b then .part .whole else .refused
  | .zero => if isDigitByte b then .refused else afterWhole b
  | .whole => if isDigitByte b then .part .whole else afterWhole b
  | .point => if isDigitByte b then .part .fraction else .refused
  | .fraction => if isDigitByte b then .part .fraction else if isMark b then .part .mark else .ended
  | .mark =>
    if isDigitByte b then .part .exponent
    else if b = byteOf '+' ∨ b = byteOf '-' then .part .markSign
    else .refused
  | .markSign => if isDigitByte b then .part .exponent else .refused
  | .exponent => if isDigitByte b then .part .exponent else .ended

end Part

/-! ## Digits -/

/-- What has been gathered of a number. -/
structure Tally where
  negative : Bool
  significand : Nat
  /-- The power of ten of the last digit that was taken. -/
  shift : Int
  /-- Whether no more digits are taken before the point, or after it. -/
  full : Bool
  /-- Whether all that has been read are digits that were taken. -/
  integral : Bool
  exponentNegative : Bool
  exponent : Nat
  deriving Repr, DecidableEq

namespace Tally

/-- Nothing yet. -/
def empty : Tally := ⟨false, 0, 0, false, true, false, 0⟩

/-- The significand stays below this number. -/
def significandLimit : Nat := 2 ^ 64

/-- The greatest exponent that is read. -/
def exponentLimit : Nat := 2 ^ 31 - 1

/-- Whether one more digit is taken. -/
def takes (t : Tally) (d : Nat) : Bool := !t.full && t.significand * 10 + d < significandLimit

/-- One more digit before the point. -/
def wholeDigit (t : Tally) (d : Nat) : Tally :=
  if t.takes d then { t with significand := t.significand * 10 + d }
  else { t with shift := t.shift + 1, full := true, integral := false }

/-- One more digit after the point. -/
def fractionDigit (t : Tally) (d : Nat) : Tally :=
  if t.takes d then { t with significand := t.significand * 10 + d, shift := t.shift - 1 }
  else { t with full := true }

/-- One more digit of the exponent.  One too large is refused at once, unless it makes zero. -/
def exponentDigit? (t : Tally) (d : Nat) : Option Tally :=
  let e := t.exponent * 10 + d
  if exponentLimit < e ∧ t.significand ≠ 0 ∧ !t.exponentNegative then none
  else some { t with exponent := e }

/-- The first byte of a number, which ends the part `p`. -/
def first (p : Part) (b : UInt8) : Tally :=
  if p = .sign then { empty with negative := true } else empty.wholeDigit (digitOf b)

/-- One more byte, which ends the part `p`. -/
def add? (t : Tally) (p : Part) (b : UInt8) : Option Tally :=
  match p with
  | .sign => some { t with negative := true }
  | .zero | .whole => some (t.wholeDigit (digitOf b))
  | .point => some { t with full := false, integral := false }
  | .fraction => some (t.fractionDigit (digitOf b))
  | .mark => some { t with integral := false }
  | .markSign => some { t with exponentNegative := b == byteOf '-' }
  | .exponent => t.exponentDigit? (digitOf b)

/-! ## The number -/

/-- The greatest power of ten that is a factor. -/
def maxPower : Nat := 308

/-- The word of the double nearest to a power of ten. -/
def power (k : Nat) : Nat := Double.nearest (10 ^ k) 1

/-- A word divided by powers of ten, `k` places in all, as many at a time as one power has. -/
def divideByPower (b k : Nat) : Nat :=
  if k ≤ maxPower then Double.divNearest b (power k)
  else if b = 0 then 0
  else divideByPower (Double.divNearest b (power maxPower)) (k - maxPower)
termination_by k
decreasing_by simp [maxPower] at *; omega

/-- A word multiplied with a power of ten, unless the product is beyond the doubles. -/
def multiplyByPower? (b k : Nat) : Option Nat :=
  if b = 0 then some 0
  else if maxPower < k then none
  else
    let r := Double.mulNearest b (power k)
    if r = Double.infinity then none else some r

/-- The word of a significand and a power of ten. -/
def magnitude? (significand : Nat) (e : Int) : Option Nat :=
  let b := Double.nearest significand 1
  if 0 ≤ e then multiplyByPower? b e.toNat else some (divideByPower b (-e).toNat)

/-- The power of ten of the significand. -/
def totalExponent (t : Tally) : Int :=
  if t.exponentNegative then t.shift - t.exponent else t.shift + t.exponent

/-- The number that has been read.  Zero keeps its sign. -/
def number? (t : Tally) : Option Number :=
  if t.integral then
    if t.negative then some (.real (Double.ofMagnitude true (Double.nearest t.significand 1)))
    else some (.natural t.significand)
  else
    (magnitude? t.significand t.totalExponent).map fun b => .real (Double.ofMagnitude t.negative b)

end Tally

end NearestHost.Json
