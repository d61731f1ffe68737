/-
  Doubles as exact numbers.

  A double is a sign and a magnitude word: its 64 bits without the sign bit,
  read as a natural number.  The words of the finite doubles are ordered as
  their values are, and every finite value is a multiple of `2 ^ -1074`.

  * `units`: the value of a magnitude word, counted in `2 ^ -1074`.
  * `roundHalfEven`: a quotient rounded to a natural number.
  * `nearest`: the word whose value is nearest to a ratio, a tie going to the
    even word; `infinity` beyond the greatest finite double.
-/
namespace NearestHost.Double

-- Powers are core's own, also where an algebraic hierarchy offers another instance.
attribute [instance (high), default_instance 20000] instPowNat

/-- The magnitude word of the infinities. -/
def infinity : Nat := 2047 * 2 ^ 52

/-- The value of the magnitude word `b`, in units of `2 ^ -1074`. -/
def units (b : Nat) : Nat :=
  if b < 2 ^ 52 then b else (2 ^ 52 + b % 2 ^ 52) * 2 ^ (b / 2 ^ 52 - 1)

/-- The quotient rounded to the nearest natural number, a half to the even one. -/
def roundHalfEven (num den : Nat) : Nat :=
  if 2 * (num % den) < den ∨ (2 * (num % den) = den ∧ num / den % 2 = 0) then
    num / den
  else
    num / den + 1

/-- How many low bits of the whole number `n` do not fit into a significand of 53 bits. -/
def excessBits (n : Nat) : Nat := n.log2 - 52

/-- The magnitude word nearest to `num / den`, a tie going to the even word. -/
def nearest (num den : Nat) : Nat :=
  let scaled := num * 2 ^ 1074
  let p := excessBits (scaled / den)
  min infinity (p * 2 ^ 52 + roundHalfEven scaled (den * 2 ^ p))

/-- The word of the exact product of two words, rounded to nearest. -/
def mulNearest (a b : Nat) : Nat := nearest (units a * units b) (2 ^ 2148)

/-- The word of the exact quotient of two words, rounded to nearest. -/
def divNearest (a b : Nat) : Nat := nearest (units a) (units b)

/-! ## Signs and words of a double -/

/-- The bits of a double without its sign. -/
def magnitude (x : Float) : Nat := x.toBits.toNat % 2 ^ 63

/-- Whether the sign bit is set. -/
def isNegative (x : Float) : Bool := 2 ^ 63 ≤ x.toBits.toNat

/-- Whether a double is a number, with a word below that of the infinities. -/
def isFinite (x : Float) : Bool := magnitude x < infinity

/-- Whether a double is NaN, with a word above that of the infinities. -/
def isNaN (x : Float) : Bool := infinity < magnitude x

/-- The double of a sign and a magnitude word. -/
def ofMagnitude (negative : Bool) (b : Nat) : Float :=
  Float.ofBits (UInt64.ofNat ((if negative then 2 ^ 63 else 0) + b))

end NearestHost.Double
