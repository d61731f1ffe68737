/-
  The shortest decimal that reads back as a double.

  The finite doubles and the halfway points between them are multiples of
  `2 ^ -1075`, so twice their product with `10 ^ 1074` is a whole number.  On
  that scale a double is compared with the multiples of each power of ten from
  `10 ^ -1074` up: with a grid of decimals.

  * `readsBack`: which numbers on the scale have a given word as their nearest
    double.
  * `onGrid`: the point of one grid that reads back and is nearest to the
    double, if there is one; `Tie.choose` takes one of the two next to it.
  * `shortest`: that point on the coarsest grid that has one.  It has the
    fewest digits, and is the nearest of those.
-/
import NearestHost.Decimal.Basic

namespace NearestHost.Decimal

open Double

/-- Which of two equally near decimals is taken. -/
inductive Tie
  | /-- the greater one -/ up
  | /-- the one with an even last digit -/ even
  deriving Repr, DecidableEq

/-- Twice the product of the value of the word `b` with `10 ^ 1074`. -/
def scaled (b : Nat) : Nat := 2 * units b * 5 ^ 1074

/-- Whether the number `x / (2 * 10 ^ 1074)` has the positive word `b` as its nearest one: it lies
    between the halfway points to the neighbours of `b`, which themselves go to an even `b`. -/
def readsBack (b x : Nat) : Bool :=
  let lower := (units (b - 1) + units b) * 5 ^ 1074
  let upper := (units b + units (b + 1)) * 5 ^ 1074
  (lower < x && x < upper) || (b % 2 == 0 && (x == lower || x == upper))

/-- The choice between the point `j` of a grid and the next one, which stand before and behind a
    double and may read back or not.  The double is the `above` part of a step from `j`. -/
def Tie.choose (tie : Tie) (j above step : Nat) : Bool → Bool → Option Nat
  | true, true =>
    if 2 * above < step then some j
    else if step < 2 * above then some (j + 1)
    else match tie with
      | .up => some (j + 1)
      | .even => if j % 2 = 0 then some j else some (j + 1)
  | true, false => some j
  | false, true => some (j + 1)
  | false, false => none

/-- The multiple of `10 ^ g / 10 ^ 1074` that reads back as `b` and is nearest to it. -/
def onGrid (tie : Tie) (b g : Nat) : Option Nat :=
  let step := 2 * 10 ^ g
  let j := scaled b / step
  tie.choose j (scaled b % step) step (readsBack b (j * step)) (readsBack b ((j + 1) * step))

/-- The point on the coarsest grid of at most `10 ^ g / 10 ^ 1074` that has one.  On the finest
    grid the double itself is a point. -/
def coarsest (tie : Tie) (b : Nat) : Nat → Decimal
  | 0 => ⟨units b * 5 ^ 1074, -1074⟩
  | g + 1 =>
    ((onGrid tie b (g + 1)).map fun j => ⟨j, (g + 1 : Int) - 1074⟩).getD (coarsest tie b g)

/-- A grid that is too coarse for the word `b`, since `2 ^ -1074 < 10 ^ -323`. -/
def coarseGrid (b : Nat) : Nat := digitBound (units b) + (1074 - 323)

/-- The decimal with the fewest digits that reads back as `b`, and of these the nearest to it. -/
def shortest (tie : Tie) (b : Nat) : Decimal :=
  if b = 0 then ⟨0, 0⟩ else coarsest tie b (coarseGrid b)

end NearestHost.Decimal
