/-
  The distance of any two points with finite coordinates.

  The coordinates may be out of range.  The only step on the way to a distance that
  can leave the range of doubles is the difference of the longitudes.

  * `Trigonometry.Strict`: functions of angles that are NaN outside of their domain.
  * `not_neg_greatCircle`: no distance is negative, if no arc cosine is.
  * `Point.Subtractable`: the longitudes have a difference in the range of doubles.
  * `greatCircle_of_finite`: the distance is finite and not negative where they have, and
    NaN where they have not.
  * `not_always_finite`: so not all finite points have a distance.
-/
import NearestHost.Proofs.Double.Exceptional
import NearestHost.Proofs.Globe.Distance

namespace NearestHost

open Double

/-- Functions of angles that are NaN outside of their domain, as they are documented. -/
structure Trigonometry.Strict (t : Trigonometry) : Prop extends t.Sound where
  cos_outside {x : Float} : isFinite x = false → isNaN (t.cos x) = true
  acos_outside {x : Float} : isNaN x = true → isNaN (t.acos x) = true

/-- Points whose coordinates are numbers, of any size. -/
structure Point.Finite (p : Point) : Prop where
  latitude : isFinite p.latitude = true
  longitude : isFinite p.longitude = true

/-- The difference of the longitudes is nearer to the greatest double than to the power of two
    behind it. -/
def Point.Subtractable (p q : Point) : Prop :=
  2 * (value p.longitude - value q.longitude).natAbs < twiceMean (infinity - 1)

namespace Globe

variable {t : Trigonometry} {p q : Point}

theorem isFinite_sub_iff (hp : p.Finite) (hq : q.Finite) :
    isFinite (p.longitude - q.longitude) = true ↔ p.Subtractable q := by
  have hrounds := sub_rounds hp.longitude hq.longitude
  rw [hrounds.isFinite_iff (Nat.two_pow_pos 1074), Point.Subtractable, ← Nat.mul_assoc]
  exact Nat.mul_lt_mul_right (Nat.two_pow_pos 1074)

theorem clamp_of_isNaN {l r x : Float} (hx : isNaN x = true) : clamp l r x = x := by
  unfold clamp
  rw [if_neg (not_lt_of_isNaN (Or.inl hx)), if_neg (not_lt_of_isNaN (Or.inr hx))]

/-- Where the difference of the longitudes is infinite, its cosine is NaN. -/
theorem centralCosine_of_overflow (ht : t.Strict) (hp : p.Finite) (hq : q.Finite)
    (hd : ¬ p.Subtractable q) : isNaN (centralCosine t p q) = true := by
  have hover := Bool.eq_false_iff.2 (mt (isFinite_sub_iff hp hq).1 hd)
  have hinfinite : isFinite (radians positiveInfinity) = false := by decide
  have habs := (sub_rounds hp.longitude hq.longitude).abs_of_overflow hover
  have hcos : isNaN (t.cos (radians (p.longitude - q.longitude).abs)) = true := by
    rw [habs]
    exact ht.cos_outside hinfinite
  exact isNaN_add _ (isNaN_mul _ hcos)

/-- The distance of a point in range from itself. -/
theorem greatCircle_self (t : Trigonometry) (hp : p.InRange) : greatCircle t p p = 0 := by
  obtain ⟨hlat, hlon⟩ := isFinite_of_inRange hp
  have hsame {x : Float} (hx : isFinite x = true) : (x == x) = true :=
    beq_iff.2 ⟨isNaN_of_isFinite hx, isNaN_of_isFinite hx, rfl⟩
  have hpoint : p.same p = true := by rw [Point.same, hsame hlat, hsame hlon]; rfl
  rw [greatCircle, if_pos hpoint]

/-- An angle that is not negative has no negative distance, be it infinite or NaN. -/
theorem not_neg_scale {x : Float} (hx : ¬ x < 0) : ¬ earthRadius * x < 0 := by
  cases hnan : isNaN x with
  | true => exact not_lt_of_isNaN (Or.inl (isNaN_mul _ hnan))
  | false =>
    have hvalue : 0 ≤ value x := (le_iff.1 ((not_lt hnan rfl).1 hx)).2.2
    cases hfin : isFinite x with
    | true =>
      have hradius : 0 ≤ value earthRadius := (le_iff.1 (show 0 ≤ earthRadius by decide)).2.2
      have hproduct := (mul_rounds (show isFinite earthRadius by decide) hfin).value_nonneg
        (Nat.two_pow_pos 2148) (Int.mul_nonneg hradius hvalue)
      exact fun hneg => absurd (lt_iff.1 hneg).2.2 (Int.not_lt.2 hproduct)
    | false =>
      have hword : magnitude x = infinity :=
        le_antisymm (isNaN_eq_false.1 hnan) (Nat.not_lt.1 (mt isFinite_iff.2 (by rw [hfin]; decide)))
      have hsign : isNegative x = false := by
        by_contra hneg
        rw [value_of_neg (Bool.not_eq_false _ ▸ hneg), hword] at hvalue
        have := units_pos.2 (show 0 < infinity by decide)
        omega
      have hinfinite : x = positiveInfinity := eq_of_words hword hsign
      rw [hinfinite]
      decide

/-- **No distance is negative**, whatever the coordinates are, if no arc cosine is. -/
theorem not_neg_greatCircle (ht : ∀ x, ¬ t.acos x < 0) (p q : Point) :
    ¬ greatCircle t p q < 0 := by
  unfold greatCircle
  split_ifs
  · decide
  · exact not_neg_scale (ht _)

theorem not_same_of_overflow (hd : ¬ p.Subtractable q) : p.same q = false := by
  refine Bool.eq_false_iff.2 fun hsame => hd ?_
  obtain ⟨-, hlon⟩ := Bool.and_eq_true_iff.1 hsame
  have hpos : 0 < twiceMean (infinity - 1) := by
    have := units_pos.2 (show 0 < infinity - 1 by decide)
    unfold twiceMean
    omega
  rw [Point.Subtractable, (beq_iff.1 hlon).2.2, Int.sub_self]
  exact hpos

theorem greatCircle_of_overflow (ht : t.Strict) (hp : p.Finite) (hq : q.Finite)
    (hd : ¬ p.Subtractable q) : isNaN (greatCircle t p q) = true := by
  have hnan := centralCosine_of_overflow ht hp hq hd
  unfold greatCircle
  rw [not_same_of_overflow hd, if_neg Bool.false_ne_true, clamp_of_isNaN hnan]
  exact isNaN_mul _ (ht.acos_outside hnan)

/-- **A distance of finite points is finite and not negative** if the difference of their
    longitudes does not overflow; if it does, the distance is NaN. -/
theorem greatCircle_of_finite (ht : t.Strict) (hp : p.Finite) (hq : q.Finite) :
    (p.Subtractable q → isFinite (greatCircle t p q) = true ∧ 0 ≤ greatCircle t p q) ∧
      (¬ p.Subtractable q → isNaN (greatCircle t p q) = true) := by
  constructor
  · intro hd
    obtain ⟨hfinite, hpos, -⟩ := greatCircle_bounds ht.toSound hp.latitude hq.latitude
      ((isFinite_sub_iff hp hq).2 hd)
    exact ⟨hfinite, hpos⟩
  · intro hd
    exact greatCircle_of_overflow ht hp hq hd

/-! ## Two points half of the range of doubles away from zero -/

/-- Functions of angles that are right at no turn, at odd numbers of half turns and outside of
    their domain, and coarse elsewhere. -/
def coarse : Trigonometry where
  sin _ := 0
  cos x := if isFinite x then if x == 0 then 1 else -1 else 0 / 0
  acos x := if isNaN x then 0 / 0 else if x == 1 then 0 else pi

theorem coarse_strict : coarse.Strict where
  sin {x} _ := by
    have h : -1 ≤ (0 : Float) ∧ (0 : Float) ≤ 1 := ⟨by decide, by decide⟩
    exact h
  cos {x} hx := by
    simp only [coarse, hx, if_true]
    split <;> exact ⟨by decide, by decide⟩
  acos {x} hlo _ := by
    have hneg : coarse.acos (-1) = pi := by decide
    have hx : isNaN x = false := (le_iff.1 hlo).2.1
    rw [hneg]
    simp only [coarse, hx, Bool.false_eq_true, if_false]
    split <;> exact ⟨by decide, by decide⟩
  halfTurn := by decide
  cos_outside {x} hx := by
    simp only [coarse, hx, Bool.false_eq_true, if_false]
    decide
  acos_outside {x} hx := by
    simp only [coarse, hx, if_true]
    decide

/-- The point on the equator at the longitude `2 ^ 1023`. -/
def farEast : Point := ⟨0, ofMagnitude false (2046 * 2 ^ 52)⟩

/-- The point on the equator at the longitude `-2 ^ 1023`. -/
def farWest : Point := ⟨0, ofMagnitude true (2046 * 2 ^ 52)⟩

theorem farEast_finite : farEast.Finite := ⟨by decide, by decide⟩

theorem farWest_finite : farWest.Finite := ⟨by decide, by decide⟩

theorem far_not_subtractable : ¬ farEast.Subtractable farWest := by
  rw [← isFinite_sub_iff farEast_finite farWest_finite]
  decide

/-- The point on the equator three half turns to the east. -/
def beyond : Point := ⟨0, 540⟩

theorem beyond_finite : beyond.Finite := ⟨by decide, by decide⟩

/-- The point out of range has a distance to the origin, and the far ones have none between them. -/
theorem greatCircle_of_finite_far : coarse.Strict ∧ beyond.Finite ∧ farEast.Finite ∧
    farWest.Finite ∧ isFinite (greatCircle coarse beyond ⟨0, 0⟩) = true ∧
    0 ≤ greatCircle coarse beyond ⟨0, 0⟩ ∧ isNaN (greatCircle coarse farEast farWest) = true := by
  have horigin : (Point.mk 0 0).Finite := ⟨by decide, by decide⟩
  have hnear : beyond.Subtractable ⟨0, 0⟩ := by
    rw [← isFinite_sub_iff beyond_finite horigin]
    decide
  obtain ⟨hfinite, hpos⟩ := (greatCircle_of_finite coarse_strict beyond_finite horigin).1 hnear
  have hfar := (greatCircle_of_finite coarse_strict farEast_finite farWest_finite).2
    far_not_subtractable
  exact ⟨coarse_strict, beyond_finite, farEast_finite, farWest_finite, hfinite, hpos, hfar⟩

/-- So not all finite points have a distance. -/
theorem not_always_finite : ¬ ∀ (t : Trigonometry) (p q : Point), t.Strict → p.Finite → q.Finite →
    isFinite (greatCircle t p q) = true ∧ isNaN (greatCircle t p q) = false ∧
      0 ≤ greatCircle t p q := by
  intro h
  obtain ⟨-, hnumber, -⟩ := h coarse farEast farWest coarse_strict farEast_finite farWest_finite
  rw [greatCircle_of_overflow coarse_strict farEast_finite farWest_finite far_not_subtractable]
    at hnumber
  cases hnumber

end Globe

end NearestHost
