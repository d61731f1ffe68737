/-
  Bounds of the distance of two points.

  The functions of angles are taken as documented (`Trigonometry.Sound`).

  * `centralCosine_finite`: no overflow and no NaN on the way to the cosine of
    the angle, where the difference of the longitudes does not overflow.
  * `greatCircle_bounds`: the distance is finite, and lies between zero and
    half a turn.
-/
import NearestHost.Globe.Distance
import NearestHost.Proofs.Double.Arithmetic
import NearestHost.Proofs.Globe.Point

namespace NearestHost

open Double

/-- Functions of angles as they are documented. -/
structure Trigonometry.Sound (t : Trigonometry) : Prop where
  sin {x : Float} : isFinite x → -1 ≤ t.sin x ∧ t.sin x ≤ 1
  cos {x : Float} : isFinite x → -1 ≤ t.cos x ∧ t.cos x ≤ 1
  acos {x : Float} : -1 ≤ x → x ≤ 1 → 0 ≤ t.acos x ∧ t.acos x ≤ t.acos (-1)
  /-- An arc cosine is at most π, which is below four. -/
  halfTurn : t.acos (-1) ≤ 4

namespace Globe

section Operations

variable {x y : Float}

/-- A number between another one and its negation. -/
theorem magnitude_le_of_between {l r : Float} (hm : magnitude l = magnitude r)
    (hl : isNegative l = true) (hr : isNegative r = false) (h₁ : l ≤ x) (h₂ : x ≤ r) :
    magnitude x ≤ magnitude r := by
  have hlx := (le_iff.1 h₁).2.2
  have hxr := (le_iff.1 h₂).2.2
  have hx := natAbs_value x
  rw [value_of_neg hl, hm] at hlx
  rw [value_of_not_neg hr] at hxr
  exact units_le_units.1 (by omega)

theorem between_of_magnitude_le {l r : Float} (hm : magnitude l = magnitude r)
    (hl : isNegative l = true) (hr : isNegative r = false) (hfin : isFinite r)
    (h : magnitude x ≤ magnitude r) : l ≤ x ∧ x ≤ r := by
  have hx := natAbs_value x
  have hunits := units_le_units.2 h
  have hnan {y : Float} (hy : magnitude y ≤ magnitude r) : isNaN y = false :=
    isNaN_of_isFinite (isFinite_iff.2 (hy.trans_lt (isFinite_iff.1 hfin)))
  refine ⟨le_iff.2 ⟨hnan hm.le, hnan h, ?_⟩, le_iff.2 ⟨hnan h, hnan le_rfl, ?_⟩⟩
  · rw [value_of_neg hl, hm]
    omega
  · rw [value_of_not_neg hr]
    omega

theorem magnitude_le_of_le (hx : 0 ≤ x) (hxy : x ≤ y) : magnitude x ≤ magnitude y := by
  have h0 : 0 ≤ value x := (le_iff.1 hx).2.2
  have hle := (le_iff.1 hxy).2.2
  have hx' := natAbs_value x
  have hy' := natAbs_value y
  exact units_le_units.1 (by omega)

theorem magnitude_le_one (h₁ : -1 ≤ x) (h₂ : x ≤ 1) : magnitude x ≤ one :=
  magnitude_le_of_between (by decide) (by decide) (by decide) h₁ h₂

theorem isFinite_of_le_one (hx : magnitude x ≤ one) : isFinite x :=
  isFinite_iff.2 (hx.trans_lt (by decide))

/-- The factor of degrees to radians is below one. -/
theorem isFinite_radians (hx : isFinite x) : isFinite (radians x) := by
  have hfactor : magnitude (pi / 180) ≤ one := by decide
  exact isFinite_iff.2 ((magnitude_mul_le hx hfactor).trans_lt (isFinite_iff.1 hx))

theorem mul_le_one (hx : magnitude x ≤ one) (hy : magnitude y ≤ one) : magnitude (x * y) ≤ one :=
  (magnitude_mul_le (isFinite_of_le_one hx) hy).trans hx

theorem isFinite_add (hx : magnitude x ≤ one) (hy : magnitude y ≤ one) : isFinite (x + y) := by
  have hbound : units one + units one ≤ overflowBound := by decide +kernel
  have hx' := units_le_units.2 hx
  have hy' := units_le_units.2 hy
  rw [← natAbs_value] at hx' hy'
  exact (add_rounds (isFinite_of_le_one hx) (isFinite_of_le_one hy)).isFinite_of_le (by omega)

/-- A number up to a half turn of degrees is taken from any finite one without overflow. -/
theorem isFinite_sub (hx : isFinite x) (hy : magnitude y ≤ magnitude 180) : isFinite (x - y) := by
  have hbound : units (infinity - 1) + units (magnitude 180) ≤ overflowBound := by decide +kernel
  have hfin : isFinite y := isFinite_iff.2 (hy.trans_lt (by decide))
  have hx' := units_le_units.2 (Nat.le_sub_one_of_lt (isFinite_iff.1 hx))
  have hy' := units_le_units.2 hy
  rw [← natAbs_value] at hx' hy'
  exact (sub_rounds hx hfin).isFinite_of_le (by omega)

theorem clamp_between (hx : isNaN x = false) : -1 ≤ clamp (-1) 1 x ∧ clamp (-1) 1 x ≤ 1 := by
  have hl : isNaN (-1) = false := by decide
  have hr : isNaN 1 = false := by decide
  unfold clamp
  split_ifs with h₁ h₂
  · exact ⟨by decide, by decide⟩
  · exact ⟨by decide, by decide⟩
  · exact ⟨(not_lt hx hl).1 h₁, (not_lt hr hx).1 h₂⟩

/-- Distances grow with the angle, and stay finite for angles up to four. -/
theorem scale_bounds (hx : 0 ≤ x) (hxy : x ≤ y) (hy : y ≤ 4) :
    isFinite (earthRadius * x) ∧ 0 ≤ earthRadius * x ∧ earthRadius * x ≤ earthRadius * y := by
  have hbound : units (magnitude earthRadius) * units (magnitude 4) * 2 ^ 1074 ≤
      overflowBound * 2 ^ 2148 := by decide +kernel
  have hpos := Nat.two_pow_pos 2148
  have hr : isFinite earthRadius := by decide
  have hr0 : 0 ≤ value earthRadius := (le_iff.1 (show 0 ≤ earthRadius by decide)).2.2
  have h0 : 0 ≤ value x := (le_iff.1 hx).2.2
  have hle := (le_iff.1 hxy).2.2
  have hy4 := magnitude_le_of_le (le_trans hx hxy) hy
  have hx4 := (magnitude_le_of_le hx hxy).trans hy4
  have hmx := mul_rounds hr (isFinite_iff.2 (hx4.trans_lt (by decide)))
  have hmy := mul_rounds hr (isFinite_iff.2 (hy4.trans_lt (by decide)))
  have hprod : (value earthRadius * value x).natAbs ≤
      units (magnitude earthRadius) * units (magnitude 4) := by
    rw [Int.natAbs_mul, natAbs_value, natAbs_value]
    exact Nat.mul_le_mul_left _ (units_le_units.2 hx4)
  refine ⟨hmx.isFinite hpos ((Nat.mul_le_mul_right _ hprod).trans hbound),
    le_iff.2 ⟨rfl, hmx.isNaN, ?_⟩, le_iff.2 ⟨hmx.isNaN, hmy.isNaN, ?_⟩⟩
  · exact hmx.value_nonneg hpos (Int.mul_nonneg hr0 h0)
  · exact hmx.value_mono hmy hpos (Int.mul_nonneg hr0 h0) (Int.mul_le_mul_of_nonneg_left hle hr0)

end Operations

/-- **No overflow and no NaN on the way to the cosine of the angle.** -/
theorem centralCosine_finite {t : Trigonometry} (ht : t.Sound) {p q : Point}
    (hp : isFinite p.latitude) (hq : isFinite q.latitude)
    (hd : isFinite (p.longitude - q.longitude)) : isFinite (centralCosine t p q) := by
  have habs : isFinite (p.longitude - q.longitude).abs := by
    rw [isFinite_iff, magnitude_abs (isNaN_of_isFinite hd)]; exact isFinite_iff.1 hd
  have hsin {x : Float} (hx : isFinite x) : magnitude (t.sin (radians x)) ≤ one :=
    have h := ht.sin (isFinite_radians hx)
    magnitude_le_one h.1 h.2
  have hcos {x : Float} (hx : isFinite x) : magnitude (t.cos (radians x)) ≤ one :=
    have h := ht.cos (isFinite_radians hx)
    magnitude_le_one h.1 h.2
  exact isFinite_add (mul_le_one (hsin hp) (hsin hq))
    (mul_le_one (mul_le_one (hcos hp) (hcos hq)) (hcos habs))

/-- **A distance is finite, and lies between zero and half a turn.** -/
theorem greatCircle_bounds {t : Trigonometry} (ht : t.Sound) {p q : Point}
    (hp : isFinite p.latitude) (hq : isFinite q.latitude)
    (hd : isFinite (p.longitude - q.longitude)) :
    isFinite (greatCircle t p q) ∧ 0 ≤ greatCircle t p q ∧
      greatCircle t p q ≤ earthRadius * t.acos (-1) := by
  have hscale {x : Float} (h₁ : -1 ≤ x) (h₂ : x ≤ 1) :=
    scale_bounds (ht.acos h₁ h₂).1 (ht.acos h₁ h₂).2 ht.halfTurn
  unfold greatCircle
  split_ifs with h
  · exact ⟨by decide, by decide, (hscale (x := -1) (by decide) (by decide)).2.1⟩
  · have hc := clamp_between (isNaN_of_isFinite (centralCosine_finite ht hp hq hd))
    exact hscale hc.1 hc.2

/-- The coordinates of a point in range are at most 90 and 180. -/
theorem magnitude_le_of_inRange {p : Point} (hp : p.InRange) :
    magnitude p.latitude ≤ magnitude 90 ∧ magnitude p.longitude ≤ magnitude 180 :=
  ⟨magnitude_le_of_between (by decide) (by decide) (by decide) hp.latitude.1 hp.latitude.2,
    magnitude_le_of_between (by decide) (by decide) (by decide) hp.longitude.1 hp.longitude.2⟩

theorem inRange_of_magnitude_le {p : Point} (hlat : magnitude p.latitude ≤ magnitude 90)
    (hlon : magnitude p.longitude ≤ magnitude 180) : p.InRange :=
  ⟨between_of_magnitude_le (by decide) (by decide) (by decide) (by decide) hlat,
    between_of_magnitude_le (by decide) (by decide) (by decide) (by decide) hlon⟩

/-- NaN and the infinities are out of range. -/
theorem isFinite_of_inRange {p : Point} (hp : p.InRange) :
    isFinite p.latitude ∧ isFinite p.longitude := by
  obtain ⟨hlat, hlon⟩ := magnitude_le_of_inRange hp
  exact ⟨isFinite_iff.2 (hlat.trans_lt (by decide)), isFinite_iff.2 (hlon.trans_lt (by decide))⟩

/-- The distance of any finite point to one that is in range. -/
theorem greatCircle_inRange {t : Trigonometry} (ht : t.Sound) {p q : Point}
    (hlat : isFinite p.latitude) (hlon : isFinite p.longitude) (hq : q.InRange) :
    isFinite (greatCircle t p q) ∧ 0 ≤ greatCircle t p q ∧
      greatCircle t p q ≤ earthRadius * t.acos (-1) :=
  greatCircle_bounds ht hlat (isFinite_of_inRange hq).1
    (isFinite_sub hlon (magnitude_le_of_inRange hq).2)

end Globe

end NearestHost
