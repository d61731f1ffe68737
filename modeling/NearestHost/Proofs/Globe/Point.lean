/-
  The check of a point.

  * `Point.InRange`, `Point.Violates`: the ranges of the coordinates, and which
    of them a point is out of; the latitude is reported first.
  * `Point.check_of_inRange`, `Point.check_of_violates`: the check tells these
    apart.
-/
import NearestHost.Globe.Point

namespace NearestHost

namespace Point

/-- The coordinates of places on the globe. -/
structure InRange (p : Point) : Prop where
  latitude : -90 ≤ p.latitude ∧ p.latitude ≤ 90
  longitude : -180 ≤ p.longitude ∧ p.longitude ≤ 180

/-- What is wrong with a point.  A longitude counts where the latitude is in range. -/
inductive Violates (p : Point) : OutOfRange → Prop
  | latitude (h : ¬ (-90 ≤ p.latitude ∧ p.latitude ≤ 90)) : Violates p (.latitude p.latitude)
  | longitude (h : -90 ≤ p.latitude ∧ p.latitude ≤ 90)
      (h' : ¬ (-180 ≤ p.longitude ∧ p.longitude ≤ 180)) : Violates p (.longitude p.longitude)

variable {p : Point}

theorem within_iff {least greatest x : Float} :
    within least greatest x = true ↔ least ≤ x ∧ x ≤ greatest := by
  rw [within, Bool.and_eq_true, decide_eq_true_iff, decide_eq_true_iff]

theorem within_eq_false {least greatest x : Float} (h : ¬ (least ≤ x ∧ x ≤ greatest)) :
    within least greatest x = false :=
  Bool.eq_false_iff.2 fun ht => h (within_iff.1 ht)

theorem check_of_inRange (h : p.InRange) : p.check = .ok () := by
  rw [check, within_iff.2 h.latitude, within_iff.2 h.longitude]; rfl

theorem check_of_violates {cause : OutOfRange} (h : p.Violates cause) : p.check = .error cause := by
  cases h with
  | latitude h =>
    rw [check, within_eq_false h]; rfl
  | longitude h h' =>
    rw [check, within_iff.2 h, within_eq_false h']; rfl

/-- A point is in range, or something is wrong with it. -/
theorem inRange_or_violates (p : Point) : p.InRange ∨ ∃ cause, p.Violates cause := by
  by_cases h : -90 ≤ p.latitude ∧ p.latitude ≤ 90
  · by_cases h' : -180 ≤ p.longitude ∧ p.longitude ≤ 180
    · exact Or.inl ⟨h, h'⟩
    · exact Or.inr ⟨_, .longitude h h'⟩
  · exact Or.inr ⟨_, .latitude h⟩

end Point

end NearestHost
