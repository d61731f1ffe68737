/-
  Years and the instants that can be shown.

  * `yearOf_spec`: the year of a day starts at this day or before, and ends
    after it.
  * `showable_iff`: the instants that can be shown lie between two fixed ones.
-/
import NearestHost.Calendar.Instant
import Mathlib.Tactic.Linarith

namespace NearestHost

namespace Calendar

theorem daysBeforeYear_mono {y z : Int} (h : y ≤ z) : daysBeforeYear y ≤ daysBeforeYear z := by
  unfold daysBeforeYear; omega

/-- **The year of a day.** -/
theorem yearOf_spec (d : Int) :
    daysBeforeYear (Date.yearOf d) ≤ d ∧ d < daysBeforeYear (Date.yearOf d + 1) := by
  unfold Date.yearOf
  dsimp only
  split_ifs with h₁ h₂
  · refine ⟨?_, by rw [Int.sub_add_cancel]; exact h₁⟩
    unfold daysBeforeYear at *; omega
  · refine ⟨h₂, ?_⟩
    unfold daysBeforeYear at *; omega
  · exact ⟨Int.not_lt.1 h₁, Int.not_le.1 h₂⟩

theorem yearOf_le_iff {d y : Int} : Date.yearOf d ≤ y ↔ d < daysBeforeYear (y + 1) := by
  obtain ⟨hlo, hhi⟩ := yearOf_spec d
  constructor
  · intro h
    exact hhi.trans_le (daysBeforeYear_mono (by omega))
  · intro h
    by_contra hlt
    have := daysBeforeYear_mono (show y + 1 ≤ Date.yearOf d by omega)
    omega

theorem le_yearOf_iff {d y : Int} : y ≤ Date.yearOf d ↔ daysBeforeYear y ≤ d := by
  have h := yearOf_le_iff (d := d) (y := y - 1)
  rw [Int.sub_add_cancel] at h
  omega

end Calendar

namespace Instant

open Calendar

/-- The start of the year 10000 in UTC, the first instant that is too late to be shown. -/
def tooLate : Instant := DateTime.instant ⟨⟨10000, 1, 1⟩, 0, 0, 0, 0, 0⟩

/-- The start of the year -9999 in UTC, the first instant that can be shown. -/
def firstShown : Instant := DateTime.instant ⟨⟨-9999, 1, 1⟩, 0, 0, 0, 0, 0⟩

theorem utcDate_year (t : Instant) : t.utcDate.year = Date.yearOf (t.utcDay + epochDay) := rfl

/-- **An instant can be shown** from the year -9999 to the year 9999. -/
theorem showable_iff (t : Instant) : showable t.utcDate.year = true ↔
    firstShown.seconds ≤ t.seconds ∧ t.seconds < tooLate.seconds := by
  have hfirst : firstShown.seconds = (daysBeforeYear (-9999) - epochDay) * 86400 := by decide
  have hlate : tooLate.seconds = (daysBeforeYear (9999 + 1) - epochDay) * 86400 := by decide
  rw [showable, Bool.and_eq_true, decide_eq_true_iff, decide_eq_true_iff, utcDate_year,
    le_yearOf_iff, yearOf_le_iff, hfirst, hlate, utcDay]
  omega

theorem text_eq_none_iff (t : Instant) : t.text? = none ↔
    t.seconds < firstShown.seconds ∨ tooLate.seconds ≤ t.seconds := by
  have h := showable_iff t
  unfold text?
  split_ifs with hs
  · have := h.1 hs
    simp only [false_iff]; omega
  · simp only [true_iff]
    rw [h] at hs; omega

end Instant

end NearestHost
