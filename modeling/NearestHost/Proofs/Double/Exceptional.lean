/-
  Results that are infinite or NaN.

  * `Rounds.isFinite_iff`: exact results from the mean of the greatest finite value and
    the next power of two on are rounded to an infinity.
  * `Rounds.abs_of_overflow`: the absolute value of such a result is the positive
    infinity.
  * `isNaN_mul`, `isNaN_add`: an operation on NaN gives NaN.
-/
import NearestHost.Proofs.Double.Arithmetic
import NearestHost.Proofs.Double.Midpoint

namespace NearestHost.Double

open Float.Model Float.Model.UnpackedFloat

/-- The positive infinity. -/
def positiveInfinity : Float := ofMagnitude false infinity

/-! ## Overflow -/

section

variable {z : Float} {v : Int} {d : Nat}

/-- **Where rounding overflows**: at the mean of the greatest finite value and the power of two
    behind it, which goes to the even word, that of infinity. -/
theorem Rounds.isFinite_iff (h : Rounds z v d) (hd : 0 < d) :
    Double.isFinite z = true ↔ 2 * (v.natAbs * 2 ^ 1074) < twiceMean (infinity - 1) * d := by
  have hlt : infinity - 1 < infinity := by decide
  have hodd : ¬ (infinity - 1) % 2 = 0 := by decide
  have hle : nearest v.natAbs d ≤ infinity - 1 ↔ _ := nearest_le_iff hd hlt
  rw [Double.isFinite_iff, h.magnitude_eq, ← Nat.le_sub_one_iff_lt (by decide), hle]
  simp only [hodd, and_false, or_false]

theorem Rounds.abs_of_overflow (h : Rounds z v d) (hz : Double.isFinite z = false) :
    z.abs = positiveInfinity := by
  have hmag : magnitude z = infinity := by
    refine le_antisymm (isNaN_eq_false.1 h.isNaN) ?_
    by_contra hlt
    rw [Double.isFinite_iff.2 (Nat.lt_of_not_le hlt)] at hz
    cases hz
  obtain ⟨habs, hsign⟩ := (reading z).abs.packed_eq hmag.le
  obtain ⟨hinf, hpos⟩ := words_ofMagnitude false (Nat.le_refl infinity)
  exact eq_of_words (habs.trans (hmag.trans hinf.symm)) (hsign.trans hpos.symm)

end

/-! ## NaN -/

variable {x y : Float}

theorem unpack_of_isNaN (h : isNaN x = true) : x.toModel.unpack = .notANumber :=
  (reading x).eq_notANumber (of_decide_eq_true h)

theorem isNaN_packed : isNaN (packed .notANumber) = true := by decide

theorem isNaN_mul (x : Float) (h : isNaN y = true) : isNaN (x * y) = true := by
  have hmul (u : UnpackedFloat) : UnpackedFloat.mul .binary64 u .notANumber = .notANumber := by
    cases u <;> rfl
  change isNaN (packed (UnpackedFloat.mul .binary64 x.toModel.unpack y.toModel.unpack)) = true
  rw [unpack_of_isNaN h, hmul, isNaN_packed]

theorem isNaN_add (x : Float) (h : isNaN y = true) : isNaN (x + y) = true := by
  have hadd (u : UnpackedFloat) : UnpackedFloat.add .binary64 u .notANumber = .notANumber := by
    cases u <;> rfl
  change isNaN (packed (UnpackedFloat.add .binary64 x.toModel.unpack y.toModel.unpack)) = true
  rw [unpack_of_isNaN h, hadd, isNaN_packed]

end NearestHost.Double
