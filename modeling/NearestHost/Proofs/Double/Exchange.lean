/-
  Operands in the other order.

  * `mul_swap`: a product is the same double.
  * `abs_sub_swap`: a difference is the same up to its sign, so its absolute value is
    the same double.
  * `beq_swap`: the comparison of two doubles is the same.
-/
import NearestHost.Proofs.Double.Arithmetic

namespace NearestHost.Double

open Float.Model Float.Model.UnpackedFloat

/-! ## Products -/

theorem sign_mul_swap (s t : Sign) : s * t = t * s := by cases s <;> cases t <;> rfl

theorem unpacked_mul_swap (u v : UnpackedFloat) :
    UnpackedFloat.mul .binary64 u v = UnpackedFloat.mul .binary64 v u := by
  cases u <;> cases v
  case finite.finite s m e hm t n f hn =>
    change roundWithAccuracy .binary64 (s * t) (m * n) (e + f) .exact = _
    rw [sign_mul_swap s t, Nat.mul_comm m n, Int.add_comm e f]
    rfl
  case infinity.infinity s t => exact congrArg UnpackedFloat.infinity (sign_mul_swap s t)
  case infinity.finite s t n f hn => exact congrArg UnpackedFloat.infinity (sign_mul_swap s t)
  case finite.infinity s m e hm t => exact congrArg UnpackedFloat.infinity (sign_mul_swap s t)
  case zero.zero s t => exact congrArg UnpackedFloat.zero (sign_mul_swap s t)
  case zero.finite s t n f hn => exact congrArg UnpackedFloat.zero (sign_mul_swap s t)
  case finite.zero s m e hm t => exact congrArg UnpackedFloat.zero (sign_mul_swap s t)
  -- infinity times zero, and NaN
  all_goals rfl

/-- **A product does not depend on the order of its factors.** -/
theorem mul_swap (x y : Float) : x * y = y * x :=
  congrArg packed (unpacked_mul_swap x.toModel.unpack y.toModel.unpack)

/-! ## Differences -/

section

variable {s t : Bool} {a b : Nat} {u v : UnpackedFloat}

theorem magnitude_packed_infinity (s : Sign) : magnitude (packed (.infinity s)) = infinity := by
  cases s
  · exact (packed_infinity true).1
  · exact (packed_infinity false).1

/-- A difference from or to an infinity is an infinity or NaN in either order. -/
theorem Reading.magnitude_sub_swap (hu : Reading s a u) (hv : Reading t b v)
    (h : infinity ≤ a ∨ infinity ≤ b) :
    magnitude (packed (UnpackedFloat.sub .binary64 u v)) =
      magnitude (packed (UnpackedFloat.sub .binary64 v u)) := by
  have hinf (s t : Sign) : magnitude (packed (.infinity s)) = magnitude (packed (.infinity t)) :=
    (magnitude_packed_infinity s).trans (magnitude_packed_infinity t).symm
  have hpos : 0 < infinity := by decide
  cases hu with
  | nan => cases hv <;> rfl
  | infinite =>
    cases hv with
    | nan => rfl
    | infinite => cases s <;> cases t <;> decide
    | zero => exact hinf _ _
    | finite => exact hinf _ _
  | zero =>
    cases hv with
    | nan => rfl
    | infinite => exact hinf _ _
    | zero => omega
    | finite => omega
  | finite =>
    cases hv with
    | nan => rfl
    | infinite => exact hinf _ _
    | zero => omega
    | finite => omega

end

variable {x y : Float}

/-- A difference has one magnitude in both orders. -/
theorem magnitude_sub_swap (x y : Float) : magnitude (x - y) = magnitude (y - x) := by
  by_cases h : isFinite x = true ∧ isFinite y = true
  · rw [(sub_rounds h.1 h.2).magnitude_eq, (sub_rounds h.2 h.1).magnitude_eq, ← Int.natAbs_neg,
      Int.neg_sub]
  · rw [isFinite_iff, isFinite_iff] at h
    exact (reading x).magnitude_sub_swap (reading y) (by omega)

theorem abs_eq_of_magnitude (h : magnitude x = magnitude y) : x.abs = y.abs := by
  rcases Nat.lt_or_ge infinity (magnitude x) with hx | hx
  · have hux := (reading x).eq_notANumber hx
    have huy := (reading y).eq_notANumber (h ▸ hx)
    exact congrArg (fun u => packed u.abs) (hux.trans huy.symm)
  · have hax := (reading x).abs.packed_eq hx
    have hay := (reading y).abs.packed_eq (h ▸ hx)
    exact eq_of_words (hax.1.trans (h.trans hay.1.symm)) (hax.2.trans hay.2.symm)

/-- **The absolute value of a difference** does not depend on its order. -/
theorem abs_sub_swap (x y : Float) : (x - y).abs = (y - x).abs :=
  abs_eq_of_magnitude (magnitude_sub_swap x y)

/-! ## Comparison -/

theorem beq_swap (x y : Float) : (x == y) = (y == x) := by
  rw [Bool.eq_iff_iff, beq_iff, beq_iff]
  constructor
  · rintro ⟨hx, hy, hxy⟩
    exact ⟨hy, hx, hxy.symm⟩
  · rintro ⟨hy, hx, hyx⟩
    exact ⟨hx, hy, hyx.symm⟩

end NearestHost.Double
