/-
  Decimals as ratios.

  * `nearest_eq`: the nearest word of a decimal is that of its exact value.
  * `nearest_rescale`, `nearest_mono`: so it depends on the value alone, and a
    greater decimal has no smaller word.
-/
import NearestHost.Decimal.Basic
import NearestHost.Proofs.Double.Arithmetic
import NearestHost.Proofs.Double.Midpoint

namespace NearestHost.Decimal

open Double

theorem ten_pow_pos (n : Nat) : 0 < 10 ^ n := Nat.pow_pos (by decide)

/-- The bound on the digits of a number. -/
theorem lt_pow_digitBound (n : Nat) : n < 10 ^ digitBound n :=
  calc n < 2 ^ (n.log2 + 1) := Nat.lt_log2_self
    _ ≤ 2 ^ (3 * digitBound n) := Nat.pow_le_pow_right (by decide) (by unfold digitBound; omega)
    _ = 8 ^ digitBound n := by rw [Nat.pow_mul]
    _ ≤ 10 ^ digitBound n := Nat.pow_le_pow_left (by decide) _

/-! ## Far outside the range -/

theorem units_infinity : units infinity = 2 ^ 1024 * 2 ^ 1074 := by
  have h := units_word (p := 2046) (m := 2 ^ 52) (by decide) (Or.inl le_rfl)
  have he := two_pow_eq_mul (a := 52) (b := 2046) (c := 2098) rfl
  have he' := two_pow_eq_mul (a := 1024) (b := 1074) (c := 2098) rfl
  exact h.trans (he.symm.trans he')

/-- A decimal from `10 ^ 310` on is beyond all finite doubles. -/
theorem nearest_of_large {s e : Nat} (hs : 0 < s) (he : 310 ≤ e) :
    Double.nearest (s * 10 ^ e) 1 = infinity := by
  refine le_antisymm (nearest_le_infinity _ _) (le_nearest Nat.one_pos le_rfl ?_)
  have hten : 2 ^ 1024 ≤ 10 ^ 310 := by decide +kernel
  have hle := Nat.pow_le_pow_right (n := 10) (by decide) he
  have hpow : 2 ^ 1024 ≤ 10 ^ e := hten.trans hle
  have hinf := units_infinity
  generalize 2 ^ 1024 = r at hpow hinf
  generalize 2 ^ 1074 = u at hinf ⊢
  rw [hinf, Nat.mul_one]
  exact Nat.mul_le_mul_right _ (hpow.trans (Nat.le_mul_of_pos_left _ hs))

/-- A decimal below `10 ^ -324` is nearer to zero than to any other double. -/
theorem nearest_of_small {s e : Nat} (he : digitBound s + 324 ≤ e) :
    Double.nearest s (10 ^ e) = 0 := by
  have hpos := ten_pow_pos e
  refine Nat.le_zero.1 ((nearest_le_iff hpos (by decide)).2 (Or.inl ?_))
  have hmid : twiceMean 0 = 1 := rfl
  have htwo : 2 * 2 ^ 1074 ≤ 10 ^ 324 := by decide +kernel
  rw [hmid, Nat.one_mul]
  generalize 2 ^ 1074 = r at htwo ⊢
  calc 2 * (s * r) = s * (2 * r) := by ring
    _ ≤ s * 10 ^ 324 := Nat.mul_le_mul_left s htwo
    _ < 10 ^ digitBound s * 10 ^ 324 :=
        Nat.mul_lt_mul_of_pos_right (lt_pow_digitBound s) (ten_pow_pos 324)
    _ = 10 ^ (digitBound s + 324) := (Nat.pow_add 10 _ 324).symm
    _ ≤ 10 ^ e := Nat.pow_le_pow_right (by decide) he

/-! ## All decimals -/

/-- **The nearest word of a decimal is that of its exact value.** -/
theorem nearest_eq (d : Decimal) : d.nearest =
    Double.nearest (d.significand * 10 ^ d.exponent.toNat) (10 ^ (-d.exponent).toNat) := by
  unfold nearest
  split_ifs with hs he hlarge hsmall
  · rw [hs, Nat.zero_mul, nearest_zero (ten_pow_pos _)]
  · have hneg : (-d.exponent).toNat = 0 := by omega
    rw [hneg, Nat.pow_zero, nearest_of_large (Nat.pos_of_ne_zero hs) (by omega)]
  · have hneg : (-d.exponent).toNat = 0 := by omega
    rw [hneg, Nat.pow_zero]
  · have hpos : d.exponent.toNat = 0 := by omega
    rw [hpos, Nat.pow_zero, Nat.mul_one, nearest_of_small hsmall]
  · have hpos : d.exponent.toNat = 0 := by omega
    rw [hpos, Nat.pow_zero, Nat.mul_one]

/-- Zeros behind the significand do not matter. -/
theorem nearest_rescale (s n : Nat) (e : Int) :
    (Decimal.mk (s * 10 ^ n) e).nearest = (Decimal.mk s (e + n)).nearest := by
  rw [nearest_eq, nearest_eq]
  refine nearest_congr (ten_pow_pos _) (ten_pow_pos _) ?_
  simp only [Nat.mul_assoc, ← Nat.pow_add]
  congr 2
  omega

/-- **A greater decimal has no smaller word.** -/
theorem nearest_mono {s s' : Nat} (h : s ≤ s') (e : Int) :
    (Decimal.mk s e).nearest ≤ (Decimal.mk s' e).nearest := by
  rw [nearest_eq, nearest_eq]
  refine Double.nearest_mono (ten_pow_pos _) (ten_pow_pos _) ?_
  exact Nat.mul_le_mul_right _ (Nat.mul_le_mul_right _ h)

/-- A whole number as a decimal. -/
theorem nearest_natural (s : Nat) : (Decimal.mk s 0).nearest = Double.nearest s 1 := by
  have hmul : s * 10 ^ 0 = s := Nat.mul_one s
  rw [nearest_eq]
  exact congrArg (Double.nearest · 1) hmul

theorem nearest_zero_significand (e : Int) : (Decimal.mk 0 e).nearest = 0 := if_pos rfl

end NearestHost.Decimal
