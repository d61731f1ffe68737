/-
  The words of doubles in the order of their values.

  A word is `p * 2 ^ 52 + m` with a significand `m` below `2 ^ 53`, which is at
  least `2 ^ 52` unless `p` is zero; its value is `m * 2 ^ p` units.

  * `units_word`, `exists_word`: the value of such a word, and every word is one.
  * `units_strictMono`: a greater word has a greater value.
-/
import NearestHost.Double.Exact
import Mathlib.Order.Monotone.Basic

namespace NearestHost.Double

/-- The value of a word by its significand.  The significand `2 ^ 53`, which a rounding may give,
    belongs to the first word with the next exponent. -/
theorem units_word {p m : Nat} (hm : m ≤ 2 ^ 53) (h : 2 ^ 52 ≤ m ∨ p = 0) :
    units (p * 2 ^ 52 + m) = m * 2 ^ p := by
  rcases Nat.lt_or_ge m (2 ^ 52) with hs | hs
  · obtain rfl := h.resolve_left (by omega)
    simp only [units, Nat.zero_mul, Nat.zero_add, Nat.pow_zero, Nat.mul_one, if_pos hs]
  rcases Nat.lt_or_eq_of_le hm with hlt | rfl
  · have hd : (p * 2 ^ 52 + m) / 2 ^ 52 = p + 1 := by omega
    have hr : 2 ^ 52 + (p * 2 ^ 52 + m) % 2 ^ 52 = m := by omega
    rw [units, if_neg (by omega), hd, hr, Nat.add_sub_cancel]
  · have hd : (p * 2 ^ 52 + 2 ^ 53) / 2 ^ 52 = p + 2 := by omega
    have hr : 2 ^ 52 + (p * 2 ^ 52 + 2 ^ 53) % 2 ^ 52 = 2 ^ 52 := by omega
    have he : 2 ^ (p + 2 - 1) = 2 * 2 ^ p := by rw [Nat.add_sub_assoc (by omega), Nat.pow_succ']
    rw [units, if_neg (by omega), hd, hr, he, ← Nat.mul_assoc]

/-- Every word has an exponent and a significand. -/
theorem exists_word (b : Nat) :
    ∃ p m, b = p * 2 ^ 52 + m ∧ m < 2 ^ 53 ∧ (2 ^ 52 ≤ m ∨ p = 0) := by
  rcases Nat.lt_or_ge b (2 ^ 52) with h | h
  · exact ⟨0, b, by omega, by omega, Or.inr rfl⟩
  · exact ⟨b / 2 ^ 52 - 1, b % 2 ^ 52 + 2 ^ 52, by omega, by omega, Or.inl (by omega)⟩

/-- **A greater word has a greater value.** -/
theorem units_strictMono : StrictMono units := by
  refine strictMono_nat_of_lt_succ fun b => ?_
  obtain ⟨p, m, rfl, hm, h⟩ := exists_word b
  have hs : 2 ^ 52 ≤ m + 1 ∨ p = 0 := h.imp_left Nat.le_succ_of_le
  rw [units_word (by omega) h, Nat.add_assoc, units_word hm hs]
  exact Nat.mul_lt_mul_of_pos_right (Nat.lt_succ_self m) (Nat.two_pow_pos p)

theorem units_lt_units {a b : Nat} : units a < units b ↔ a < b := units_strictMono.lt_iff_lt

theorem units_le_units {a b : Nat} : units a ≤ units b ↔ a ≤ b := units_strictMono.le_iff_le

@[simp] theorem units_zero : units 0 = 0 := rfl

theorem units_pos {b : Nat} : 0 < units b ↔ 0 < b := by
  simpa only [units_zero] using units_lt_units (a := 0) (b := b)

end NearestHost.Double
