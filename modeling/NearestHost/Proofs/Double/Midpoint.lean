/-
  The ratios that are rounded to a word.

  Between the values of a word and of the next one, rounding changes at their
  mean, which itself goes to the even word.

  * `roundHalfEven_between`, `nearest_between`: what is rounded to which of two
    neighbours.
  * `nearest_le_iff`: which ratios are rounded to at most a word.
  * `nearest_eq_iff`: so a word has an interval around its value.
-/
import NearestHost.Proofs.Double.Rounding

namespace NearestHost.Double

/-- Twice the mean of the values of a word and the next one. -/
def twiceMean (b : Nat) : Nat := units b + units (b + 1)

variable {num den b : Nat}

/-- A ratio between two whole numbers that follow each other. -/
theorem roundHalfEven_between {a d m : Nat} (hlo : m * d ≤ a) (hhi : a < (m + 1) * d) :
    roundHalfEven a d =
      if 2 * a < (2 * m + 1) * d ∨ (2 * a = (2 * m + 1) * d ∧ m % 2 = 0) then m else m + 1 := by
  obtain ⟨r, rfl⟩ := Nat.exists_eq_add_of_le hlo
  have hr : r < d := by rw [Nat.succ_mul] at hhi; omega
  have hdiv : (m * d + r) / d = m := by
    rw [Nat.mul_comm, Nat.mul_add_div (Nat.zero_lt_of_lt hr), Nat.div_eq_of_lt hr, Nat.add_zero]
  have hmod : (m * d + r) % d = r := by
    rw [Nat.mul_comm, Nat.mul_add_mod, Nat.mod_eq_of_lt hr]
  have hmean : (2 * m + 1) * d = 2 * (m * d) + d := by ring
  have hlow : 2 * (m * d + r) < 2 * (m * d) + d ↔ 2 * r < d := by omega
  have htie : 2 * (m * d + r) = 2 * (m * d) + d ↔ 2 * r = d := by omega
  simp only [roundHalfEven, hdiv, hmod, hmean, hlow, htie]

/-- A ratio between the values of two words that follow each other. -/
theorem nearest_between (hd : 0 < den) (hb : b < infinity) (hlo : units b * den ≤ num * 2 ^ 1074)
    (hhi : num * 2 ^ 1074 < units (b + 1) * den) : nearest num den =
      if 2 * (num * 2 ^ 1074) < twiceMean b * den ∨
        (2 * (num * 2 ^ 1074) = twiceMean b * den ∧ b % 2 = 0) then b else b + 1 := by
  obtain ⟨p, m, rfl, hm, h⟩ := exists_word b
  have hnext : units (p * 2 ^ 52 + m + 1) = (m + 1) * 2 ^ p := by
    rw [Nat.add_assoc, units_word hm (h.imp_left Nat.le_succ_of_le)]
  rw [twiceMean, hnext, units_word hm.le h]
  rw [units_word hm.le h] at hlo
  rw [hnext] at hhi
  clear hnext
  unfold nearest
  generalize num * 2 ^ 1074 = a at *
  have hp : excessBits (a / den) = p := by
    refine excessBits_eq ?_ (h.imp_left fun h => ?_)
    · rw [Nat.div_lt_iff_lt_mul hd, Nat.pow_add]
      exact hhi.trans_le (Nat.mul_le_mul_right _ (Nat.mul_le_mul_right _ hm))
    · rw [Nat.le_div_iff_mul_le hd, Nat.pow_add]
      exact (Nat.mul_le_mul_right _ (Nat.mul_le_mul_right _ h)).trans hlo
  have hscale (k : Nat) : k * (den * 2 ^ p) = k * 2 ^ p * den := by ring
  have hmean : (2 * m + 1) * (den * 2 ^ p) = (m * 2 ^ p + (m + 1) * 2 ^ p) * den := by ring
  have heven : (p * 2 ^ 52 + m) % 2 = m % 2 := by omega
  rw [← hscale] at hlo hhi
  simp only [hp, roundHalfEven_between hlo hhi, hmean, heven]
  split_ifs
  · exact min_eq_right hb.le
  · rw [← Nat.add_assoc]
    exact min_eq_right (Nat.succ_le_of_lt hb)

/-- **A ratio is rounded to at most a word** if it is below the mean with the next value, or at the
    mean and the word is even. -/
theorem nearest_le_iff (hd : 0 < den) (hb : b < infinity) : nearest num den ≤ b ↔
    2 * (num * 2 ^ 1074) < twiceMean b * den ∨
      (2 * (num * 2 ^ 1074) = twiceMean b * den ∧ b % 2 = 0) := by
  have hmid : 2 * units b < twiceMean b ∧ twiceMean b < 2 * units (b + 1) := by
    have := units_lt_units.2 (Nat.lt_add_one b)
    unfold twiceMean
    omega
  rcases Nat.lt_or_ge (num * 2 ^ 1074) (units b * den) with hlo | hlo
  · refine iff_of_true (nearest_le hd hb.le hlo.le) (Or.inl ?_)
    generalize num * 2 ^ 1074 = a at *
    nlinarith [Nat.mul_le_mul_right den hmid.1.le]
  rcases Nat.lt_or_ge (num * 2 ^ 1074) (units (b + 1) * den) with hhi | hhi
  · rw [nearest_between hd hb hlo hhi]
    split
    · rename_i h
      exact iff_of_true le_rfl h
    · rename_i h
      exact iff_of_false (Nat.not_succ_le_self b) h
  · have hgt : twiceMean b * den < 2 * (num * 2 ^ 1074) := by
      generalize num * 2 ^ 1074 = a at *
      nlinarith [Nat.mul_lt_mul_of_pos_right hmid.2 hd]
    refine iff_of_false (Nat.not_le.2 (le_nearest hd hb hhi)) ?_
    omega

/-- **The ratios that are rounded to a word** lie between the means with its neighbours, which
    belong to an even word. -/
theorem nearest_eq_iff (hd : 0 < den) (hpos : 0 < b) (hb : b < infinity) : nearest num den = b ↔
    (twiceMean (b - 1) * den < 2 * (num * 2 ^ 1074) ∧ 2 * (num * 2 ^ 1074) < twiceMean b * den) ∨
      b % 2 = 0 ∧ (2 * (num * 2 ^ 1074) = twiceMean (b - 1) * den ∨
        2 * (num * 2 ^ 1074) = twiceMean b * den) := by
  have hle : nearest num den ≤ b ↔ _ := nearest_le_iff hd hb
  have hlt : nearest num den ≤ b - 1 ↔ _ := nearest_le_iff hd (by omega)
  have hmid : twiceMean (b - 1) * den < twiceMean b * den := by
    refine Nat.mul_lt_mul_of_pos_right ?_ hd
    have hlo := units_lt_units.2 (show b - 1 < b by omega)
    have hhi := units_lt_units.2 (Nat.lt_add_one b)
    rw [twiceMean, twiceMean, Nat.sub_add_cancel hpos]
    omega
  have heq : nearest num den = b ↔ nearest num den ≤ b ∧ ¬ nearest num den ≤ b - 1 := by omega
  have hodd : (b - 1) % 2 = 0 ↔ ¬ b % 2 = 0 := by omega
  rw [heq, hle, hlt, hodd]
  generalize 2 * (num * 2 ^ 1074) = a
  omega

end NearestHost.Double
