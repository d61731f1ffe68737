/-
  How long the shortest decimal of a word is.

  * `exists_near`: every number is at most half a step away from a point of a grid.
  * `Coarsest.le_step`, `Coarsest.not_fine`: so the next coarser grid, on which no
    point reads back, has steps that are not small against the word.
  * `Coarsest.significand_lt`, `Coarsest.le_exponent`: a shortest decimal has at most
    17 digits, and the last of them at the 324th place at most.
  * `leadingExponent_shortest_le`: its first digit is at the 326th place before the
    point at most.
-/
import NearestHost.Proofs.Decimal.Shortest
import NearestHost.Proofs.Double.Error

namespace NearestHost.Decimal

open Double

variable {b : Nat} {d : Decimal}

/-- Every number is at most half a step away from a point of a grid. -/
theorem exists_near (x : Nat) {step : Nat} (hstep : 0 < step) :
    ∃ i, 2 * (i * step) ≤ 2 * x + step ∧ 2 * x ≤ 2 * (i * step) + step := by
  have htwo : 0 < 2 * step := Nat.mul_pos Nat.two_pos hstep
  refine ⟨(2 * x + step) / (2 * step), ?_, ?_⟩
  · have hle := Nat.div_mul_le_self (2 * x + step) (2 * step)
    rwa [Nat.mul_left_comm] at hle
  · have hlt := Nat.lt_mul_div_succ (2 * x + step) htwo
    rw [Nat.mul_add, Nat.mul_one, Nat.mul_right_comm, Nat.mul_assoc] at hlt
    omega

/-- The value of a decimal in units is this, over the power of ten below its point. -/
theorem nearest_mk (i : Nat) (e : Int) : (Decimal.mk i e).nearest =
    Double.nearest (i * 10 ^ e.toNat) (10 ^ (-e).toNat) := nearest_eq _

namespace Coarsest

/-- On a grid where no point reads back, a step is at least one part in `2 ^ 53` of the word. -/
theorem le_step (h : Coarsest b d) (hpos : 0 < b) (hb : b < infinity) :
    units b * 10 ^ (-(d.exponent + 1)).toNat ≤
      2 ^ 53 * (10 ^ (d.exponent + 1).toNat * 2 ^ 1074) := by
  by_contra hlt
  have hden := ten_pow_pos (-(d.exponent + 1)).toNat
  have hstep := Nat.mul_pos (ten_pow_pos (d.exponent + 1).toNat) (Nat.two_pow_pos 1074)
  obtain ⟨i, hlo, hhi⟩ := exists_near (units b * 10 ^ (-(d.exponent + 1)).toNat) hstep
  refine h.maximal i ((nearest_mk i _).trans (nearest_eq_of_near hden hpos hb ?_ ?_))
  all_goals
    rw [Nat.mul_assoc]
    generalize 10 ^ (d.exponent + 1).toNat * 2 ^ 1074 = step at *
    generalize i * step = x at *
    generalize units b * 10 ^ (-(d.exponent + 1)).toNat = y at *
    omega

/-- **A shortest decimal has at most 17 digits.** -/
theorem significand_lt (h : Coarsest b d) (hpos : 0 < b) (hb : b < infinity) :
    d.significand < 10 ^ 17 := by
  by_contra hle
  have hscale : (Decimal.mk (10 ^ 16) (d.exponent + 1)).nearest =
      (Decimal.mk (10 ^ 17) d.exponent).nearest := (nearest_rescale (10 ^ 16) 1 d.exponent).symm
  -- a power of ten lies between the word and the decimal, on the next coarser grid
  refine h.maximal (10 ^ 16) (le_antisymm ?_ ?_)
  · rw [hscale, ← h.nearest_eq]
    exact nearest_mono (Nat.not_lt.1 hle) d.exponent
  · rw [nearest_mk]
    refine le_nearest (ten_pow_pos _) hb.le ((h.le_step hpos hb).trans ?_)
    rw [Nat.mul_assoc]
    exact Nat.mul_le_mul_right _ (by decide)

/-- On a grid where no point reads back, a step is not smaller than the least word. -/
theorem not_fine (h : Coarsest b d) (hpos : 0 < b) (hb : b < infinity) :
    10 ^ (-(d.exponent + 1)).toNat ≤ 10 ^ (d.exponent + 1).toNat * 2 ^ 1074 := by
  by_contra hlt
  have hden := ten_pow_pos (-(d.exponent + 1)).toNat
  have hstep := Nat.mul_pos (ten_pow_pos (d.exponent + 1).toNat) (Nat.two_pow_pos 1074)
  obtain ⟨i, hlo, hhi⟩ := exists_near (units b * 10 ^ (-(d.exponent + 1)).toNat) hstep
  refine h.maximal i ((nearest_mk i _).trans ((nearest_eq_iff hden hpos hb).2 (Or.inl ?_)))
  obtain ⟨c, rfl⟩ : ∃ c, b = c + 1 := ⟨b - 1, by omega⟩
  have hbelow := Nat.mul_le_mul_right (10 ^ (-(d.exponent + 1)).toNat)
    (units_lt_units.2 (Nat.lt_add_one c))
  have habove := Nat.mul_le_mul_right (10 ^ (-(d.exponent + 1)).toNat)
    (units_lt_units.2 (Nat.lt_add_one (c + 1)))
  rw [Nat.add_sub_cancel, Nat.mul_assoc]
  simp only [twiceMean, Nat.succ_mul, Nat.add_mul] at hbelow habove ⊢
  generalize 10 ^ (d.exponent + 1).toNat * 2 ^ 1074 = step at *
  generalize i * step = x at *
  constructor <;> omega

/-- **The last digit of a shortest decimal** stands at the 324th place at most. -/
theorem le_exponent (h : Coarsest b d) (hpos : 0 < b) (hb : b < infinity) :
    -324 ≤ d.exponent := by
  by_contra hlt
  have htwo : 2 ^ 1074 < 10 ^ 324 := by decide +kernel
  have hnot := h.not_fine hpos hb
  have hwhole : (d.exponent + 1).toNat = 0 := by omega
  have hplaces := Nat.pow_le_pow_right (n := 10) (by decide)
    (show 324 ≤ (-(d.exponent + 1)).toNat by omega)
  generalize 2 ^ 1074 = u at htwo hnot
  rw [hwhole, Nat.pow_zero, Nat.one_mul] at hnot
  exact Nat.lt_irrefl _ (htwo.trans_le (hplaces.trans hnot))

theorem significand_pos (h : Coarsest b d) (hpos : 0 < b) : 0 < d.significand := by
  by_contra hzero
  obtain ⟨s, e⟩ := d
  obtain rfl : s = 0 := Nat.eq_zero_of_not_pos hzero
  have hnearest := h.nearest_eq
  rw [nearest_zero_significand] at hnearest
  omega

theorem exponent_lt (h : Coarsest b d) (hpos : 0 < b) (hb : b < infinity) : d.exponent < 310 := by
  by_contra hle
  have hplaces : (-d.exponent).toNat = 0 := by omega
  have hlarge := nearest_of_large (h.significand_pos hpos) (show 310 ≤ d.exponent.toNat by omega)
  have hnearest := (Decimal.nearest_eq d).symm.trans h.nearest_eq
  rw [hplaces, Nat.pow_zero, hlarge] at hnearest
  exact hb.ne' hnearest

end Coarsest

/-- The power of ten of the first digit of a shortest decimal is bounded. -/
theorem leadingExponent_shortest_le (hb : b < infinity) (tie : Tie) :
    (shortest tie b).leadingExponent ≤ 325 := by
  rcases Nat.eq_zero_or_pos b with rfl | hpos
  · rw [shortest, if_pos rfl]
    decide
  · have h := shortest_coarsest hpos hb tie
    have hexponent := h.exponent_lt hpos hb
    have hlength : (shortest tie b).digits.length ≤ 17 :=
      (Nat.length_toDigits_le_iff (by decide) (by decide)).2 (h.significand_lt hpos hb)
    rw [leadingExponent]
    omega

end NearestHost.Decimal
