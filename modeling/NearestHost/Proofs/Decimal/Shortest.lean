/-
  The shortest decimal of a word.

  * `readsBack_iff`: the numbers that read back as a word are those that are
    rounded to it.
  * `Coarsest`: a decimal that reads back as a word, where none on a coarser
    grid does.
  * `shortest_coarsest`: the shortest decimal is one of these.
  * `Coarsest.digits_length_le`: so every decimal that reads back has as many
    digits.
-/
import NearestHost.Decimal.Written
import NearestHost.Proofs.Decimal.Value

namespace NearestHost.Decimal

open Double

/-- A decimal that reads back as a word, where no decimal on the next coarser grid does. -/
structure Coarsest (b : Nat) (d : Decimal) : Prop where
  nearest_eq : d.nearest = b
  maximal : ∀ i, (Decimal.mk i (d.exponent + 1)).nearest ≠ b

/-! ## Grids -/

theorem ten_pow_eq (n : Nat) : 10 ^ n = 2 ^ n * 5 ^ n := Nat.mul_pow 2 5 n

theorem five_pow_pos (n : Nat) : 0 < 5 ^ n := Nat.pow_pos (by decide)

theorem two_mul_ten_pow_pos (n : Nat) : 0 < 2 * 10 ^ n := Nat.mul_pos Nat.two_pos (ten_pow_pos n)

/-- The points of a grid are decimals. -/
theorem nearest_grid (j g s : Nat) :
    Double.nearest (j * (2 * 10 ^ g)) (2 * 10 ^ s) = (Decimal.mk j ((g : Int) - s)).nearest := by
  rw [Decimal.nearest_eq]
  refine nearest_congr (two_mul_ten_pow_pos s) (ten_pow_pos _) ?_
  have hexp : g + (-((g : Int) - s)).toNat = ((g : Int) - s).toNat + s := by omega
  calc j * (2 * 10 ^ g) * 10 ^ (-((g : Int) - s)).toNat
      = 2 * j * 10 ^ (g + (-((g : Int) - s)).toNat) := by rw [Nat.pow_add]; ring
    _ = j * 10 ^ ((g : Int) - s).toNat * (2 * 10 ^ s) := by rw [hexp, Nat.pow_add]; ring

section

variable {b : Nat}

/-- The numbers that read back as a word are those that are rounded to it. -/
theorem readsBack_iff (hpos : 0 < b) (hb : b < infinity) (x : Nat) :
    readsBack b x = true ↔ Double.nearest x (2 * 10 ^ 1074) = b := by
  have hlower : twiceMean (b - 1) = units (b - 1) + units b := by
    rw [twiceMean, Nat.sub_add_cancel hpos]
  have hu := Nat.two_pow_pos 1074
  rw [nearest_eq_iff (two_mul_ten_pow_pos 1074) hpos hb, hlower]
  unfold readsBack twiceMean
  rw [ten_pow_eq 1074]
  generalize 2 ^ 1074 = u at hu ⊢
  generalize 5 ^ 1074 = v
  have hscale (m : Nat) : m * (2 * (u * v)) = 2 * u * (m * v) := by ring
  have hx : 2 * (x * u) = 2 * u * x := by ring
  have h2u : 0 < 2 * u := Nat.mul_pos Nat.two_pos hu
  simp only [hscale, hx, Nat.mul_lt_mul_left h2u, Nat.mul_right_inj h2u.ne', Bool.or_eq_true,
    Bool.and_eq_true, decide_eq_true_eq, beq_iff_eq]

theorem readsBack_grid (hpos : 0 < b) (hb : b < infinity) (j g : Nat) :
    readsBack b (j * (2 * 10 ^ g)) = true ↔ (Decimal.mk j ((g : Int) - 1074)).nearest = b := by
  rw [readsBack_iff hpos hb, nearest_grid j g 1074]
  exact Iff.rfl

/-- The double itself reads back. -/
theorem nearest_scaled (hb : b < infinity) : Double.nearest (scaled b) (2 * 10 ^ 1074) = b := by
  refine (nearest_congr (two_mul_ten_pow_pos 1074) (Nat.two_pow_pos 1074) ?_).trans
    (nearest_units hb.le)
  rw [scaled, ten_pow_eq 1074]
  generalize 2 ^ 1074 = u
  generalize 5 ^ 1074 = v
  ring

/-- What lies between two numbers that read back does so too. -/
theorem nearest_convex {x y z : Nat} (hx : Double.nearest x (2 * 10 ^ 1074) = b)
    (hz : Double.nearest z (2 * 10 ^ 1074) = b) (hxy : x ≤ y) (hyz : y ≤ z) :
    Double.nearest y (2 * 10 ^ 1074) = b := by
  have hden := two_mul_ten_pow_pos 1074
  refine le_antisymm ?_ ?_
  · exact hz ▸ Double.nearest_mono hden hden (Nat.mul_le_mul_right _ hyz)
  · exact hx ▸ Double.nearest_mono hden hden (Nat.mul_le_mul_right _ hxy)

section

variable {tie : Tie} {j above step : Nat} {low high : Bool}

theorem choose_eq_some {i : Nat} (h : tie.choose j above step low high = some i) :
    (i = j ∧ low = true) ∨ (i = j + 1 ∧ high = true) := by
  unfold Tie.choose at h
  cases low <;> cases high <;> cases tie <;> simp only at h <;> grind

theorem choose_eq_none (h : tie.choose j above step low high = none) :
    low = false ∧ high = false := by
  unfold Tie.choose at h
  cases low <;> cases high <;> cases tie <;> simp only at h <;> grind

end

/-- What a grid gives reads back. -/
theorem readsBack_of_onGrid {tie : Tie} {g j : Nat} (h : onGrid tie b g = some j) :
    readsBack b (j * (2 * 10 ^ g)) = true := by
  rcases choose_eq_some h with ⟨rfl, hlow⟩ | ⟨rfl, hhigh⟩
  · exact hlow
  · exact hhigh

/-- Then no point of the grid reads back. -/
theorem not_readsBack_of_onGrid (hpos : 0 < b) (hb : b < infinity) {tie : Tie} {g : Nat}
    (h : onGrid tie b g = none) (i : Nat) : readsBack b (i * (2 * 10 ^ g)) = false := by
  obtain ⟨hlow, hhigh⟩ := choose_eq_none h
  have hself := nearest_scaled hb
  rw [← Bool.not_eq_true, readsBack_iff hpos hb] at hlow hhigh ⊢
  have hbelow := Nat.div_mul_le_self (scaled b) (2 * 10 ^ g)
  have habove : scaled b < (scaled b / (2 * 10 ^ g) + 1) * (2 * 10 ^ g) := by
    rw [Nat.mul_comm]
    exact Nat.lt_mul_div_succ _ (two_mul_ten_pow_pos g)
  intro hi
  rcases Nat.lt_or_ge (scaled b / (2 * 10 ^ g)) i with hlt | hge
  · exact hhigh (nearest_convex hself hi habove.le (Nat.mul_le_mul_right _ hlt))
  · exact hlow (nearest_convex hi hself (Nat.mul_le_mul_right _ hge) hbelow)

end

/-! ## The coarsest grid -/

section

variable {b : Nat}

theorem nearest_finest (hb : b < infinity) :
    (Decimal.mk (units b * 5 ^ 1074) (-1074)).nearest = b := by
  have hscaled : units b * 5 ^ 1074 * (2 * 10 ^ 0) = scaled b := by
    rw [scaled]
    generalize 5 ^ 1074 = v
    ring
  have hgrid := nearest_grid (units b * 5 ^ 1074) 0 1074
  rw [hscaled, nearest_scaled hb] at hgrid
  exact hgrid.symm

theorem coarsest_spec (hpos : 0 < b) (hb : b < infinity) (tie : Tie) {g : Nat}
    (htop : ∀ i, (Decimal.mk i ((g : Int) - 1074 + 1)).nearest ≠ b) :
    Coarsest b (coarsest tie b g) := by
  induction g with
  | zero => exact ⟨nearest_finest hb, htop⟩
  | succ g ih =>
    rw [coarsest]
    cases h : onGrid tie b (g + 1) with
    | some j => exact ⟨(readsBack_grid hpos hb j (g + 1)).1 (readsBack_of_onGrid h), htop⟩
    | none =>
      refine ih fun i hi => ?_
      have hnot := not_readsBack_of_onGrid hpos hb h i
      have hexp : ((g + 1 : Nat) : Int) - 1074 = (g : Int) - 1074 + 1 := by omega
      rw [← Bool.not_eq_true, readsBack_grid hpos hb, hexp] at hnot
      exact hnot hi

/-- The next value is at most twice a positive one. -/
theorem units_succ_le (hpos : 0 < b) : units (b + 1) ≤ 2 * units b := by
  obtain ⟨p, m, rfl, hm, h⟩ := exists_word b
  rw [Nat.add_assoc, units_word hm (h.imp_left Nat.le_succ_of_le), units_word hm.le h,
    ← Nat.mul_assoc]
  refine Nat.mul_le_mul_right _ ?_
  rcases h with h | rfl <;> omega

theorem twiceMean_le (hpos : 0 < b) : twiceMean b ≤ 3 * units b := by
  have := units_succ_le hpos
  unfold twiceMean
  omega

theorem le_of_readsBack {x : Nat} (h : readsBack b x = true) : x ≤ twiceMean b * 5 ^ 1074 := by
  have hlt : units (b - 1) + units b ≤ units b + units (b + 1) := by
    have := units_le_units.2 (show b - 1 ≤ b + 1 by omega)
    omega
  unfold readsBack at h
  unfold twiceMean
  simp only [Bool.or_eq_true, Bool.and_eq_true, decide_eq_true_eq, beq_iff_eq] at h
  generalize 5 ^ 1074 = v at h ⊢
  have hle := Nat.mul_le_mul_right v hlt
  generalize (units (b - 1) + units b) * v = lower at h hle
  omega

/-- On a grid that is too coarse, zero is too small and the next point too great. -/
theorem not_nearest_coarse (hpos : 0 < b) (hb : b < infinity) (i : Nat) :
    (Decimal.mk i ((coarseGrid b : Int) - 1074 + 1)).nearest ≠ b := by
  have hexp : ((coarseGrid b + 1 : Nat) : Int) - 1074 = coarseGrid b - 1074 + 1 := by omega
  rw [← hexp]
  intro hi
  have hupper := le_of_readsBack ((readsBack_grid hpos hb i _).2 hi)
  have hi0 : 0 < i := by
    rcases Nat.eq_zero_or_pos i with rfl | h
    · rw [nearest_zero_significand] at hi; omega
    · exact h
  have hcoarse : coarseGrid b + 1 = digitBound (units b) + 752 := rfl
  have hpow := Nat.pow_add 10 (digitBound (units b)) 752
  have hgrid : 3 * 5 ^ 1074 ≤ 2 * 10 ^ 752 := by decide +kernel
  have hdigits := lt_pow_digitBound (units b)
  have hmid := twiceMean_le hpos
  have hv := five_pow_pos 1074
  rw [hcoarse, hpow] at hupper
  generalize 10 ^ digitBound (units b) = x at hdigits hupper
  generalize 10 ^ 752 = t at hgrid hupper
  generalize 5 ^ 1074 = v at hgrid hupper hv
  refine absurd hupper (Nat.not_le.2 ?_)
  calc twiceMean b * v ≤ 3 * units b * v := Nat.mul_le_mul_right v hmid
    _ < 3 * x * v := Nat.mul_lt_mul_of_pos_right (by omega) hv
    _ = x * (3 * v) := by ring
    _ ≤ x * (2 * t) := Nat.mul_le_mul_left x hgrid
    _ = 2 * (x * t) := by ring
    _ ≤ i * (2 * (x * t)) := Nat.le_mul_of_pos_left _ hi0

/-- **The shortest decimal of a word** reads back, and no decimal on a coarser grid does. -/
theorem shortest_coarsest (hpos : 0 < b) (hb : b < infinity) (tie : Tie) :
    Coarsest b (shortest tie b) := by
  rw [shortest, if_neg hpos.ne']
  exact coarsest_spec hpos hb tie (not_nearest_coarse hpos hb)

/-! ## The number of digits -/

/-- **Every decimal that reads back has as many digits.**  One with fewer digits is on a coarser
    grid, or there is a power of ten between the two, and that is on a coarser grid. -/
theorem Coarsest.digits_length_le (hpos : 0 < b) {d : Decimal} (hd : Coarsest b d) {t n : Nat}
    {e : Int} (ht : (Decimal.mk t e).nearest = b) (hn : t < 10 ^ n) : d.digits.length ≤ n := by
  by_contra hlt
  have ht0 : t ≠ 0 := by
    rintro rfl
    rw [nearest_zero_significand] at ht
    omega
  have hn0 : n ≠ 0 := by
    rintro rfl
    rw [Nat.pow_zero] at hn
    omega
  obtain ⟨k, hk⟩ : ∃ k, d.digits.length = k + 2 := ⟨d.digits.length - 2, by omega⟩
  have hsig : 10 ^ (k + 1) ≤ d.significand := by
    rw [← Nat.not_lt, ← Nat.length_toDigits_le_iff (by decide) (Nat.succ_pos k)]
    change ¬ d.digits.length ≤ k + 1
    omega
  rcases Int.lt_or_le d.exponent e with hfine | hcoarse
  · obtain ⟨m, hm⟩ : ∃ m : Nat, e = d.exponent + 1 + m := ⟨(e - d.exponent - 1).toNat, by omega⟩
    rw [hm, ← nearest_rescale] at ht
    exact hd.maximal _ ht
  · obtain ⟨m, hm⟩ : ∃ m : Nat, d.exponent = e + m := ⟨(d.exponent - e).toNat, by omega⟩
    have hscale : (Decimal.mk (10 ^ k) (d.exponent + 1)).nearest =
        (Decimal.mk (10 ^ (k + 1)) d.exponent).nearest := by
      rw [Nat.pow_succ]
      exact (nearest_rescale (10 ^ k) 1 d.exponent).symm
    refine hd.maximal (10 ^ k) (hscale.trans (le_antisymm ?_ ?_))
    · exact (nearest_mono hsig d.exponent).trans_eq hd.nearest_eq
    · rw [hm, ← nearest_rescale]
      refine ht.symm.trans_le (nearest_mono ?_ e)
      calc t ≤ 10 ^ n := hn.le
        _ ≤ 10 ^ (k + 1) := Nat.pow_le_pow_right (by decide) (by omega)
        _ ≤ 10 ^ (k + 1) * 10 ^ m := Nat.le_mul_of_pos_right _ (ten_pow_pos m)

end

end NearestHost.Decimal
