/-
  The word of a significand and a power of ten against the nearest word.

  The significand is rounded, and so is each power of ten, and each quotient or
  product of them.

  * `units_nearest`, `units_power`: whole numbers up to `2 ^ 53` and powers of ten up
    to the 22nd are not changed by this.
  * `magnitude?_eq`: so with such a significand and such a power the word is the
    nearest one.
  * `magnitude?_near`: with any other division it is at most `slack` words away.
-/
import NearestHost.Json.Number
import NearestHost.Proofs.Decimal.Value
import NearestHost.Proofs.Double.Error

namespace NearestHost.Json.Tally

open Double

variable {s k : Nat} {e : Int}

/-! ## Numbers that are not changed -/

/-- A whole number up to `2 ^ 53` is a double. -/
theorem units_nearest (hs : s ≤ 2 ^ 53) : units (nearest s 1) = s * 2 ^ 1074 := by
  rcases Nat.eq_zero_or_pos s with rfl | hpos
  · generalize 2 ^ 1074 = u
    rw [nearest_zero Nat.one_pos, units_zero, Nat.zero_mul]
  obtain ⟨k, hk, hlo, hhi⟩ : ∃ k ≤ 52, 2 ^ 52 ≤ s * 2 ^ k ∧ s * 2 ^ k ≤ 2 ^ 53 := by
    rcases hs.lt_or_eq with hlt | rfl
    · have hlog : s.log2 ≤ 52 := Nat.le_of_lt_succ ((Nat.log2_lt hpos.ne').2 hlt)
      have hsplit : 2 ^ 52 = 2 ^ s.log2 * 2 ^ (52 - s.log2) := two_pow_eq_mul (by omega)
      have hsplit' : 2 ^ 53 = 2 ^ (s.log2 + 1) * 2 ^ (52 - s.log2) := two_pow_eq_mul (by omega)
      refine ⟨52 - s.log2, Nat.sub_le _ _, ?_, ?_⟩
      · rw [hsplit]
        exact Nat.mul_le_mul_right _ (Nat.log2_self_le hpos.ne')
      · rw [hsplit']
        exact Nat.mul_le_mul_right _ Nat.lt_log2_self.le
    · exact ⟨0, Nat.zero_le _, by decide, by decide⟩
  obtain ⟨p, hp⟩ : ∃ p, 1074 = k + p := ⟨1074 - k, by omega⟩
  have hword : units (p * 2 ^ 52 + s * 2 ^ k) = s * 2 ^ 1074 := by
    rw [two_pow_eq_mul hp, units_word hhi (Or.inl hlo), Nat.mul_assoc]
  have hrange : p * 2 ^ 52 + s * 2 ^ k ≤ infinity := by
    unfold infinity
    omega
  have hnearest : nearest s 1 = p * 2 ^ 52 + s * 2 ^ k := by
    refine (nearest_congr Nat.one_pos (Nat.two_pow_pos 1074) ?_).trans (nearest_units hrange)
    rw [hword, Nat.mul_one]
  rw [hnearest, hword]

/-- So are the powers of ten up to the 22nd. -/
theorem units_power (hk : k ≤ 22) : units (power k) = 10 ^ k * 2 ^ 1074 := by
  have hall : ∀ k ≤ 22, units (power k) = 10 ^ k * 2 ^ 1074 := by decide +kernel
  exact hall k hk

/-- Whole numbers up to `2 ^ 53` have words of their own. -/
theorem nearest_lt_nearest (hs : s < 2 ^ 53) : nearest s 1 < nearest (s + 1) 1 := by
  refine units_lt_units.1 ?_
  rw [units_nearest hs.le, units_nearest hs]
  exact Nat.mul_lt_mul_of_pos_right (Nat.lt_add_one s) (Nat.two_pow_pos 1074)

/-! ## Numbers that are rounded -/

theorem one_le_nearest (hs : 0 < s) : one ≤ nearest s 1 := by
  refine le_nearest Nat.one_pos (by decide) ?_
  rw [Nat.mul_one (units one), units_one]
  exact Nat.le_mul_of_pos_left _ hs

theorem close_nearest_one (hs : 0 < s) (hfin : nearest s 1 < infinity) :
    Close (units (nearest s 1)) (s * 2 ^ 1074) := by
  have hclose := close_nearest Nat.one_pos ((show 2 ^ 52 < one by decide).trans_le
    (one_le_nearest hs)) hfin
  rwa [Nat.mul_one (units _)] at hclose

theorem nearest_lt_infinity_of_lt (hs : s < 2 ^ 64) : nearest s 1 < infinity := by
  have hle : nearest s 1 ≤ nearest (2 ^ 64) 1 := nearest_mono Nat.one_pos Nat.one_pos (by omega)
  exact hle.trans_lt (by decide +kernel)

/-- A power of ten that is a factor is close to its double. -/
theorem close_power (hk : k ≤ maxPower) : Close (units (power k)) (10 ^ k * 2 ^ 1074) := by
  refine close_nearest_one (Decimal.ten_pow_pos k) ?_
  have hle : power k ≤ power maxPower := by
    refine nearest_mono Nat.one_pos Nat.one_pos ?_
    rw [Nat.mul_one, Nat.mul_one]
    exact Nat.pow_le_pow_right (by decide) hk
  exact hle.trans_lt (by decide +kernel)

theorem units_power_pos (k : Nat) : 0 < units (power k) :=
  units_pos.2 ((show 0 < one by decide).trans_le (one_le_nearest (Decimal.ten_pow_pos k)))

/-- Rounding the significand moves a quotient by one word at most. -/
theorem dist_significand (hs : 0 < s) (hfin : nearest s 1 < infinity) {den : Nat}
    (hden : 0 < den) :
    Nat.dist (nearest (units (nearest s 1)) den) (nearest (s * 2 ^ 1074) den) ≤ 1 :=
  ((close_nearest_one hs hfin).mul_right den).dist_nearest_le hden hden

/-- So does rounding a power of ten below it. -/
theorem dist_power (hk : k ≤ maxPower) (j : Nat) :
    Nat.dist (nearest (s * 2 ^ 1074) (units (power k) * 10 ^ j)) (nearest s (10 ^ (k + j))) ≤ 1 := by
  refine Close.dist_nearest_le (Decimal.ten_pow_pos _)
    (Nat.mul_pos (units_power_pos k) (Decimal.ten_pow_pos j)) ?_
  have hclose := (close_power hk).symm.mul_right (s * 10 ^ j)
  rw [Nat.pow_add]
  generalize 2 ^ 1074 = u at hclose ⊢
  generalize units (power k) = p at hclose ⊢
  have hleft : 10 ^ k * u * (s * 10 ^ j) = s * u * (10 ^ k * 10 ^ j) := by ring
  have hright : p * (s * 10 ^ j) = s * (p * 10 ^ j) := by ring
  rwa [hleft, hright] at hclose

/-! ## Quotients -/

theorem divideByPower_of_le (hk : k ≤ maxPower) (b : Nat) :
    divideByPower b k = divNearest b (power k) := by
  rw [divideByPower, if_pos hk]

theorem divideByPower_of_lt (hk : maxPower < k) {b : Nat} (hb : b ≠ 0) :
    divideByPower b k = divideByPower (divNearest b (power maxPower)) (k - maxPower) := by
  rw [divideByPower, if_neg (Nat.not_le.2 hk), if_neg hb]

/-- Rounding a quotient before it is divided by a further power of ten moves the outcome by one
    word at most. -/
theorem dist_quotient {a p j : Nat} (hp : 0 < p) (hfin : nearest a p < infinity) :
    Nat.dist (nearest (units (nearest a p)) (10 ^ j * 2 ^ 1074)) (nearest a (p * 10 ^ j)) ≤ 1 := by
  have hten := Decimal.ten_pow_pos j
  have hu := Nat.two_pow_pos 1074
  rcases Nat.lt_or_ge (2 ^ 52) (nearest a p) with hnormal | hsubnormal
  · refine Close.dist_nearest_le (Nat.mul_pos hp hten) (Nat.mul_pos hten hu) ?_
    have hclose := (close_nearest hp hnormal hfin).mul_right (10 ^ j)
    generalize 2 ^ 1074 = u at hclose ⊢
    have hleft : units (nearest a p) * p * 10 ^ j = units (nearest a p) * (p * 10 ^ j) := by ring
    have hright : a * u * 10 ^ j = a * (10 ^ j * u) := by ring
    rwa [hleft, hright] at hclose
  · obtain ⟨hle, hge⟩ := near_nearest hp hsubnormal
    refine dist_nearest_le_of_step (Nat.mul_pos hp hten) (Nat.mul_pos hten hu) ?_ ?_
    all_goals
      generalize units (nearest a p) = q at *
      generalize 2 ^ 1074 = u at *
      generalize 10 ^ j = t at *
    · calc 2 * (q * u) * (p * t) = 2 * (q * p) * (u * t) := by ring
        _ ≤ (2 * (a * u) + p) * (u * t) := Nat.mul_le_mul_right _ hle
        _ = 2 * (a * u) * (t * u) + p * 1 * (t * u) := by ring
        _ ≤ 2 * (a * u) * (t * u) + p * t * (t * u) := by gcongr; omega
    · calc 2 * (a * u) * (t * u) = 2 * (a * u) * (u * t) := by ring
        _ ≤ (2 * (q * p) + p) * (u * t) := Nat.mul_le_mul_right _ hge
        _ = 2 * (q * u) * (p * t) + p * 1 * (t * u) := by ring
        _ ≤ 2 * (q * u) * (p * t) + p * t * (t * u) := by gcongr; omega

/-- How many words a quotient is away from the nearest one at most, by the power of ten. -/
def slack (places : Nat) : Nat := if places ≤ 22 then 1 else if places ≤ maxPower then 2 else 3

theorem divideByPower_eq (hs : s ≤ 2 ^ 53) (hk : k ≤ 22) :
    divideByPower (nearest s 1) k = nearest s (10 ^ k) := by
  rw [divideByPower_of_le (hk.trans (by decide)), divNearest, units_nearest hs, units_power hk]
  have hden := Nat.mul_pos (Decimal.ten_pow_pos k) (Nat.two_pow_pos 1074)
  refine nearest_congr hden (Decimal.ten_pow_pos k) ?_
  generalize 2 ^ 1074 = u
  ring

/-- With one power of ten the significand is off, and a power beyond the 22nd as well. -/
theorem divideByPower_near_of_le (hs : 0 < s) (hlt : s < 2 ^ 64) (hk : k ≤ maxPower) :
    Nat.dist (divideByPower (nearest s 1) k) (nearest s (10 ^ k)) ≤ slack k := by
  have hfirst := dist_significand hs (nearest_lt_infinity_of_lt hlt) (units_power_pos k)
  have hsecond := dist_power (s := s) hk 0
  rw [Nat.pow_zero, Nat.mul_one, Nat.add_zero] at hsecond
  rw [divideByPower_of_le hk, divNearest, slack]
  split_ifs with hexact
  · have hsame : nearest (s * 2 ^ 1074) (units (power k)) = nearest s (10 ^ k) := by
      refine nearest_congr (units_power_pos k) (Decimal.ten_pow_pos k) ?_
      rw [units_power hexact]
      generalize 2 ^ 1074 = u
      ring
    rw [hsame] at hfirst
    exact hfirst
  · exact (Nat.dist.triangle_inequality _ _ _).trans (Nat.add_le_add hfirst hsecond)

/-- With two powers of ten the significand, the first power and the first quotient are off. -/
theorem divideByPower_near_of_lt (hs : 0 < s) (hlt : s < 2 ^ 64) {j : Nat} (hj : j ≤ 22)
    (hpos : 0 < j) : Nat.dist (divideByPower (nearest s 1) (maxPower + j))
      (nearest s (10 ^ (maxPower + j))) ≤ 3 := by
  have hfin := nearest_lt_infinity_of_lt hlt
  have hone := one_le_nearest hs
  have hne : nearest s 1 ≠ 0 := ((show 0 < one by decide).trans_le hone).ne'
  have hp := units_power_pos maxPower
  have hquotient : nearest (units (nearest s 1)) (units (power maxPower)) < infinity := by
    refine (nearest_le hp hfin.le ?_).trans_lt hfin
    refine Nat.mul_le_mul_left _ ?_
    rw [← units_one]
    exact units_le_units.2 (one_le_nearest (Decimal.ten_pow_pos maxPower))
  have hfirst := dist_quotient (j := j) hp hquotient
  have hsecond := dist_significand hs hfin (Nat.mul_pos hp (Decimal.ten_pow_pos j))
  have hthird := dist_power (s := s) le_rfl j
  rw [divideByPower_of_lt (Nat.lt_add_of_pos_right hpos) hne, Nat.add_sub_cancel_left,
    divideByPower_of_le (hj.trans (by decide)), divNearest, divNearest, units_power hj]
  exact (Nat.dist.triangle_inequality _ _ _).trans (Nat.add_le_add hfirst
    ((Nat.dist.triangle_inequality _ _ _).trans (Nat.add_le_add hsecond hthird)))

/-- **A quotient by a power of ten** is at most `slack` words away from the nearest word. -/
theorem divideByPower_near (hs : 0 < s) (hlt : s < 2 ^ 64) (hk : k ≤ maxPower + 22) :
    Nat.dist (divideByPower (nearest s 1) k) (nearest s (10 ^ k)) ≤ slack k := by
  rcases Nat.lt_or_ge maxPower k with hlarge | hsmall
  · obtain ⟨j, rfl⟩ : ∃ j, k = maxPower + j := ⟨k - maxPower, by omega⟩
    have hslack : slack (maxPower + j) = 3 := by
      rw [slack, if_neg (by unfold maxPower at *; omega), if_neg (by omega)]
    rw [hslack]
    exact divideByPower_near_of_lt hs hlt (by omega) (by omega)
  · exact divideByPower_near_of_le hs hlt hsmall

/-! ## Products -/

theorem multiplyByPower?_eq (hs : s ≤ 2 ^ 53) (hk : k ≤ 22) :
    multiplyByPower? (nearest s 1) k = some (nearest (s * 10 ^ k) 1) := by
  have hproduct : mulNearest (nearest s 1) (power k) = nearest (s * 10 ^ k) 1 := by
    have hd := two_pow_eq_mul (a := 1074) (b := 1074) (c := 2148) rfl
    rw [mulNearest, units_nearest hs, units_power hk]
    refine nearest_congr (Nat.two_pow_pos 2148) Nat.one_pos ?_
    rw [hd]
    generalize 2 ^ 1074 = u
    ring
  have hfin : nearest (s * 10 ^ k) 1 ≠ infinity := by
    have hle : nearest (s * 10 ^ k) 1 ≤ nearest (2 ^ 53 * 10 ^ 22) 1 := by
      refine nearest_mono Nat.one_pos Nat.one_pos (Nat.mul_le_mul_right 1 (Nat.mul_le_mul hs ?_))
      exact Nat.pow_le_pow_right (by decide) hk
    exact (hle.trans_lt (by decide +kernel)).ne
  rw [multiplyByPower?, hproduct]
  dsimp only
  split_ifs with hzero hlarge
  · have hs0 : s = 0 := by
      by_contra hne
      exact absurd (one_le_nearest (Nat.pos_of_ne_zero hne)) (by rw [hzero]; decide)
    rw [hs0, Nat.zero_mul, nearest_zero Nat.one_pos]
  · unfold maxPower at hlarge
    omega
  · rfl

/-! ## Significands and powers of ten -/

/-- **A significand up to `2 ^ 53` and a power of ten up to the 22nd**, or one over it, are read as
    the double that is nearest to their product. -/
theorem magnitude?_eq (hs : s ≤ 2 ^ 53) (hlo : -22 ≤ e) (hhi : e ≤ 22) :
    magnitude? s e = some (Decimal.mk s e).nearest := by
  rw [magnitude?, Decimal.nearest_eq]
  dsimp only
  split_ifs with he
  · have hplaces : (-e).toNat = 0 := by omega
    rw [multiplyByPower?_eq hs (by omega), hplaces, Nat.pow_zero]
  · have hzeros : e.toNat = 0 := by omega
    rw [divideByPower_eq hs (by omega), hzeros, Nat.pow_zero, Nat.mul_one]

theorem magnitude?_of_neg (he : e < 0) :
    magnitude? s e = some (divideByPower (nearest s 1) (-e).toNat) := by
  rw [magnitude?]
  exact if_neg (by omega)

/-- **Any significand over a power of ten** is read as a double at most `slack` words away from the
    nearest one. -/
theorem magnitude?_near (hs : 0 < s) (hlt : s < 2 ^ 64) (he : e < 0)
    (hk : (-e).toNat ≤ maxPower + 22) : ∃ b, magnitude? s e = some b ∧
      Nat.dist b (Decimal.mk s e).nearest ≤ slack (-e).toNat := by
  have hzeros : e.toNat = 0 := by omega
  refine ⟨_, magnitude?_of_neg he, ?_⟩
  rw [Decimal.nearest_eq, hzeros, Nat.pow_zero, Nat.mul_one]
  exact divideByPower_near hs hlt hk

end NearestHost.Json.Tally
