/-
  How far rounding moves a number.

  * `IsNearest`, `isNearest_nearest`: the nearest word of a ratio is as near to it
    as every other, and even where another one is as near.
  * `Close`: numbers that are at most one part in `2 ^ 53` of each other apart.
  * `close_nearest`: a ratio and the value of its nearest word.
  * `Close.dist_nearest_le`: the nearest words of close ratios are the same, or
    neighbours.
  * `nearest_eq_of_near`: what is nearer still to the value of a word is rounded to
    this word.
-/
import NearestHost.Proofs.Double.Midpoint
import Mathlib.Data.Nat.Dist

namespace NearestHost.Double

variable {num den num' den' b : Nat}

/-! ## Steps from a word to the next -/

/-- A step is at least one part in `2 ^ 53` of the value it leads to. -/
theorem le_step (b : Nat) : 2 ^ 53 * units b + units (b + 1) ≤ 2 ^ 53 * units (b + 1) := by
  obtain ⟨p, m, rfl, hm, h⟩ := exists_word b
  rw [Nat.add_assoc, units_word hm (h.imp_left Nat.le_succ_of_le), units_word hm.le h]
  generalize 2 ^ p = q
  calc 2 ^ 53 * (m * q) + (m + 1) * q = (2 ^ 53 * m + (m + 1)) * q := by ring
    _ ≤ (2 ^ 53 * m + 2 ^ 53) * q := Nat.mul_le_mul_right q (by omega)
    _ = 2 ^ 53 * ((m + 1) * q) := by ring

/-- From the first normal word on, a step is at most one part in `2 ^ 52` of the value. -/
theorem step_le (hb : 2 ^ 52 ≤ b) : 2 ^ 52 * units (b + 1) ≤ 2 ^ 52 * units b + units b := by
  obtain ⟨p, m, rfl, hm, h⟩ := exists_word b
  have hnormal : 2 ^ 52 ≤ m := h.elim id fun hp => by omega
  rw [Nat.add_assoc, units_word hm (h.imp_left Nat.le_succ_of_le), units_word hm.le h]
  generalize 2 ^ p = q
  calc 2 ^ 52 * ((m + 1) * q) = (2 ^ 52 * m + 2 ^ 52) * q := by ring
    _ ≤ (2 ^ 52 * m + m) * q := Nat.mul_le_mul_right q (by omega)
    _ = 2 ^ 52 * (m * q) + m * q := by ring

theorem units_of_le (hb : b ≤ 2 ^ 52) : units b = b ∧ units (b + 1) = b + 1 := by
  have hword {m : Nat} (hm : m ≤ 2 ^ 53) : units m = m := by
    have h := units_word (p := 0) hm (Or.inr rfl)
    rwa [Nat.zero_mul, Nat.zero_add, Nat.pow_zero, Nat.mul_one] at h
  exact ⟨hword (by omega), hword (by omega)⟩

/-! ## The nearest word -/

/-- The means around a ratio that is rounded to `b`, each of which goes to an even word. -/
structure Surrounds (num den b : Nat) : Prop where
  above : 2 * (num * 2 ^ 1074) ≤ twiceMean b * den
  above_even : 2 * (num * 2 ^ 1074) = twiceMean b * den → b % 2 = 0
  below : 0 < b → twiceMean (b - 1) * den ≤ 2 * (num * 2 ^ 1074)
  below_even : 0 < b → twiceMean (b - 1) * den = 2 * (num * 2 ^ 1074) → b % 2 = 0

theorem surrounds_nearest (hd : 0 < den) (hfin : nearest num den < infinity) :
    Surrounds num den (nearest num den) := by
  have hle := (nearest_le_iff hd hfin).1 le_rfl
  refine ⟨?_, ?_, fun hpos => ?_, fun hpos heq => ?_⟩
  · exact hle.elim le_of_lt fun h => h.1.le
  · exact fun heq => hle.elim (fun h => absurd heq h.ne) fun h => h.2
  · rcases (nearest_eq_iff hd hpos hfin).1 rfl with h | ⟨-, h | h⟩
    · exact h.1.le
    · exact h.ge
    · rw [h]
      refine Nat.mul_le_mul_right den (Nat.add_le_add ?_ ?_)
      · exact units_le_units.2 (Nat.sub_le _ _)
      · exact units_le_units.2 (by omega)
  · rcases (nearest_eq_iff hd hpos hfin).1 rfl with h | h
    · exact absurd heq h.1.ne
    · exact h.1

/-- The word `b` has the value nearest to a ratio among all words, or is even where another word is
    as near. -/
structure IsNearest (num den b : Nat) : Prop where
  closest : ∀ c, Nat.dist (units b * den) (num * 2 ^ 1074) ≤
    Nat.dist (units c * den) (num * 2 ^ 1074)
  even : ∀ c, c ≠ b → Nat.dist (units c * den) (num * 2 ^ 1074) =
    Nat.dist (units b * den) (num * 2 ^ 1074) → b % 2 = 0

/-- A word other than the one whose means surround a ratio is no nearer, and as near only where
    that one is even. -/
theorem Surrounds.dist_le (h : Surrounds num den b) (hd : 0 < den) {c : Nat} (hne : c ≠ b) :
    Nat.dist (units b * den) (num * 2 ^ 1074) ≤ Nat.dist (units c * den) (num * 2 ^ 1074) ∧
      (Nat.dist (units c * den) (num * 2 ^ 1074) = Nat.dist (units b * den) (num * 2 ^ 1074) →
        b % 2 = 0) := by
  obtain ⟨habove, habove', hbelow, hbelow'⟩ := h
  generalize num * 2 ^ 1074 = a at *
  have hmul {i j : Nat} (h : i < j) : units i * den < units j * den :=
    Nat.mul_lt_mul_of_pos_right (units_lt_units.2 h) hd
  have hmul' {i j : Nat} (h : i ≤ j) : units i * den ≤ units j * den :=
    Nat.mul_le_mul_right den (units_le_units.2 h)
  unfold Nat.dist
  rcases Nat.lt_or_gt_of_ne hne with hlt | hgt
  · have hpos : 0 < b := by omega
    have hbelow := hbelow hpos
    have hbelow' := hbelow' hpos
    rw [twiceMean, Nat.add_mul, Nat.sub_add_cancel hpos] at hbelow hbelow'
    have hc := hmul' (Nat.le_sub_one_of_lt hlt)
    have hb := hmul (Nat.sub_one_lt hpos.ne')
    refine ⟨by omega, fun heq => hbelow' (by omega)⟩
  · rw [twiceMean, Nat.add_mul] at habove habove'
    have hc := hmul' (show b + 1 ≤ c from hgt)
    have hb := hmul (Nat.lt_add_one b)
    refine ⟨by omega, fun heq => habove' (by omega)⟩

/-- **Rounding gives the nearest word**, of two that are equally near the even one. -/
theorem isNearest_nearest (hd : 0 < den) (hfin : nearest num den < infinity) :
    IsNearest num den (nearest num den) := by
  have hsurrounds := surrounds_nearest hd hfin
  refine ⟨fun c => ?_, fun c hne => (hsurrounds.dist_le hd hne).2⟩
  rcases eq_or_ne c (nearest num den) with rfl | hne
  · exact le_rfl
  · exact (hsurrounds.dist_le hd hne).1

/-! ## Close numbers -/

/-- Numbers that differ by at most one part in `2 ^ 53`, of either of them. -/
structure Close (x y : Nat) : Prop where
  left_le : 2 ^ 53 * x ≤ (2 ^ 53 + 1) * y
  right_le : 2 ^ 53 * y ≤ (2 ^ 53 + 1) * x

namespace Close

variable {x y : Nat}

theorem symm (h : Close x y) : Close y x := ⟨h.right_le, h.left_le⟩

theorem mul_right (h : Close x y) (n : Nat) : Close (x * n) (y * n) where
  left_le := by
    rw [← Nat.mul_assoc, ← Nat.mul_assoc]
    exact Nat.mul_le_mul_right n h.left_le
  right_le := by
    rw [← Nat.mul_assoc, ← Nat.mul_assoc]
    exact Nat.mul_le_mul_right n h.right_le

end Close

/-- **A ratio is close to the value of its nearest word**, where this is normal. -/
theorem close_nearest (hd : 0 < den) (hnormal : 2 ^ 52 < nearest num den)
    (hfin : nearest num den < infinity) : Close (units (nearest num den) * den) (num * 2 ^ 1074) := by
  obtain ⟨habove, -, hbelow, -⟩ := surrounds_nearest hd hfin
  have hbelow := hbelow (by omega)
  generalize nearest num den = b at *
  generalize num * 2 ^ 1074 = a at *
  obtain ⟨c, rfl⟩ : ∃ c, b = c + 1 := ⟨b - 1, by omega⟩
  rw [Nat.add_sub_cancel, twiceMean, Nat.add_mul] at hbelow
  rw [twiceMean, Nat.add_mul] at habove
  have hdown := Nat.mul_le_mul_right den (step_le (show 2 ^ 52 ≤ c by omega))
  have hup := Nat.mul_le_mul_right den (step_le (show 2 ^ 52 ≤ c + 1 by omega))
  simp only [Nat.add_mul, Nat.mul_assoc] at hdown hup
  constructor <;> omega

/-- A ratio is less than a step away from the value of its nearest word, where this is not normal. -/
theorem near_nearest (hd : 0 < den) (hsubnormal : nearest num den ≤ 2 ^ 52) :
    2 * (units (nearest num den) * den) ≤ 2 * (num * 2 ^ 1074) + den ∧
      2 * (num * 2 ^ 1074) ≤ 2 * (units (nearest num den) * den) + den := by
  have hfin : nearest num den < infinity := hsubnormal.trans_lt (by decide)
  obtain ⟨habove, -, hbelow, -⟩ := surrounds_nearest hd hfin
  generalize nearest num den = b at *
  generalize num * 2 ^ 1074 = a at *
  obtain ⟨hb, hnext⟩ := units_of_le hsubnormal
  rw [twiceMean, hnext, Nat.add_mul, Nat.add_mul, hb, Nat.one_mul] at habove
  rw [hb]
  refine ⟨?_, by omega⟩
  rcases Nat.eq_zero_or_pos b with rfl | hpos
  · omega
  · obtain ⟨c, rfl⟩ : ∃ c, b = c + 1 := ⟨b - 1, by omega⟩
    have hbelow := hbelow hpos
    obtain ⟨hc, -⟩ := units_of_le (show c ≤ 2 ^ 52 by omega)
    rw [Nat.add_sub_cancel, twiceMean, hc, hb, Nat.add_mul, Nat.add_mul, Nat.one_mul] at hbelow
    rw [Nat.add_mul, Nat.one_mul]
    omega

/-! ## Ratios that are rounded to neighbours -/

/-- A ratio below the mean behind the next word is rounded to the next word at most. -/
theorem nearest_le_succ (hd' : 0 < den')
    (h : nearest num den < infinity →
      2 * (num' * 2 ^ 1074) < twiceMean (nearest num den + 1) * den') :
    nearest num' den' ≤ nearest num den + 1 := by
  rcases Nat.lt_or_ge (nearest num den + 1) infinity with hlt | hge
  · exact (nearest_le_iff hd' hlt).2 (Or.inl (h (by omega)))
  · exact (nearest_le_infinity num' den').trans hge

theorem Close.nearest_le_succ (hd : 0 < den) (hd' : 0 < den')
    (h : Close (num' * den) (num * den')) : nearest num' den' ≤ nearest num den + 1 := by
  refine Double.nearest_le_succ hd' fun hfin => ?_
  have habove := (surrounds_nearest hd hfin).above
  have hclose := h.left_le
  generalize nearest num den = b at *
  -- the means around the next word are farther apart than one part in `2 ^ 53`
  have hgap : (2 ^ 53 + 1) * twiceMean b < 2 ^ 53 * twiceMean (b + 1) := by
    have hfirst := le_step b
    have hsecond := le_step (b + 1)
    have hlt := units_lt_units.2 (Nat.lt_add_one b)
    have hlt' := units_lt_units.2 (Nat.lt_add_one (b + 1))
    unfold twiceMean
    omega
  refine Nat.lt_of_mul_lt_mul_left (a := 2 ^ 53 * den) ?_
  have hpos := Nat.mul_pos hd hd'
  generalize 2 ^ 1074 = u at *
  calc 2 ^ 53 * den * (2 * (num' * u))
      = 2 ^ 53 * (num' * den) * (2 * u) := by ring
    _ ≤ (2 ^ 53 + 1) * (num * den') * (2 * u) := Nat.mul_le_mul_right _ hclose
    _ = (2 ^ 53 + 1) * den' * (2 * (num * u)) := by ring
    _ ≤ (2 ^ 53 + 1) * den' * (twiceMean b * den) := Nat.mul_le_mul_left _ habove
    _ = (2 ^ 53 + 1) * twiceMean b * (den * den') := by ring
    _ < 2 ^ 53 * twiceMean (b + 1) * (den * den') := Nat.mul_lt_mul_of_pos_right hgap hpos
    _ = 2 ^ 53 * den * (twiceMean (b + 1) * den') := by ring

/-- **The nearest words of close ratios** are the same or neighbours. -/
theorem Close.dist_nearest_le (hd : 0 < den) (hd' : 0 < den')
    (h : Close (num' * den) (num * den')) :
    Nat.dist (nearest num' den') (nearest num den) ≤ 1 := by
  have hle := h.nearest_le_succ hd hd'
  have hge := h.symm.nearest_le_succ hd' hd
  unfold Nat.dist
  omega

theorem nearest_le_succ_of_step (hd : 0 < den) (hd' : 0 < den')
    (h : 2 * (num' * 2 ^ 1074) * den ≤ 2 * (num * 2 ^ 1074) * den' + den * den') :
    nearest num' den' ≤ nearest num den + 1 := by
  refine nearest_le_succ hd' fun hfin => ?_
  have habove := (surrounds_nearest hd hfin).above
  generalize nearest num den = b at *
  generalize 2 * (num * 2 ^ 1074) = a at *
  generalize 2 * (num' * 2 ^ 1074) = a' at *
  have hgap : twiceMean b + 1 < twiceMean (b + 1) := by
    have hlt := units_lt_units.2 (Nat.lt_add_one b)
    have hlt' := units_lt_units.2 (Nat.lt_add_one (b + 1))
    unfold twiceMean
    omega
  refine Nat.lt_of_mul_lt_mul_left (a := den) ?_
  calc den * a' = a' * den := Nat.mul_comm _ _
    _ ≤ a * den' + den * den' := h
    _ ≤ twiceMean b * den * den' + den * den' := by gcongr
    _ = (twiceMean b + 1) * (den * den') := by ring
    _ < twiceMean (b + 1) * (den * den') := Nat.mul_lt_mul_of_pos_right hgap (Nat.mul_pos hd hd')
    _ = den * (twiceMean (b + 1) * den') := by ring

/-- So are those of ratios that are at most half of the least step apart. -/
theorem dist_nearest_le_of_step (hd : 0 < den) (hd' : 0 < den')
    (h : 2 * (num' * 2 ^ 1074) * den ≤ 2 * (num * 2 ^ 1074) * den' + den * den')
    (h' : 2 * (num * 2 ^ 1074) * den' ≤ 2 * (num' * 2 ^ 1074) * den + den * den') :
    Nat.dist (nearest num' den') (nearest num den) ≤ 1 := by
  have hle := nearest_le_succ_of_step hd hd' h
  have hge := nearest_le_succ_of_step hd' hd (by rwa [Nat.mul_comm den' den])
  unfold Nat.dist
  omega

/-! ## Ratios that are rounded to a word -/

/-- **What is nearer to the value of a word than one part in `2 ^ 54` is rounded to it.** -/
theorem nearest_eq_of_near (hd : 0 < den) (hpos : 0 < b) (hb : b < infinity)
    (hlo : (2 ^ 54 - 1) * (units b * den) < 2 ^ 54 * (num * 2 ^ 1074))
    (hhi : 2 ^ 54 * (num * 2 ^ 1074) < (2 ^ 54 + 1) * (units b * den)) : nearest num den = b := by
  refine (nearest_eq_iff hd hpos hb).2 (Or.inl ?_)
  generalize num * 2 ^ 1074 = a at *
  obtain ⟨c, rfl⟩ : ∃ c, b = c + 1 := ⟨b - 1, by omega⟩
  have hdown := Nat.mul_le_mul_right den (le_step c)
  have hup := Nat.mul_le_mul_right den (le_step (c + 1))
  have hlt := Nat.mul_lt_mul_of_pos_right (units_lt_units.2 (Nat.lt_add_one (c + 1))) hd
  rw [Nat.add_sub_cancel]
  simp only [twiceMean, Nat.add_mul, Nat.mul_assoc] at hdown hup ⊢
  constructor <;> omega

end NearestHost.Double
