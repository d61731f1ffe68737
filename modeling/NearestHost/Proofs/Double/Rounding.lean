/-
  Rounding to the nearest double.

  * `roundHalfEven_mono`, `nearest_mono`: a greater ratio is not rounded to a
    smaller number.
  * `nearest_units`: a value that some word has is rounded to that word.
  * `nearest_le`, `le_nearest`: so a ratio that lies between two values is
    rounded to a word between theirs.
  * `nearest_lt_infinity`: a ratio less than half a step above the greatest
    finite value is rounded to a finite word.
-/
import NearestHost.Proofs.Double.Units
import Mathlib.Tactic.Linarith
import Mathlib.Tactic.Ring

namespace NearestHost.Double

/-! ## Quotients -/

theorem div_le_roundHalfEven (a b : Nat) : a / b ≤ roundHalfEven a b := by
  unfold roundHalfEven; split <;> omega

theorem roundHalfEven_le_div_succ (a b : Nat) : roundHalfEven a b ≤ a / b + 1 := by
  unfold roundHalfEven; split <;> omega

/-- A ratio and its whole part, in numbers. -/
theorem div_le_div_of_ratio_le {a b c d : Nat} (hb : 0 < b) (hd : 0 < d) (h : a * d ≤ c * b) :
    a / b ≤ c / d := by
  rw [Nat.le_div_iff_mul_le hd]
  have hab : a / b * b ≤ a := Nat.div_mul_le_self a b
  nlinarith [Nat.mul_le_mul_right d hab]

/-- **A greater quotient is not rounded to a smaller number.** -/
theorem roundHalfEven_mono {a b c d : Nat} (hb : 0 < b) (hd : 0 < d) (h : a * d ≤ c * b) :
    roundHalfEven a b ≤ roundHalfEven c d := by
  rcases Nat.lt_or_eq_of_le (div_le_div_of_ratio_le hb hd h) with hlt | heq
  · calc roundHalfEven a b ≤ a / b + 1 := roundHalfEven_le_div_succ a b
      _ ≤ c / d := hlt
      _ ≤ roundHalfEven c d := div_le_roundHalfEven c d
  -- the whole parts are equal, so the order is that of the remainders
  have hr : (a % b) * d ≤ (c % d) * b := by
    have ha := Nat.div_add_mod a b
    have hc := Nat.div_add_mod c d
    rw [← ha, ← hc, heq] at h
    nlinarith [h]
  unfold roundHalfEven
  rw [heq]
  split_ifs with h₁ h₂ h₂
  · exact le_rfl
  · omega
  · refine absurd ?_ h₁
    rcases h₂ with h₂ | ⟨h₂, he⟩
    · left; nlinarith
    · rcases Nat.lt_or_ge (2 * (a % b)) b with hl | hg
      · exact Or.inl hl
      · right; refine ⟨?_, he⟩; nlinarith
  · exact le_rfl

theorem roundHalfEven_congr {a b c d : Nat} (hb : 0 < b) (hd : 0 < d) (h : a * d = c * b) :
    roundHalfEven a b = roundHalfEven c d :=
  le_antisymm (roundHalfEven_mono hb hd h.le) (roundHalfEven_mono hd hb h.ge)

theorem roundHalfEven_mul {m d : Nat} (hd : 0 < d) : roundHalfEven (m * d) d = m := by
  rw [roundHalfEven, Nat.mul_mod_left, Nat.mul_div_cancel _ hd, if_pos (Or.inl (by omega))]

theorem roundHalfEven_le {a b m : Nat} (hb : 0 < b) (h : a ≤ m * b) : roundHalfEven a b ≤ m := by
  rw [← roundHalfEven_mul (m := m) hb]
  exact roundHalfEven_mono hb hb (Nat.mul_le_mul_right b h)

theorem le_roundHalfEven {a b m : Nat} (hb : 0 < b) (h : m * b ≤ a) : m ≤ roundHalfEven a b := by
  rw [← roundHalfEven_mul (m := m) hb]
  exact roundHalfEven_mono hb hb (Nat.mul_le_mul_right b h)

/-! ## Words -/

/-- The exponent that leaves a significand of 53 bits, or is zero where there are fewer. -/
theorem excessBits_spec (n : Nat) :
    n < 2 ^ (53 + excessBits n) ∧ (2 ^ (52 + excessBits n) ≤ n ∨ excessBits n = 0) := by
  rcases Nat.eq_zero_or_pos n with rfl | hn
  · exact ⟨Nat.two_pow_pos _, Or.inr rfl⟩
  have hhi := Nat.lt_log2_self (n := n)
  refine ⟨hhi.trans_le (Nat.pow_le_pow_right (by decide) (by unfold excessBits; omega)), ?_⟩
  by_cases h : 52 ≤ n.log2
  · left; rw [excessBits, Nat.add_sub_cancel' h]; exact Nat.log2_self_le hn.ne'
  · right; unfold excessBits; omega

theorem excessBits_mono {m n : Nat} (h : m ≤ n) : excessBits m ≤ excessBits n := by
  unfold excessBits
  rcases Nat.eq_zero_or_pos m with rfl | hm
  · simp
  have : m.log2 ≤ n.log2 := (Nat.le_log2 (by omega)).2 ((Nat.log2_self_le hm.ne').trans h)
  omega

theorem excessBits_eq {n p : Nat} (hlt : n < 2 ^ (53 + p)) (hge : 2 ^ (52 + p) ≤ n ∨ p = 0) :
    excessBits n = p := by
  obtain ⟨hlt', hge'⟩ := excessBits_spec n
  refine le_antisymm ?_ ?_
  · rcases hge' with hge' | h0
    · have := (Nat.pow_lt_pow_iff_right (by decide)).1 (hge'.trans_lt hlt)
      omega
    · omega
  · rcases hge with hge | h0
    · have := (Nat.pow_lt_pow_iff_right (by decide)).1 (hge.trans_lt hlt')
      omega
    · omega

/-- The exponent of a value is that of its word. -/
theorem excessBits_word {p m : Nat} (hm : m < 2 ^ 53) (h : 2 ^ 52 ≤ m ∨ p = 0) :
    excessBits (m * 2 ^ p) = p := by
  refine excessBits_eq ?_ (h.imp_left fun h => ?_)
  · rw [Nat.pow_add]; exact Nat.mul_lt_mul_of_pos_right hm (Nat.two_pow_pos p)
  · rw [Nat.pow_add]; exact Nat.mul_le_mul_right _ h

/-- The significand of a ratio, before it is cut off at infinity. -/
theorem significand_spec (num : Nat) {den : Nat} (hd : 0 < den) :
    let p := excessBits (num / den)
    let m := roundHalfEven num (den * 2 ^ p)
    m ≤ 2 ^ 53 ∧ (2 ^ 52 ≤ m ∨ p = 0) := by
  intro p m
  have hp : 0 < den * 2 ^ p := Nat.mul_pos hd (Nat.two_pow_pos p)
  obtain ⟨hlt, hge⟩ := excessBits_spec (num / den)
  refine ⟨roundHalfEven_le hp ?_, hge.imp_left fun hge => le_roundHalfEven hp ?_⟩
  · rw [Nat.div_lt_iff_lt_mul hd, Nat.pow_add] at hlt
    nlinarith
  · rw [Nat.le_div_iff_mul_le hd, Nat.pow_add] at hge
    nlinarith

/-- **A greater ratio is not rounded to a smaller word.** -/
theorem nearest_mono {a b c d : Nat} (hb : 0 < b) (hd : 0 < d) (h : a * d ≤ c * b) :
    nearest a b ≤ nearest c d := by
  unfold nearest
  generalize hA : a * 2 ^ 1074 = A
  generalize hC : c * 2 ^ 1074 = C
  have hs : A * d ≤ C * b := by
    rw [← hA, ← hC, Nat.mul_right_comm, Nat.mul_right_comm c]
    exact Nat.mul_le_mul_right _ h
  obtain ⟨hm, -⟩ := significand_spec A hb
  obtain ⟨-, hm'⟩ := significand_spec C hd
  have hpp : excessBits (A / b) ≤ excessBits (C / d) :=
    excessBits_mono (div_le_div_of_ratio_le hb hd hs)
  refine min_le_min_left _ ?_
  rcases Nat.lt_or_eq_of_le hpp with hlt | heq
  · -- the greater exponent leaves a significand that has all its bits
    have := hm'.resolve_right (by omega)
    omega
  · rw [heq] at hm ⊢
    have hpos := Nat.two_pow_pos (excessBits (C / d))
    refine Nat.add_le_add_left (roundHalfEven_mono (by positivity) (by positivity) ?_) _
    nlinarith

theorem nearest_congr {a b c d : Nat} (hb : 0 < b) (hd : 0 < d) (h : a * d = c * b) :
    nearest a b = nearest c d :=
  le_antisymm (nearest_mono hb hd h.le) (nearest_mono hd hb h.ge)

/-- **A value that some word has is rounded to that word.** -/
theorem nearest_units {b : Nat} (hb : b ≤ infinity) : nearest (units b) (2 ^ 1074) = b := by
  obtain ⟨p, m, rfl, hm, h⟩ := exists_word b
  have hpos := Nat.two_pow_pos 1074
  have hr {u : Nat} (hu : 0 < u) : roundHalfEven (m * 2 ^ p * u) (u * 2 ^ p) = m := by
    rw [Nat.mul_assoc, Nat.mul_comm (2 ^ p)]
    exact roundHalfEven_mul (Nat.mul_pos hu (Nat.two_pow_pos p))
  rw [nearest, units_word hm.le h]
  simp only [Nat.mul_div_cancel _ hpos, excessBits_word hm h, hr hpos, min_eq_right hb]

/-- The word nearest to `m * 2 ^ (k - d)`, by its exponent `p`: the significand is what is left of
    `m` after `n` bits. -/
theorem nearest_mul_pow {m n p k d : Nat} (hlt : m < 2 ^ (53 + n))
    (hge : 2 ^ (52 + n) ≤ m ∨ p = 0) (h : k + 1074 + n = d + p) :
    nearest (m * 2 ^ k) (2 ^ d) = min infinity (p * 2 ^ 52 + roundHalfEven m (2 ^ n)) := by
  have hd := Nat.two_pow_pos d
  unfold nearest
  generalize 1074 = s at h ⊢
  have hp : excessBits (m * 2 ^ k * 2 ^ s / 2 ^ d) = p := by
    rw [Nat.mul_assoc, ← Nat.pow_add]
    refine excessBits_eq ?_ (hge.imp_left fun hge => ?_)
    · rw [Nat.div_lt_iff_lt_mul hd, ← Nat.pow_add]
      calc m * 2 ^ (k + s) < 2 ^ (53 + n) * 2 ^ (k + s) :=
            Nat.mul_lt_mul_of_pos_right hlt (Nat.two_pow_pos _)
        _ = 2 ^ (53 + p + d) := by rw [← Nat.pow_add]; congr 1; omega
    · rw [Nat.le_div_iff_mul_le hd, ← Nat.pow_add]
      calc 2 ^ (52 + p + d) = 2 ^ (52 + n) * 2 ^ (k + s) := by
            rw [← Nat.pow_add]; congr 1; omega
        _ ≤ m * 2 ^ (k + s) := Nat.mul_le_mul_right _ hge
  simp only [hp]
  refine congrArg (fun r => min infinity (p * 2 ^ 52 + r)) ?_
  refine roundHalfEven_congr (Nat.mul_pos hd (Nat.two_pow_pos p)) (Nat.two_pow_pos n) ?_
  rw [← Nat.pow_add, ← h, Nat.mul_assoc, Nat.mul_assoc, ← Nat.pow_add, ← Nat.pow_add, Nat.add_assoc]

/-- A ratio up to a value is rounded to a word up to that of the value. -/
theorem nearest_le {num den b : Nat} (hd : 0 < den) (hb : b ≤ infinity)
    (h : num * 2 ^ 1074 ≤ units b * den) : nearest num den ≤ b :=
  (nearest_mono hd (Nat.two_pow_pos 1074) h).trans_eq (nearest_units hb)

/-- A ratio from a value on is rounded to a word from that of the value on. -/
theorem le_nearest {num den b : Nat} (hd : 0 < den) (hb : b ≤ infinity)
    (h : units b * den ≤ num * 2 ^ 1074) : b ≤ nearest num den :=
  (nearest_units hb).symm.trans_le (nearest_mono (Nat.two_pow_pos 1074) hd h)

theorem nearest_le_infinity (num den : Nat) : nearest num den ≤ infinity := min_le_left _ _

/-! ## The end of the range -/

/-- The greatest finite value and a quarter of a step more. -/
def overflowBound : Nat := units (infinity - 1) + 2 ^ 2043

theorem nearest_overflowBound : nearest overflowBound (2 ^ 1074) = infinity - 1 := by
  decide +kernel

/-- **Only ratios beyond the greatest finite value are rounded to infinity**, and not all of them. -/
theorem nearest_lt_infinity {num den : Nat} (hd : 0 < den)
    (h : num * 2 ^ 1074 ≤ overflowBound * den) : nearest num den < infinity := by
  have := nearest_mono hd (Nat.two_pow_pos 1074) h
  rw [nearest_overflowBound] at this
  exact this.trans_lt (by decide)

end NearestHost.Double
