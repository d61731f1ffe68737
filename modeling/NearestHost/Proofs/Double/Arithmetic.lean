/-
  Sums and products of doubles.

  An operation on finite doubles gives the double nearest to the exact result:
  this is `Rounds`, for a result that is `v / d` units.

  * `add_rounds`, `sub_rounds`, `mul_rounds`: the operations.
  * `Rounds.isFinite`: no overflow up to the greatest finite value.
  * `Rounds.value_mono`: a greater result is not rounded to a smaller double.
-/
import NearestHost.Proofs.Double.Order

namespace NearestHost.Double

open Float.Model Float.Model.UnpackedFloat

theorem nearest_zero {den : Nat} (hd : 0 < den) : nearest 0 den = 0 :=
  Nat.le_zero.1 (nearest_le hd (Nat.zero_le _) (by simp only [Nat.zero_mul, units_zero, le_refl]))

/-- A double is the one nearest to `v / d` units. -/
structure Rounds (z : Float) (v : Int) (d : Nat) : Prop where
  magnitude_eq : magnitude z = nearest v.natAbs d
  sign : v ≠ 0 → isNegative z = decide (v < 0)

theorem natAbs_signed (s : Bool) (a : Nat) : (signed s a).natAbs = units a := by
  cases s <;> simp [signed]

theorem signed_zero (s : Bool) : signed s 0 = 0 := by cases s <;> rfl

theorem signed_not (s : Bool) (a : Nat) : signed (!s) a = -signed s a := by
  cases s <;> simp [signed]

theorem signed_neg_iff {s : Bool} {a : Nat} (h : signed s a ≠ 0) : decide (signed s a < 0) = s := by
  cases s
  · simp [signed]
  · simp only [signed, if_true, decide_eq_true_eq] at h ⊢; omega

section Reading

variable {s t : Bool} {a b : Nat} {u v : UnpackedFloat}

theorem Reading.packed_eq (h : Reading s a u) (ha : a ≤ infinity) :
    magnitude (packed u) = a ∧ isNegative (packed u) = s := by
  cases h with
  | nan h => omega
  | infinite => exact packed_infinity s
  | zero => exact packed_zero s
  | @finite p m hm h hpos hfin =>
    have := packed_finite s hm h hpos
    rwa [min_eq_right hfin.le] at this

/-- A double has the sign and the word it is made of. -/
theorem words_ofMagnitude (s : Bool) (ha : a ≤ infinity) :
    magnitude (ofMagnitude s a) = a ∧ isNegative (ofMagnitude s a) = s := by
  have hinf : infinity < 2 ^ 63 := by decide
  have hbits : (UInt64.ofNat ((if s then 2 ^ 63 else 0) + a)).toBitVec.toNat =
      (if s then 2 ^ 63 else 0) + a := by
    rw [UInt64.toNat_toBitVec, UInt64.toNat_ofNat']
    refine Nat.mod_eq_of_lt ?_
    split <;> omega
  have h := reading_unpack (UInt64.ofNat ((if s then 2 ^ 63 else 0) + a)).toBitVec
  rw [hbits] at h
  have hword : ((if s then 2 ^ 63 else 0) + a) % 2 ^ 63 = a := by split <;> omega
  have hsign : decide (2 ^ 63 ≤ (if s then 2 ^ 63 else 0) + a) = s := by
    cases s
    · exact decide_eq_false (by simp only [Bool.false_eq_true, if_false]; omega)
    · exact decide_eq_true (by simp only [if_true]; omega)
  rw [hword, hsign] at h
  exact h.packed_eq ha

theorem Reading.rounds (h : Reading s a u) (ha : a < infinity) :
    Rounds (packed u) (signed s a) (2 ^ 1074) := by
  obtain ⟨hm, hs⟩ := h.packed_eq ha.le
  exact ⟨by rw [natAbs_signed, nearest_units ha.le, hm], fun h0 => by rw [hs, signed_neg_iff h0]⟩

theorem Rounds.zero {d : Nat} (hd : 0 < d) : Rounds (packed (.zero (signOf s))) 0 d := by
  refine ⟨?_, fun h0 => absurd rfl h0⟩
  rw [Int.natAbs_zero, nearest_zero hd]
  exact (packed_zero s).1

theorem signOf_not : signOf (!s) = -signOf s := by cases s <;> rfl

theorem signOf_xor : signOf (s ^^ t) = signOf s * signOf t := by cases s <;> cases t <;> rfl

theorem Reading.neg (h : Reading s a u) : Reading (!s) a u.neg := by
  cases h with
  | nan h => exact .nan h
  | infinite =>
    change Reading (!s) infinity (.infinity (-signOf s))
    rw [← signOf_not]; exact .infinite
  | zero =>
    change Reading (!s) 0 (.zero (-signOf s))
    rw [← signOf_not]; exact .zero
  | finite hm h hpos hfin =>
    change Reading (!s) _ (.finite (-signOf s) _ _ hpos)
    rw [← signOf_not]; exact .finite hm h hpos hfin

theorem Reading.abs (h : Reading s a u) : Reading false a u.abs := by
  cases h with
  | nan h => exact .nan h
  | infinite => exact .infinite
  | zero => exact .zero
  | finite hm h hpos hfin => exact .finite hm h hpos hfin

/-- The value of a sum is rounded to the nearest double. -/
theorem packed_normalize {v : Int} {k : Nat} {e : Int} (he : e + 1074 = k) :
    Rounds (packed (UnpackedFloat.normalize .binary64 v e .positive)) (v * 2 ^ k) (2 ^ 1074) := by
  have hk : (0 : Int) < 2 ^ k := by positivity
  have habs : (v * 2 ^ k).natAbs = v.natAbs * 2 ^ k := by rw [Int.natAbs_mul]; simp
  rcases lt_trichotomy v 0 with h | rfl | h
  · obtain ⟨hm, hs⟩ := packed_round true (m := (-v).toNat) (by omega) he
    have hu : UnpackedFloat.normalize .binary64 v e .positive =
        UnpackedFloat.round .binary64 (signOf true) (-v).toNat e := by
      rw [UnpackedFloat.normalize, compare_lt_iff_lt.2 h]; rfl
    refine ⟨?_, fun _ => ?_⟩
    · rw [hu, hm, habs, show v.natAbs = (-v).toNat by omega]
    · rw [hu, hs, eq_comm, decide_eq_true_iff]; exact Int.mul_neg_of_neg_of_pos h hk
  · have hu : UnpackedFloat.normalize .binary64 0 e .positive = .zero (signOf false) := rfl
    rw [hu, Int.zero_mul]
    exact .zero (Nat.two_pow_pos 1074)
  · obtain ⟨hm, hs⟩ := packed_round false (m := v.toNat) (by omega) he
    have hu : UnpackedFloat.normalize .binary64 v e .positive =
        UnpackedFloat.round .binary64 (signOf false) v.toNat e := by
      rw [UnpackedFloat.normalize, compare_gt_iff_gt.2 h]; rfl
    refine ⟨?_, fun _ => ?_⟩
    · rw [hu, hm, habs, show v.natAbs = v.toNat by omega]
    · rw [hu, hs, eq_comm, decide_eq_false_iff_not, Int.not_lt]; exact (Int.mul_pos h hk).le

/-- The value of a mantissa that is moved to a smaller exponent. -/
theorem apply_decreaseExponent (s : Bool) {m p k : Nat} (hm : m < 2 ^ 53) (h : 2 ^ 52 ≤ m ∨ p = 0)
    (hk : k ≤ p) :
    (signOf s).apply ((decreaseExponent m (p - 1074) (k - 1074)).1 : Nat) * 2 ^ k =
      signed s (p * 2 ^ 52 + m) := by
  have hshift : ((p : Int) - 1074 - (k - 1074)).toNat = p - k := by omega
  have hval : m <<< (p - k) * 2 ^ k = m * 2 ^ p := by
    rw [Nat.shiftLeft_eq, Nat.mul_assoc, ← Nat.pow_add, Nat.sub_add_cancel hk]
  rw [decreaseExponent, hshift, signed, units_word hm.le h, ← hval]
  cases s
  · simp only [signOf, Bool.false_eq_true, if_false, Sign.apply]; push_cast; rfl
  · simp only [signOf, if_true, Sign.apply]; push_cast; ring

theorem Reading.add (hu : Reading s a u) (hv : Reading t b v) (ha : a < infinity)
    (hb : b < infinity) :
    Rounds (packed (UnpackedFloat.add .binary64 u v)) (signed s a + signed t b) (2 ^ 1074) := by
  have hl := hu.rounds ha
  cases hu with
  | nan h => omega
  | infinite => omega
  | zero =>
    rw [signed_zero, Int.zero_add]
    have hr := hv.rounds hb
    cases hv with
    | nan h => omega
    | infinite => omega
    | zero =>
      have hsum : UnpackedFloat.add .binary64 (.zero (signOf s)) (.zero (signOf t)) =
          .zero (signOf (s && t)) := by cases s <;> cases t <;> rfl
      rw [signed_zero, hsum]
      exact .zero (Nat.two_pow_pos 1074)
    | finite hm h hpos hfin => exact hr
  | @finite p m hm h hpos hfin =>
    cases hv with
    | nan h => omega
    | infinite => omega
    | zero =>
      rw [signed_zero, Int.add_zero]
      exact hl
    | @finite q n hn h' hpos' hfin' =>
      obtain ⟨k, hk⟩ : ∃ k, k = min p q := ⟨_, rfl⟩
      have hmin : min ((p : Int) - 1074) (q - 1074) = (k : Int) - 1074 := by omega
      rw [← apply_decreaseExponent s hm h (show k ≤ p by omega),
        ← apply_decreaseExponent t hn h' (show k ≤ q by omega), ← Int.add_mul, ← hmin]
      exact packed_normalize (by omega)

/-- Subtracting is adding the negation. -/
theorem sub_eq_add_neg (u v : UnpackedFloat) :
    UnpackedFloat.sub .binary64 u v = UnpackedFloat.add .binary64 u v.neg := by
  have happly (r : Sign) (n : Int) : -r.apply n = (-r).apply n := by
    cases r
    · exact Int.neg_neg n
    · rfl
  cases u <;> cases v
  case finite.finite s m e hm t n f hn =>
    have h (k l : Nat) : s.apply k - t.apply l = s.apply k + (-t).apply l := by
      rw [Int.sub_eq_add_neg, happly]
    exact congrArg (fun v => UnpackedFloat.normalize .binary64 v (min e f) .positive) (h _ _)
  all_goals rfl

/-- No bits have to be added to the product of two mantissas. -/
theorem mul_le_targetExponent {p m q n : Nat} (hm : 0 < m) (hn : 0 < n) (h : 2 ^ 52 ≤ m ∨ p = 0)
    (h' : 2 ^ 52 ≤ n ∨ q = 0) :
    (p : Int) - 1074 + (q - 1074) ≤
      Format.binary64.targetExponent (totalExponent (m * n) (p - 1074 + (q - 1074))) := by
  have hlog : 52 ≤ (m * n).log2 ∨ p = 0 ∧ q = 0 := by
    rw [Nat.le_log2 (Nat.mul_pos hm hn).ne']
    rcases h with h | hp
    · exact Or.inl (h.trans (Nat.le_mul_of_pos_right m hn))
    · rcases h' with h' | hq
      · exact Or.inl (h'.trans (Nat.le_mul_of_pos_left n hm))
      · exact Or.inr ⟨hp, hq⟩
  rw [targetExponent_eq, totalExponent]
  omega

/-- A product is negative where one factor is. -/
theorem decide_mul_neg {x y : Int} (hx : x ≠ 0) (hy : y ≠ 0) :
    decide (x * y < 0) = (decide (x < 0) ^^ decide (y < 0)) := by
  rcases lt_or_gt_of_ne hx with hx | hx <;> rcases lt_or_gt_of_ne hy with hy | hy <;>
    simp [mul_neg_iff, hx, hy, hx.not_gt, hy.not_gt]

theorem xor_eq_decide (h : signed s a * signed t b ≠ 0) :
    (s ^^ t) = decide (signed s a * signed t b < 0) := by
  have ha := left_ne_zero_of_mul h
  have hb := right_ne_zero_of_mul h
  rw [decide_mul_neg ha hb, signed_neg_iff ha, signed_neg_iff hb]

theorem Reading.mul (hu : Reading s a u) (hv : Reading t b v) (ha : a < infinity)
    (hb : b < infinity) :
    Rounds (packed (UnpackedFloat.mul .binary64 u v)) (signed s a * signed t b) (2 ^ 2148) := by
  have hzero : Rounds (packed (.zero (signOf s * signOf t))) 0 (2 ^ 2148) := by
    rw [← signOf_xor]; exact .zero (Nat.two_pow_pos 2148)
  cases hu with
  | nan h => omega
  | infinite => omega
  | zero =>
    rw [signed_zero, Int.zero_mul]
    cases hv with
    | nan h => omega
    | infinite => omega
    | zero => exact hzero
    | finite hm h hpos hfin => exact hzero
  | @finite p m hm h hpos hfin =>
    cases hv with
    | nan h => omega
    | infinite => omega
    | zero =>
      rw [signed_zero, Int.mul_zero]
      exact hzero
    | @finite q n hn h' hpos' hfin' =>
      have hexp : ((p : Int) - 1074 + (q - 1074)) + (2148 : Nat) = (p + q : Nat) := by omega
      obtain ⟨hmag, hsign⟩ := packed_roundWithAccuracy (s ^^ t) (Nat.mul_pos hpos hpos') hexp
        (mul_le_targetExponent hpos hpos' h h')
      rw [signOf_xor] at hmag hsign
      have hval : m * n * 2 ^ (p + q) =
          (signed s (p * 2 ^ 52 + m) * signed t (q * 2 ^ 52 + n)).natAbs := by
        rw [Int.natAbs_mul, natAbs_signed, natAbs_signed, units_word hm.le h, units_word hn.le h',
          Nat.pow_add, Nat.mul_mul_mul_comm]
      exact ⟨hmag.trans (by rw [hval]), fun h0 => hsign.trans (xor_eq_decide h0)⟩

end Reading

/-! ## The operations -/

variable {x y : Float}

/-- **A sum is the nearest to the sum of the values.** -/
theorem add_rounds (hx : isFinite x) (hy : isFinite y) :
    Rounds (x + y) (value x + value y) (2 ^ 1074) :=
  (reading x).add (reading y) (isFinite_iff.1 hx) (isFinite_iff.1 hy)

/-- **A difference is the nearest to the difference of the values.** -/
theorem sub_rounds (hx : isFinite x) (hy : isFinite y) :
    Rounds (x - y) (value x - value y) (2 ^ 1074) := by
  have h := (reading x).add (reading y).neg (isFinite_iff.1 hx) (isFinite_iff.1 hy)
  rw [← sub_eq_add_neg, signed_not] at h
  exact h

/-- **A product is the nearest to the product of the values.** -/
theorem mul_rounds (hx : isFinite x) (hy : isFinite y) :
    Rounds (x * y) (value x * value y) (2 ^ 2148) :=
  (reading x).mul (reading y) (isFinite_iff.1 hx) (isFinite_iff.1 hy)

theorem magnitude_abs (hx : isNaN x = false) : magnitude x.abs = magnitude x :=
  ((reading x).abs.packed_eq (isNaN_eq_false.1 hx)).1

/-! ## Bounds -/

theorem natAbs_value (x : Float) : (value x).natAbs = units (magnitude x) := natAbs_signed _ _

theorem isFinite_of_below {x : Float} (hpos : ¬ x < 0) (h : x < ofMagnitude false infinity) :
    isFinite x = true := by
  obtain ⟨hnan, -, hvalue⟩ := lt_iff.1 h
  have hnonneg := (le_iff.1 ((not_lt hnan rfl).1 hpos)).2.2
  have hzero : value 0 = 0 := rfl
  have hinfinity : value (ofMagnitude false infinity) = units infinity := rfl
  have hx := natAbs_value x
  rw [hzero] at hnonneg
  rw [hinfinity] at hvalue
  exact isFinite_iff.2 (units_lt_units.1 (by omega))

section Rounds

variable {z : Float} {v : Int} {d : Nat}

theorem Rounds.isNaN (h : Rounds z v d) : isNaN z = false :=
  isNaN_eq_false.2 (h.magnitude_eq.trans_le (nearest_le_infinity _ _))

/-- A result that does not reach the end of the range is finite. -/
theorem Rounds.isFinite (h : Rounds z v d) (hd : 0 < d)
    (hv : v.natAbs * 2 ^ 1074 ≤ overflowBound * d) : isFinite z = true :=
  isFinite_iff.2 (h.magnitude_eq.trans_lt (nearest_lt_infinity hd hv))

theorem Rounds.isFinite_of_le (h : Rounds z v (2 ^ 1074)) (hv : v.natAbs ≤ overflowBound) :
    Double.isFinite z = true := by
  refine h.isFinite (Nat.two_pow_pos 1074) ?_
  generalize 2 ^ 1074 = u
  exact Nat.mul_le_mul_right u hv

theorem Rounds.magnitude_le (h : Rounds z v d) (hd : 0 < d) {b : Nat} (hb : b ≤ infinity)
    (hv : v.natAbs * 2 ^ 1074 ≤ units b * d) : magnitude z ≤ b :=
  h.magnitude_eq.trans_le (nearest_le hd hb hv)

theorem Rounds.value_eq (h : Rounds z v d) (hd : 0 < d) (hv : 0 ≤ v) :
    value z = units (nearest v.natAbs d) := by
  rcases hv.lt_or_eq with hpos | rfl
  · have hs : isNegative z = false := by rw [h.sign hpos.ne', decide_eq_false hv.not_gt]
    rw [value_of_not_neg hs, h.magnitude_eq]
  · rw [value, h.magnitude_eq, Int.natAbs_zero, nearest_zero hd, signed_zero]; rfl

theorem Rounds.value_nonneg (h : Rounds z v d) (hd : 0 < d) (hv : 0 ≤ v) : 0 ≤ value z := by
  rw [h.value_eq hd hv]; exact Int.natCast_nonneg _

/-- **A greater result is not rounded to a smaller double.** -/
theorem Rounds.value_mono {z' : Float} {v' : Int} (h : Rounds z v d) (h' : Rounds z' v' d)
    (hd : 0 < d) (hv : 0 ≤ v) (hle : v ≤ v') : value z ≤ value z' := by
  rw [h.value_eq hd hv, h'.value_eq hd (hv.trans hle)]
  have : nearest v.natAbs d ≤ nearest v'.natAbs d :=
    nearest_mono hd hd (Nat.mul_le_mul_right d (by omega))
  exact_mod_cast units_le_units.2 this

end Rounds

theorem two_pow_eq_mul {a b c : Nat} (h : c = a + b) : 2 ^ c = 2 ^ a * 2 ^ b := by
  rw [h, Nat.pow_add]

/-- The word of the number one. -/
def one : Nat := 1023 * 2 ^ 52

theorem units_one : units one = 2 ^ 1074 := by
  have h := units_word (p := 1022) (m := 2 ^ 52) (by decide) (Or.inl le_rfl)
  have he := two_pow_eq_mul (a := 52) (b := 1022) (c := 1074) rfl
  exact h.trans he.symm

/-- A product with a factor of at most one is at most the other factor. -/
theorem magnitude_mul_le (hx : isFinite x) (hy : magnitude y ≤ one) :
    magnitude (x * y) ≤ magnitude x := by
  have hy' : isFinite y := isFinite_iff.2 (hy.trans_lt (by decide))
  refine (mul_rounds hx hy').magnitude_le (Nat.two_pow_pos 2148) (isFinite_iff.1 hx).le ?_
  have hone := units_le_units.2 hy
  have hd := two_pow_eq_mul (a := 1074) (b := 1074) (c := 2148) rfl
  rw [units_one] at hone
  rw [Int.natAbs_mul, natAbs_value, natAbs_value, Nat.mul_assoc, hd]
  generalize 2 ^ 1074 = u at hone ⊢
  exact Nat.mul_le_mul_left _ (Nat.mul_le_mul_right u hone)

end NearestHost.Double
