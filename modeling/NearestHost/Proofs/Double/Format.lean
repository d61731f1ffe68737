/-
  Doubles as words, and their packing.

  The logical model of a double unpacks its bits into a sign, a mantissa and an
  exponent, computes on these, rounds, and packs the result.  Each step is put
  here in terms of words.

  * `reading`: what the bits of a double are unpacked into.
  * `packed_ofMantissa`: the word that an unpacked double is packed into.
  * `packed_roundWithAccuracy`, `packed_round`: rounding gives the nearest word.
-/
import NearestHost.Proofs.Double.Rounding

namespace NearestHost.Double

open Float.Model Float.Model.UnpackedFloat

/-- The sign of a sign bit. -/
def signOf (negative : Bool) : Sign := if negative then .negative else .positive

/-- What a sign bit and a magnitude word stand for. -/
inductive Reading (negative : Bool) : Nat → UnpackedFloat → Prop
  | nan {b : Nat} (h : infinity < b) : Reading negative b .notANumber
  | infinite : Reading negative infinity (.infinity (signOf negative))
  | zero : Reading negative 0 (.zero (signOf negative))
  | finite {p m : Nat} (hm : m < 2 ^ 53) (h : 2 ^ 52 ≤ m ∨ p = 0) (hpos : 0 < m)
      (hfin : p * 2 ^ 52 + m < infinity) :
      Reading negative (p * 2 ^ 52 + m) (.finite (signOf negative) m (p - 1074) hpos)

/-! ## Unpacking -/

section Unpacking

variable (b : BitVec 64)

theorem toNat_unpackMantissa : (@unpackMantissa .binary64 b).toNat = b.toNat % 2 ^ 52 := by
  have h : (@unpackMantissa .binary64 b).toNat = (b.extractLsb 51 0).toNat := rfl
  rw [h, BitVec.extractLsb_toNat]; rfl

theorem toNat_unpackExponent :
    (@unpackExponent .binary64 b).toNat = b.toNat / 2 ^ 52 % 2 ^ 11 := by
  have h : (@unpackExponent .binary64 b).toNat = (b.extractLsb 62 52).toNat := rfl
  rw [h, BitVec.extractLsb_toNat, Nat.shiftRight_eq_div_pow]

theorem toNat_unpackSign : (@unpackSign .binary64 b).toNat = b.toNat / 2 ^ 63 := by
  have h : (@unpackSign .binary64 b).toNat = (b.extractLsb 63 63).toNat := rfl
  have hlt := b.isLt
  rw [h, BitVec.extractLsb_toNat, Nat.shiftRight_eq_div_pow]
  omega

theorem ofBitVec_unpackSign :
    Sign.ofBitVec (@unpackSign .binary64 b) = signOf (2 ^ 63 ≤ b.toNat) := by
  have hs := toNat_unpackSign b
  have hlt := b.isLt
  by_cases h : 2 ^ 63 ≤ b.toNat
  · have hne : @unpackSign .binary64 b ≠ 0#1 := by
      intro h0
      rw [h0, BitVec.toNat_ofNat] at hs; omega
    rw [Sign.ofBitVec, if_neg hne, decide_eq_true h]; rfl
  · have heq : @unpackSign .binary64 b = 0#1 := by
      refine BitVec.eq_of_toNat_eq ?_
      rw [hs, BitVec.toNat_ofNat]; omega
    rw [Sign.ofBitVec, if_pos heq, decide_eq_false h]; rfl

end Unpacking

/-- The fields of a finite double are the exponent and the significand of its word. -/
theorem Reading.of_eq {negative : Bool} {p m b : Nat} {e : Int} (hm : m < 2 ^ 53)
    (h : 2 ^ 52 ≤ m ∨ p = 0) (hpos : 0 < m) (hfin : b < infinity)
    (hb : b = p * 2 ^ 52 + m) (he : e = p - 1074) :
    Reading negative b (.finite (signOf negative) m e hpos) := by
  subst hb he
  exact .finite hm h hpos hfin

theorem toNat_one_append (m : BitVec 52) : (1#1 ++ m).toNat = 2 ^ 52 + m.toNat := by
  rw [BitVec.toNat_append, ← Nat.shiftLeft_add_eq_or_of_lt m.isLt]; rfl

/-- **What the bits of a double are unpacked into.** -/
theorem reading_unpack (b : BitVec 64) : Reading (2 ^ 63 ≤ b.toNat) (b.toNat % 2 ^ 63)
    (UnpackedFloat.unpack .binary64 b) := by
  have hmag : b.toNat % 2 ^ 63 =
      (@unpackExponent .binary64 b).toNat * 2 ^ 52 + (@unpackMantissa .binary64 b).toNat := by
    rw [toNat_unpackExponent, toNat_unpackMantissa]; have := b.isLt; omega
  have he : (@unpackExponent .binary64 b).toNat < 2 ^ 11 := BitVec.isLt _
  have hm : (@unpackMantissa .binary64 b).toNat < 2 ^ 52 := BitVec.isLt _
  have hbias : Format.binary64.exponentBias = 1023 := rfl
  unfold UnpackedFloat.unpack
  dsimp only
  rw [hmag, ofBitVec_unpackSign]
  by_cases h₁ : @unpackExponent .binary64 b = -1#11
  · have hones : (@unpackExponent .binary64 b).toNat = 2047 := congrArg BitVec.toNat h₁
    rw [if_pos h₁]
    by_cases h₂ : @unpackMantissa .binary64 b = 0#52
    · rw [if_pos h₂, h₁, h₂]; exact .infinite
    · rw [if_neg h₂]
      refine .nan ?_
      have hne : (@unpackMantissa .binary64 b).toNat ≠ 0 := fun h => h₂ (BitVec.eq_of_toNat_eq h)
      unfold infinity
      omega
  rw [if_neg h₁]
  by_cases h₃ : @unpackExponent .binary64 b = 0#11
  · have hzero : (@unpackExponent .binary64 b).toNat = 0 := congrArg BitVec.toNat h₃
    rw [if_pos h₃]
    by_cases h₄ : @unpackMantissa .binary64 b = 0#52
    · rw [dif_pos h₄, h₃, h₄]; exact .zero
    · rw [dif_neg h₄]
      refine .of_eq (p := 0) (by omega) (Or.inr rfl) _ ?_ (by omega) (by omega)
      unfold infinity; omega
  · have hzero : (@unpackExponent .binary64 b).toNat ≠ 0 := fun h => h₃ (BitVec.eq_of_toNat_eq h)
    have hones : (@unpackExponent .binary64 b).toNat ≠ 2047 :=
      fun h => h₁ (BitVec.eq_of_toNat_eq h)
    have happ := toNat_one_append (@unpackMantissa .binary64 b)
    rw [if_neg h₃]
    refine .of_eq (p := (@unpackExponent .binary64 b).toNat - 1) ?_ (Or.inl ?_) _ ?_ ?_ (by omega)
    · rw [happ]; omega
    · rw [happ]; omega
    · unfold infinity; omega
    · rw [happ]; omega

theorem reading (x : Float) : Reading (isNegative x) (magnitude x) x.toModel.unpack :=
  reading_unpack x.toModel.toBits.toBitVec

/-! ## Packing -/

/-- The double that an unpacked one is packed into. -/
def packed (u : UnpackedFloat) : Float := .ofModel (.pack u)

theorem toNat_packComponents (s : Sign) (e : BitVec 11) (m : BitVec 52) :
    (packComponents .binary64 s e m).toNat =
      s.toBitVec.toNat * 2 ^ 63 + e.toNat * 2 ^ 52 + m.toNat := by
  have he := e.isLt
  have hm := m.isLt
  unfold packComponents
  rw [BitVec.toNat_append, BitVec.toNat_append, ← Nat.shiftLeft_add_eq_or_of_lt hm,
    ← Nat.shiftLeft_add_eq_or_of_lt he, Nat.shiftLeft_eq, Nat.shiftLeft_eq]
  omega

theorem packComponents_spec {u : UnpackedFloat} {negative : Bool} {e : BitVec 11} {m : BitVec 52}
    (h : UnpackedFloat.pack .binary64 u = packComponents .binary64 (signOf negative) e m) :
    magnitude (packed u) = e.toNat * 2 ^ 52 + m.toNat ∧ isNegative (packed u) = negative := by
  have hw : (packed u).toBits.toNat = (UnpackedFloat.pack .binary64 u).toNat := rfl
  have he := e.isLt
  have hm := m.isLt
  rw [magnitude, isNegative, hw, h, toNat_packComponents]
  cases negative
  · have : (signOf false).toBitVec.toNat = 0 := rfl
    exact ⟨by omega, by simp; omega⟩
  · have : (signOf true).toBitVec.toNat = 1 := rfl
    exact ⟨by omega, by simp; omega⟩

theorem packed_infinity (negative : Bool) :
    magnitude (packed (.infinity (signOf negative))) = infinity ∧
      isNegative (packed (.infinity (signOf negative))) = negative :=
  have h := packComponents_spec (u := .infinity (signOf negative)) (e := -1#11) (m := 0#52) rfl
  ⟨h.1.trans (by decide), h.2⟩

theorem packed_zero (negative : Bool) :
    magnitude (packed (.zero (signOf negative))) = 0 ∧
      isNegative (packed (.zero (signOf negative))) = negative :=
  packComponents_spec (u := .zero (signOf negative)) (e := 0#11) (m := 0#52) rfl

theorem pack_finite (s : Sign) {m : Nat} (e : Int) (hpos : 0 < m) :
    UnpackedFloat.pack .binary64 (.finite s m e hpos) =
      if 2 ^ 11 ≤ (e + 1023 + 52).toNat + 1 then packComponents .binary64 s (-1#11) 0#52
      else if m.log2 + 1 = 53 then
        packComponents .binary64 s (BitVec.ofNat 11 (e + 1023 + 52).toNat) (BitVec.ofNat 52 m)
      else packComponents .binary64 s 0#11 (BitVec.ofNat 52 m) := rfl

theorem packed_finite (negative : Bool) {p m : Nat} (hm : m < 2 ^ 53) (h : 2 ^ 52 ≤ m ∨ p = 0)
    (hpos : 0 < m) :
    magnitude (packed (.finite (signOf negative) m (p - 1074) hpos)) =
        min infinity (p * 2 ^ 52 + m) ∧
      isNegative (packed (.finite (signOf negative) m (p - 1074) hpos)) = negative := by
  have hpack := pack_finite (signOf negative) (p - 1074) hpos
  have hexp : ((p : Int) - 1074 + 1023 + 52).toNat = p + 1 := by omega
  have hlog : m.log2 + 1 = 53 ↔ 2 ^ 52 ≤ m := by
    rw [← Nat.le_log2 hpos.ne', Nat.succ_inj]
    have := (Nat.log2_lt hpos.ne').2 hm
    omega
  rw [hexp] at hpack
  have hfield : (BitVec.ofNat 52 m).toNat = m % 2 ^ 52 := rfl
  unfold infinity
  by_cases hbig : 2 ^ 11 ≤ p + 1 + 1
  · rw [if_pos hbig] at hpack
    refine (packComponents_spec hpack).imp_left fun hmag => ?_
    have hones : (-1#11).toNat = 2047 := rfl
    have hzero : (0#52).toNat = 0 := rfl
    rw [hmag, hones, hzero]
    omega
  rw [if_neg hbig] at hpack
  by_cases hnormal : m.log2 + 1 = 53
  · rw [if_pos hnormal] at hpack
    refine (packComponents_spec hpack).imp_left fun hmag => ?_
    have hle := hlog.1 hnormal
    rw [hmag, hfield, BitVec.toNat_ofNat, Nat.mod_eq_of_lt (by omega)]
    omega
  · rw [if_neg hnormal] at hpack
    refine (packComponents_spec hpack).imp_left fun hmag => ?_
    have hzero : (0#11).toNat = 0 := rfl
    have hsmall := hlog.not.1 hnormal
    rw [hmag, hfield, hzero]
    omega

/-! ## Rounding -/

/-- What the bits beyond the mantissa say about a quotient by `2 ^ n`. -/
structure Residual (m n : Nat) (em : ExtendedMantissa) : Prop where
  mantissa : em.mantissa = m / 2 ^ n
  round : em.roundBit = true ↔ 2 ^ n ≤ 2 * (m % 2 ^ n)
  sticky : em.stickyBit = true ↔ m % 2 ^ n ≠ 0 ∧ 2 * (m % 2 ^ n) ≠ 2 ^ n

theorem Residual.shiftRightOne {m n : Nat} {em : ExtendedMantissa} (h : Residual m n em) :
    Residual m (n + 1) em.shiftRightOne := by
  have hpos := Nat.two_pow_pos n
  have hlt := Nat.mod_lt m hpos
  have hmod : m % 2 ^ (n + 1) = m % 2 ^ n + 2 ^ n * (m / 2 ^ n % 2) := by
    rw [Nat.pow_succ, Nat.mod_mul]
  have hbit := Nat.mod_two_eq_zero_or_one (m / 2 ^ n)
  constructor
  · rw [ExtendedMantissa.shiftRightOne, h.mantissa, Nat.div_div_eq_div_mul, Nat.pow_succ]
  · rw [ExtendedMantissa.shiftRightOne, h.mantissa, hmod]
    rcases hbit with hb | hb <;> simp [hb] <;> omega
  · rw [ExtendedMantissa.shiftRightOne, hmod]
    rcases hbit with hb | hb <;> simp [hb, h.round, h.sticky] <;> omega

theorem residual_shiftRight (m n : Nat) :
    Residual m n (ExtendedMantissa.ofMantissaAndAccuracy m .exact >>> n) := by
  change Residual m n (n.repeat ExtendedMantissa.shiftRightOne _)
  induction n with
  | zero =>
    constructor
    · exact (Nat.div_one m).symm
    · simp [Nat.repeat, ExtendedMantissa.ofMantissaAndAccuracy, Nat.mod_one]
    · simp [Nat.repeat, ExtendedMantissa.ofMantissaAndAccuracy, Nat.mod_one]
  | succ n ih => exact ih.shiftRightOne

theorem Residual.roundedMantissa {m n : Nat} {em : ExtendedMantissa} (h : Residual m n em) :
    em.roundedMantissa = roundHalfEven m (2 ^ n) := by
  obtain ⟨q, r, s⟩ := em
  obtain ⟨rfl, hr, hs⟩ := h
  have hlt := Nat.mod_lt m (Nat.two_pow_pos n)
  unfold roundHalfEven
  have hbit := Nat.mod_two_eq_zero_or_one (m / 2 ^ n)
  -- the two bits are the order of the remainder and half the divisor
  cases r <;> cases s <;> simp only [Bool.false_eq_true, false_iff, true_iff] at hr hs
  · show m / 2 ^ n = _
    rw [if_pos]; omega
  · show m / 2 ^ n = _
    rw [if_pos]; omega
  · show m / 2 ^ n + m / 2 ^ n % 2 = _
    split <;> omega
  · show m / 2 ^ n + 1 = _
    rw [if_neg]; omega

theorem targetExponent_eq (e : Int) : Format.binary64.targetExponent e = max (e - 53) (-1074) := rfl

/-- How far a mantissa is shifted, and where this leaves it. -/
theorem targetExponent_spec {m p n : Nat} {e : Int} (hpos : 0 < m) (hn : e + n = p - 1074)
    (hp : Format.binary64.targetExponent (totalExponent m e) = p - 1074) :
    m < 2 ^ (53 + n) ∧ (2 ^ (52 + n) ≤ m ∨ p = 0) := by
  have hlo := Nat.log2_self_le hpos.ne'
  have hhi := Nat.lt_log2_self (n := m)
  rw [targetExponent_eq, totalExponent] at hp
  refine ⟨hhi.trans_le (Nat.pow_le_pow_right (by decide) (by omega)), ?_⟩
  rcases Nat.eq_zero_or_pos p with h0 | h0
  · exact Or.inr h0
  · exact Or.inl ((Nat.pow_le_pow_right (by decide) (by omega)).trans hlo)

/-- The zero of a sign, or a finite double. -/
def ofMantissa (negative : Bool) (m : Nat) (e : Int) : UnpackedFloat :=
  if h : m = 0 then .zero (signOf negative)
  else .finite (signOf negative) m e (Nat.pos_of_ne_zero h)

theorem packed_ofMantissa (negative : Bool) {p m : Nat} (hm : m < 2 ^ 53)
    (h : 2 ^ 52 ≤ m ∨ p = 0) :
    magnitude (packed (ofMantissa negative m (p - 1074))) = min infinity (p * 2 ^ 52 + m) ∧
      isNegative (packed (ofMantissa negative m (p - 1074))) = negative := by
  by_cases h0 : m = 0
  · obtain rfl := h.resolve_left (by omega)
    rw [ofMantissa, dif_pos h0, h0]
    exact packed_zero negative
  · rw [ofMantissa, dif_neg h0]
    exact packed_finite negative hm h _

/-- A rounded mantissa has at most 53 bits, or is `2 ^ 53` and fits after one more shift. -/
theorem packed_shifted (negative : Bool) {r p : Nat} (hr : r ≤ 2 ^ 53) (h : 2 ^ 52 ≤ r ∨ p = 0) :
    let s := shiftToTargetExponent .binary64 r (p - 1074) .exact
    magnitude (packed (ofMantissa negative s.1.mantissa s.2)) = min infinity (p * 2 ^ 52 + r) ∧
      isNegative (packed (ofMantissa negative s.1.mantissa s.2)) = negative := by
  intro s
  have hs : s = shiftToExponent r (p - 1074) .exact (max (r.log2 + 1 + (p - 1074) - 53) (-1074)) :=
    rfl
  rcases Nat.lt_or_eq_of_le hr with hlt | rfl
  · have hlog : r.log2 < 53 := by
      rcases Nat.eq_zero_or_pos r with rfl | hpos
      · decide
      · exact (Nat.log2_lt hpos.ne').2 hlt
    have hshift : (max ((r.log2 : Int) + 1 + (p - 1074) - 53) (-1074) - (p - 1074)).toNat = 0 := by
      omega
    rw [hs, shiftToExponent, hshift]
    simp only [(residual_shiftRight r 0).mantissa, Nat.pow_zero, Nat.div_one, Nat.cast_zero,
      add_zero]
    exact packed_ofMantissa negative hlt h
  · have hlog : Nat.log2 (2 ^ 53) = 53 := Nat.log2_two_pow
    have hshift : (max (((2 ^ 53 : Nat).log2 : Int) + 1 + (p - 1074) - 53) (-1074) -
        (p - 1074)).toNat = 1 := by
      rw [hlog]; omega
    have hexp : (p : Int) - 1074 + (1 : Nat) = (p + 1 : Nat) - 1074 := by omega
    have hword : p * 2 ^ 52 + 2 ^ 53 = (p + 1) * 2 ^ 52 + 2 ^ 52 := by omega
    rw [hs, shiftToExponent, hshift]
    simp only [(residual_shiftRight (2 ^ 53) 1).mantissa, hexp, hword]
    exact packed_ofMantissa negative (by decide) (Or.inl le_rfl)

/-- A mantissa is shifted and rounded, and what this gives is shifted once more. -/
theorem roundWithAccuracy_eq (negative : Bool) (m : Nat) (e : Int) :
    roundWithAccuracy .binary64 (signOf negative) m e .exact =
      let first := shiftToTargetExponent .binary64 m e .exact
      let s := shiftToTargetExponent .binary64 first.1.roundedMantissa first.2 .exact
      ofMantissa negative s.1.mantissa s.2 := rfl

/-- **Rounding an unpacked double gives the nearest word**, where no bits have to be added to its
    mantissa. -/
theorem packed_roundWithAccuracy (negative : Bool) {m k d : Nat} {e : Int} (hpos : 0 < m)
    (he : e + d = k) (hle : e ≤ Format.binary64.targetExponent (totalExponent m e)) :
    let u := roundWithAccuracy .binary64 (signOf negative) m e .exact
    magnitude (packed u) = nearest (m * 2 ^ k) (2 ^ d) ∧ isNegative (packed u) = negative := by
  intro u
  obtain ⟨p, hp⟩ : ∃ p : Nat, Format.binary64.targetExponent (totalExponent m e) = p - 1074 := by
    refine ⟨(Format.binary64.targetExponent (totalExponent m e) + 1074).toNat, ?_⟩
    rw [targetExponent_eq]; omega
  obtain ⟨n, hn⟩ : ∃ n : Nat, e + n = p - 1074 := ⟨(p - 1074 - e).toNat, by omega⟩
  obtain ⟨hlt, hge⟩ := targetExponent_spec hpos hn hp
  have hshift : ((p - 1074 : Int) - e).toNat = n := by omega
  have hfirst : shiftToTargetExponent .binary64 m e .exact =
      (ExtendedMantissa.ofMantissaAndAccuracy m .exact >>> n, (p : Int) - 1074) := by
    rw [shiftToTargetExponent, hp, shiftToExponent, hshift, hn]
  have hr : roundHalfEven m (2 ^ n) ≤ 2 ^ 53 :=
    roundHalfEven_le (Nat.two_pow_pos n) (by rw [← Nat.pow_add]; exact hlt.le)
  have hr' : 2 ^ 52 ≤ roundHalfEven m (2 ^ n) ∨ p = 0 :=
    hge.imp_left fun hge => le_roundHalfEven (Nat.two_pow_pos n) (by rwa [← Nat.pow_add])
  have hu : u =
      let s := shiftToTargetExponent .binary64 (roundHalfEven m (2 ^ n)) (p - 1074) .exact
      ofMantissa negative s.1.mantissa s.2 := by
    rw [← (residual_shiftRight m n).roundedMantissa]
    exact (roundWithAccuracy_eq negative m e).trans (by rw [hfirst])
  have hnear := nearest_mul_pow (d := d) (k := k) hlt hge (by omega)
  rw [hu, hnear]
  exact packed_shifted negative hr hr'

theorem log2_shiftLeft {m : Nat} (hpos : 0 < m) (j : Nat) : (m <<< j).log2 = m.log2 + j := by
  have hj := Nat.two_pow_pos j
  rw [Nat.shiftLeft_eq, Nat.log2_eq_iff (Nat.mul_pos hpos hj).ne']
  constructor
  · rw [Nat.pow_add]; exact Nat.mul_le_mul_right _ (Nat.log2_self_le hpos.ne')
  · rw [Nat.add_right_comm, Nat.pow_add]; exact Nat.mul_lt_mul_of_pos_right Nat.lt_log2_self hj

/-- **Rounding an unpacked double gives the nearest word.** -/
theorem packed_round (negative : Bool) {m k : Nat} {e : Int} (hpos : 0 < m) (he : e + 1074 = k) :
    let u := UnpackedFloat.round .binary64 (signOf negative) m e
    magnitude (packed u) = nearest (m * 2 ^ k) (2 ^ 1074) ∧ isNegative (packed u) = negative := by
  intro u
  obtain ⟨j, hj⟩ : ∃ j, j = (e - Format.binary64.targetExponent (totalExponent m e)).toNat :=
    ⟨_, rfl⟩
  have hu : u = roundWithAccuracy .binary64 (signOf negative) (m <<< j) (e - j) .exact := by
    rw [hj]; rfl
  have htotal : totalExponent (m <<< j) (e - j) = totalExponent m e := by
    rw [totalExponent, totalExponent, log2_shiftLeft hpos]; omega
  have hmin : -1074 ≤ Format.binary64.targetExponent (totalExponent m e) := by
    rw [targetExponent_eq]; omega
  have hm : m <<< j * 2 ^ (k - j) = m * 2 ^ k := by
    rw [Nat.shiftLeft_eq, Nat.mul_assoc, ← Nat.pow_add, Nat.add_sub_cancel' (by omega)]
  rw [hu, ← hm]
  refine packed_roundWithAccuracy negative (d := 1074) ?_ (by omega) (by rw [htotal]; omega)
  rw [Nat.shiftLeft_eq]; exact Nat.mul_pos hpos (Nat.two_pow_pos j)

end NearestHost.Double
