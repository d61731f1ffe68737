/-
  The number of a numeral.

  * `Numeral.significand`: all the digits of a numeral, without its point.
  * `through_whole`, `through_fraction`, `through_exponent`: what is gathered of the
    digits of a part, which are all taken as long as they make a number below
    `2 ^ 64`.
  * `Numeral.number?_eq`: so the number is made of the significand and the power of
    ten of the last digit, unless the exponent overflows.
  * `Numeral.toFloat_eq`, `Numeral.number?_isSome`: a numeral with few digits and a
    small power of ten is read as the nearest double.
-/
import NearestHost.Proofs.Json.Magnitude
import NearestHost.Proofs.Json.Numeral

namespace NearestHost.Json

/-! ## Digits -/

/-- A number and digits behind it. -/
def digitsFrom (n : Nat) (ds : List UInt8) : Nat := ds.foldl (fun n d => n * 10 + digitOf d) n

theorem digitsFrom_append (n : Nat) (ds es : List UInt8) :
    digitsFrom n (ds ++ es) = digitsFrom (digitsFrom n ds) es := List.foldl_append

theorem le_digitsFrom (n : Nat) (ds : List UInt8) : n ≤ digitsFrom n ds := by
  induction ds generalizing n with
  | nil => exact le_rfl
  | cons d ds ih => exact (show n ≤ n * 10 + digitOf d by omega).trans (ih _)

/-- Whether an exponent stands behind a minus sign. -/
def Exponent.isNegative (e : Exponent) : Bool := e.sign == some (byteOf '-')

namespace Numeral

/-- All the digits, without the point. -/
def significand (n : Numeral) : Nat := digitsValue (n.whole ++ n.fraction)

/-- Whether there is neither a point nor an exponent. -/
def isWhole (n : Numeral) : Bool := n.fraction.isEmpty && n.exponent.isNone

end Numeral

/-- The parts that end with a digit in front of the exponent. -/
def Part.IsMantissa (p : Part) : Prop := p = .zero ∨ p = .whole ∨ p = .fraction

namespace Tally

variable {t : Tally} {p : Part} {ds bs : List UInt8}

/-! ## The digits of a part -/

theorem through_part {q : Part} {c : UInt8} (h : p.next c = .part q) :
    t.through p (c :: bs) = (t.add? q c).bind (·.through q bs) := by
  rw [Tally.through, h]

theorem takes_of_lt {d : Nat} (hfull : t.full = false)
    (h : t.significand * 10 + d < significandLimit) : t.takes d = true := by
  rw [takes, hfull, decide_eq_true h]
  rfl

/-- Digits before the point go on with the significand. -/
theorem through_whole (hds : ∀ d ∈ ds, isDigitByte d = true) (hfull : t.full = false)
    (h : digitsFrom t.significand ds < significandLimit) : t.through .whole (ds ++ bs) =
      { t with significand := digitsFrom t.significand ds }.through .whole bs := by
  induction ds generalizing t with
  | nil => rfl
  | cons d ds ih =>
    obtain ⟨hd, hds⟩ := List.forall_mem_cons.1 hds
    have hnext : Part.whole.next d = .part .whole := by rw [Part.next, if_pos hd]
    have htakes := takes_of_lt hfull ((le_digitsFrom _ ds).trans_lt h)
    have hadd : t.add? .whole d =
        some { t with significand := t.significand * 10 + digitOf d } := by
      rw [add?, wholeDigit, if_pos htakes]
    rw [List.cons_append, through_part hnext, hadd]
    exact ih hds hfull h

/-- So do digits after the point, which move it. -/
theorem through_fraction (hds : ∀ d ∈ ds, isDigitByte d = true) (hfull : t.full = false)
    (h : digitsFrom t.significand ds < significandLimit) : t.through .fraction (ds ++ bs) =
      { t with
        significand := digitsFrom t.significand ds
        shift := t.shift - ds.length }.through .fraction bs := by
  induction ds generalizing t with
  | nil =>
    rw [List.length_nil, Int.natCast_zero, Int.sub_zero]
    rfl
  | cons d ds ih =>
    obtain ⟨hd, hds⟩ := List.forall_mem_cons.1 hds
    have hnext : Part.fraction.next d = .part .fraction := by rw [Part.next, if_pos hd]
    have htakes := takes_of_lt hfull ((le_digitsFrom _ ds).trans_lt h)
    have hadd : t.add? .fraction d =
        some { t with significand := t.significand * 10 + digitOf d, shift := t.shift - 1 } := by
      rw [add?, fractionDigit, if_pos htakes]
    have hshift : t.shift - ((d :: ds).length : Int) = t.shift - 1 - ds.length := by
      rw [List.length_cons]
      omega
    rw [List.cons_append, through_part hnext, hadd, hshift]
    exact ih hds hfull h

/-- An exponent that is too great to be read.  It does no harm to a zero, or behind a minus sign. -/
def Exceeds (significand : Nat) (negative : Bool) (e : Nat) : Prop :=
  exponentLimit < e ∧ significand ≠ 0 ∧ !negative

instance (significand : Nat) (negative : Bool) (e : Nat) :
    Decidable (Exceeds significand negative e) := inferInstanceAs (Decidable (_ ∧ _ ∧ _))

/-- The digits of the exponent, which are refused once they are too many. -/
theorem through_exponent (hds : ∀ d ∈ ds, isDigitByte d = true)
    (h : ¬ Exceeds t.significand t.exponentNegative t.exponent) :
    t.through .exponent ds =
      if Exceeds t.significand t.exponentNegative (digitsFrom t.exponent ds) then none
      else some { t with exponent := digitsFrom t.exponent ds } := by
  induction ds generalizing t with
  | nil => exact (if_neg h).symm
  | cons d ds ih =>
    obtain ⟨hd, hds⟩ := List.forall_mem_cons.1 hds
    have hnext : Part.exponent.next d = .part .exponent := by rw [Part.next, if_pos hd]
    have hadd : t.add? .exponent d =
        if Exceeds t.significand t.exponentNegative (t.exponent * 10 + digitOf d) then none
        else some { t with exponent := t.exponent * 10 + digitOf d } := rfl
    rw [through_part hnext, hadd]
    by_cases hexceeds : Exceeds t.significand t.exponentNegative (t.exponent * 10 + digitOf d)
    · have hlater : Exceeds t.significand t.exponentNegative (digitsFrom t.exponent (d :: ds)) :=
        ⟨hexceeds.1.trans_le (le_digitsFrom _ ds), hexceeds.2⟩
      rw [if_pos hexceeds, if_pos hlater]
      rfl
    · rw [if_neg hexceeds]
      exact ih hds hexceeds

/-! ## Parts in a row -/

/-- Parts from which a byte leads to the same part go on alike. -/
theorem through_congr {q : Part} {c : UInt8} (h : p.next c = q.next c) :
    t.through p (c :: bs) = t.through q (c :: bs) := by
  rw [Tally.through, Tally.through, h]

section

variable {negative integral : Bool} {significand : Nat} {shift : Int}

/-- The point and the digits behind it, if there are any. -/
theorem through_pointed (bs : List UInt8) {f : List UInt8} (hf : ∀ d ∈ f, isDigitByte d = true)
    (hp : p = .zero ∨ p = .whole) (h : digitsFrom significand f < significandLimit) :
    ∃ q : Part, q.IsMantissa ∧
      Tally.through ⟨negative, significand, shift, false, integral, false, 0⟩ p (pointed f ++ bs) =
        Tally.through ⟨negative, digitsFrom significand f, shift - f.length, false,
          integral && f.isEmpty, false, 0⟩ q bs := by
  cases f with
  | nil =>
    refine ⟨p, hp.imp_right Or.inl, ?_⟩
    rw [List.length_nil, Int.natCast_zero, Int.sub_zero, List.isEmpty_nil, Bool.and_true]
    rfl
  | cons d f =>
    refine ⟨.fraction, Or.inr (Or.inr rfl), ?_⟩
    have hpoint : p.next (byteOf '.') = .part .point := by rcases hp with rfl | rfl <;> rfl
    have hd := (List.forall_mem_cons.1 hf).1
    have hnext : Part.point.next d = Part.fraction.next d := by
      rw [Part.next, Part.next, if_pos hd, if_pos hd]
    rw [pointed, List.cons_append, through_part hpoint, List.isEmpty_cons, Bool.and_false]
    change Tally.through ⟨negative, significand, shift, false, false, false, 0⟩ .point
      (d :: f ++ bs) = _
    rw [List.cons_append, through_congr hnext, ← List.cons_append]
    exact through_fraction (t := ⟨negative, significand, shift, false, false, false, 0⟩) hf rfl h

/-- The letter and the sign of an exponent. -/
theorem through_mark (e : Exponent) (hp : p.IsMantissa) :
    Tally.through ⟨negative, significand, shift, false, integral, false, 0⟩ p e.bytes =
      Tally.through ⟨negative, significand, shift, false, false, e.isNegative, 0⟩ .exponent
        e.digits := by
  obtain ⟨mark, sign, digits, hmark, hsign, hne, hds⟩ := e
  obtain ⟨d, ds, rfl⟩ := List.exists_cons_of_ne_nil hne
  have hd := (List.forall_mem_cons.1 hds).1
  have hdigit : isDigitByte mark = false := not_digit_of_mark hmark
  have hpoint : mark ≠ byteOf '.' := by rintro rfl; cases hmark
  have hnext : p.next mark = .part .mark := by
    rcases hp with rfl | rfl | rfl <;> simp [Part.next, Part.afterWhole, hdigit, hmark, hpoint]
  rw [Exponent.bytes, List.cons_append, through_part hnext]
  change Tally.through ⟨negative, significand, shift, false, false, false, 0⟩ .mark
    (sign.toList ++ d :: ds) = _
  cases sign with
  | none =>
    have hfirst : Part.mark.next d = Part.exponent.next d := by simp [Part.next, hd]
    exact through_congr hfirst
  | some c =>
    have hc := hsign c rfl
    have hnot : isDigitByte c = false := by rcases hc with rfl | rfl <;> decide
    have hsigned : Part.mark.next c = .part .markSign := by simp [Part.next, hnot, hc]
    have hfirst : Part.markSign.next d = Part.exponent.next d := by simp [Part.next, hd]
    rw [Option.toList_some, List.singleton_append, through_part hsigned]
    exact through_congr hfirst

/-- The exponent, if there is one, which may be refused. -/
theorem through_exponentBytes (e : Option Exponent) (hp : p.IsMantissa) :
    Tally.through ⟨negative, significand, shift, false, integral, false, 0⟩ p (exponentBytes e) =
      if ∃ x ∈ e, Exceeds significand x.isNegative (digitsValue x.digits) then none
      else some ⟨negative, significand, shift, false, integral && e.isNone,
        e.any Exponent.isNegative, e.elim 0 fun x => digitsValue x.digits⟩ := by
  cases e with
  | none =>
    rw [if_neg (by simp), Option.isNone_none, Bool.and_true]
    rfl
  | some e =>
    have hzero : ¬ Exceeds significand e.isNegative 0 := fun h => Nat.not_lt_zero _ h.1
    have hsome : (∃ x ∈ some e, Exceeds significand x.isNegative (digitsValue x.digits)) ↔
        Exceeds significand e.isNegative (digitsValue e.digits) := by simp
    rw [exponentBytes, through_mark e hp, through_exponent e.digits_ok hzero, Option.isNone_some,
      Bool.and_false]
    simp only [hsome]
    rfl

end

end Tally

/-! ## Numerals -/

namespace Numeral

open Double

variable {n : Numeral} {v : Number}

/-- An exponent that is too great to be read. -/
def Overflows (n : Numeral) : Prop :=
  ∃ e ∈ n.exponent, Tally.Exceeds n.significand e.isNegative (digitsValue e.digits)

instance (n : Numeral) : Decidable n.Overflows :=
  inferInstanceAs (Decidable (∃ e ∈ n.exponent, Tally.Exceeds _ _ _))

/-- What is gathered of a numeral. -/
def gathered (n : Numeral) : Tally where
  negative := n.negative
  significand := n.significand
  shift := -(n.fraction.length : Int)
  full := false
  integral := n.isWhole
  exponentNegative := n.exponent.any Exponent.isNegative
  exponent := n.exponent.elim 0 fun e => digitsValue e.digits

/-- What is gathered of a sign and digits. -/
def signed (negative : Bool) (significand : Nat) : Tally :=
  ⟨negative, significand, 0, false, true, false, 0⟩

/-- The digits before the point, behind a sign or without one. -/
theorem through_first (n : Numeral) (h : digitsValue n.whole < Tally.significandLimit) (s : Bool) :
    ∃ d ds p, n.whole = d :: ds ∧ (p = .zero ∨ p = .whole) ∧ firstDigit? d = some p ∧
      ∀ rest, ((signed s 0).wholeDigit (digitOf d)).through p (ds ++ rest) =
        (signed s (digitsValue n.whole)).through p rest := by
  have hdigit {d : UInt8} (hd : digitOf d < Tally.significandLimit) :
      (signed s 0).wholeDigit (digitOf d) = signed s (digitOf d) := by
    have hzero : 0 * 10 + digitOf d = digitOf d := by omega
    have htakes : (signed s 0).takes (digitOf d) = true :=
      Tally.takes_of_lt rfl (hzero.trans_lt hd)
    rw [Tally.wholeDigit, if_pos htakes]
    exact congrArg (signed s) hzero
  rcases n.whole_ok with hwhole | ⟨d, ds, hwhole, hzero, hds⟩
  · refine ⟨byteOf '0', [], .zero, hwhole, Or.inl rfl, rfl, fun rest => ?_⟩
    rw [hwhole]
    rfl
  · obtain ⟨hd, hds⟩ := List.forall_mem_cons.1 hds
    have hvalue : digitsValue n.whole = digitsFrom (digitOf d) ds := by
      have hone : 0 * 10 + digitOf d = digitOf d := by omega
      rw [hwhole, ← hone]
      rfl
    rw [hvalue] at h ⊢
    refine ⟨d, ds, .whole, hwhole, Or.inr rfl, ?_, fun rest => ?_⟩
    · rw [firstDigit?, if_neg hzero, if_pos hd]
    · rw [hdigit ((le_digitsFrom _ ds).trans_lt h)]
      exact Tally.through_whole (t := signed s (digitOf d)) hds rfl h

/-- The number of a numeral is gathered from its first digit on. -/
theorem number?_from_digit {d : UInt8} {ds : List UInt8} {p : Part} (hds : n.whole = d :: ds)
    (hp : p = .zero ∨ p = .whole) (hfirst : firstDigit? d = some p) :
    n.number? = ((signed n.negative 0).wholeDigit (digitOf d)).through p
      (ds ++ (pointed n.fraction ++ exponentBytes n.exponent)) >>= Tally.number? := by
  rw [number?, bytes, unsigned, hds]
  cases n.negative with
  | true =>
    have hnext : Part.sign.next d = .part p := by
      unfold firstDigit? at hfirst
      rw [Part.next]
      split_ifs at hfirst ⊢ <;> cases hfirst <;> rfl
    change ((signed true 0).through .sign (d :: (ds ++ _)) >>= Tally.number?) = _
    rw [Tally.through_part hnext]
    rcases hp with rfl | rfl <;> rfl
  | false =>
    have hminus : d ≠ byteOf '-' := by rintro rfl; cases hfirst
    have hpart : Part.start? d = some p := by rw [Part.start?, if_neg hminus]; exact hfirst
    have hsign : p ≠ .sign := by rcases hp with rfl | rfl <;> decide
    change (Part.start? d >>= fun p => (Tally.first p d).through p (ds ++ _) >>= Tally.number?) = _
    rw [hpart, Option.bind_eq_bind, Option.bind_some, Tally.first, if_neg hsign]
    rfl

/-- A numeral below `2 ^ 64` is gathered whole, unless its exponent overflows. -/
theorem number?_of_lt (h : n.significand < Tally.significandLimit) :
    n.number? = if n.Overflows then none else n.gathered.number? := by
  have happend : n.significand = digitsFrom (digitsValue n.whole) n.fraction :=
    digitsFrom_append 0 n.whole n.fraction
  rw [happend] at h
  obtain ⟨d, ds, p, hds, hp, hfirst, hthrough⟩ :=
    through_first n ((le_digitsFrom _ _).trans_lt h) n.negative
  obtain ⟨q, hq, hpointed⟩ := Tally.through_pointed (exponentBytes n.exponent) n.fraction_ok hp h
  rw [number?_from_digit hds hp hfirst, hthrough, signed, hpointed,
    Tally.through_exponentBytes n.exponent hq, ← happend, Int.zero_sub, Bool.true_and]
  by_cases hover : ∃ e ∈ n.exponent,
      Tally.Exceeds n.significand e.isNegative (digitsValue e.digits)
  · rw [if_pos hover]
    exact (if_pos hover).symm
  · rw [if_neg hover]
    exact (if_neg hover).symm

/-- The power of ten that is gathered is that of the last digit. -/
theorem totalExponent_gathered (n : Numeral) : n.gathered.totalExponent = n.scale := by
  unfold Tally.totalExponent scale gathered
  cases n.exponent with
  | none => simp
  | some e =>
    simp only [Option.any_some, Option.elim_some, Exponent.isNegative, Exponent.value, beq_iff_eq]
    split_ifs <;> omega

theorem scale_of_isWhole (h : n.isWhole = true) : n.scale = 0 := by
  obtain ⟨hfraction, hexponent⟩ := Bool.and_eq_true_iff.1 h
  rw [scale, List.isEmpty_iff.1 hfraction, Option.isNone_iff_eq_none.1 hexponent]
  rfl

/-- **The number of a numeral** below `2 ^ 64`. -/
theorem number?_eq (h : n.significand < Tally.significandLimit) (hover : ¬ n.Overflows) :
    n.number? =
      if n.isWhole then
        if n.negative then some (.real (ofMagnitude true (nearest n.significand 1)))
        else some (.natural n.significand)
      else
        (Tally.magnitude? n.significand n.scale).map fun b => .real (ofMagnitude n.negative b) := by
  rw [number?_of_lt h, if_neg hover, Tally.number?, totalExponent_gathered]
  rfl

/-! ## Ordinary numerals -/

/-- Digits that make a number up to `2 ^ 53`, with a power of ten up to the 22nd or one over it. -/
structure Ordinary (n : Numeral) : Prop where
  significand_le : n.significand ≤ 2 ^ 53
  le_scale : -22 ≤ n.scale
  scale_le : n.scale ≤ 22

theorem Ordinary.significand_lt (h : n.Ordinary) : n.significand < Tally.significandLimit :=
  h.significand_le.trans_lt (by decide)

/-- The double nearest to a numeral. -/
def toFloat (n : Numeral) : Float :=
  ofMagnitude n.negative (Decimal.mk n.significand n.scale).nearest

/-- **An ordinary numeral is read as the nearest double.** -/
theorem toFloat_eq (h : n.Ordinary) (hv : n.number? = some v) : v.toFloat = n.toFloat := by
  have hover : ¬ n.Overflows := fun hover => by
    rw [number?_of_lt h.significand_lt, if_pos hover] at hv
    cases hv
  rw [number?_eq h.significand_lt hover,
    Tally.magnitude?_eq h.significand_le h.le_scale h.scale_le] at hv
  split_ifs at hv with hwhole hnegative
  · obtain rfl := Option.some.inj hv
    rw [toFloat, scale_of_isWhole hwhole, Decimal.nearest_natural, hnegative]
    rfl
  · obtain rfl := Option.some.inj hv
    rw [toFloat, scale_of_isWhole hwhole, Decimal.nearest_natural, Bool.eq_false_iff.2 hnegative]
    rfl
  · obtain rfl := Option.some.inj hv
    rfl

/-- The word of this double has the value nearest to that of the numeral, and of two as near the
    even one. -/
theorem Ordinary.isNearest (h : n.Ordinary) : isNegative n.toFloat = n.negative ∧
    IsNearest (n.significand * 10 ^ n.scale.toNat) (10 ^ (-n.scale).toNat)
      (magnitude n.toFloat) := by
  have hfin : nearest (n.significand * 10 ^ n.scale.toNat) (10 ^ (-n.scale).toNat) < infinity := by
    have hle : nearest (n.significand * 10 ^ n.scale.toNat) (10 ^ (-n.scale).toNat) ≤
        nearest (2 ^ 53 * 10 ^ 22) 1 := by
      have hscale := h.scale_le
      refine nearest_mono (Decimal.ten_pow_pos _) Nat.one_pos ?_
      rw [Nat.mul_one]
      refine le_trans (Nat.mul_le_mul h.significand_le ?_)
        (Nat.le_mul_of_pos_right _ (Decimal.ten_pow_pos _))
      exact Nat.pow_le_pow_right (by decide) (by omega)
    exact hle.trans_lt (by decide +kernel)
  have hnearest := Decimal.nearest_eq ⟨n.significand, n.scale⟩
  obtain ⟨hmagnitude, hnegative⟩ := words_ofMagnitude n.negative (nearest_le_infinity
    (n.significand * 10 ^ n.scale.toNat) (10 ^ (-n.scale).toNat))
  rw [toFloat, hnearest]
  refine ⟨hnegative, ?_⟩
  rw [hmagnitude]
  exact isNearest_nearest (Decimal.ten_pow_pos _) hfin

/-- It is read, unless it has so many digits behind its point that its exponent overflows. -/
theorem number?_isSome (h : n.Ordinary) (hlen : n.fraction.length + 22 ≤ Tally.exponentLimit) :
    n.number?.isSome = true := by
  have hover : ¬ n.Overflows := by
    rintro ⟨e, he, hlimit, -, hnegative⟩
    have hscale := h.scale_le
    rw [scale, Option.mem_def.1 he, Option.elim_some, Exponent.value,
      if_neg (by simpa [Exponent.isNegative] using hnegative)] at hscale
    omega
  rw [number?_eq h.significand_lt hover,
    Tally.magnitude?_eq h.significand_le h.le_scale h.scale_le]
  split_ifs <;> rfl

end Numeral

end NearestHost.Json
