/-
  Numbers that are written and read again.

  * `Reread`: how far the double that is read is from the double that was written.
  * `Barrier`: a whole number that no double below it is read beyond.
  * `StandsFor.magnitude?`: the word that is read of the shortest decimal of a word.
  * `Writes.reread`: every double below such a barrier is read again.
-/
import NearestHost.Proofs.Decimal.Reading
import NearestHost.Proofs.Json.Magnitude
import NearestHost.Proofs.Json.Spelling

namespace NearestHost.Json

open Double
open Tally (slack)

/-- What is read of the text of a double: one of the same sign, not far away, and the same one if
    the digits and the places of its decimal are not many. -/
structure Reread (x y : Float) : Prop where
  negative : isNegative y = isNegative x
  near : Nat.dist (magnitude y) (magnitude x) ≤ slack (-(decimalOf x).exponent).toNat
  same : (decimalOf x).significand ≤ 2 ^ 53 → -22 ≤ (decimalOf x).exponent → y = x

/-- A whole number that no double below it is read beyond. -/
structure Barrier (bound : Nat) : Prop where
  short : 10 * bound ≤ 2 ^ 53
  whole : 0 ≤ (Decimal.shortest .even (nearest bound 1)).exponent
  quotient : ∀ k ≤ 20, divNearest (nearest (bound * 10 ^ k) 1) (Tally.power k) ≤ nearest bound 1
  far : nearest (10 ^ 17) (10 ^ 21) + 3 ≤ nearest bound 1

theorem barrier_ninety : Barrier 90 :=
  ⟨by decide, by decide +kernel, by decide +kernel, by decide +kernel⟩

theorem barrier_straight : Barrier 180 :=
  ⟨by decide, by decide +kernel, by decide +kernel, by decide +kernel⟩

variable {n : Numeral} {d : Decimal} {w bound : Nat}

namespace Numeral

/-- A numeral has the value of the decimal that it stands for. -/
theorem StandsFor.nearest_eq (h : n.StandsFor d) :
    (Decimal.mk n.significand n.scale).nearest = d.nearest := by
  obtain ⟨z, hsig, hscale, -⟩ := h.value
  have hexponent : d.exponent - z + z = d.exponent := by omega
  rw [hsig, hscale, Decimal.nearest_rescale, hexponent]

/-- Without places, a decimal that is not read beyond a whole number is not above it. -/
theorem whole_le (hbound : bound < 2 ^ 53) (he : 0 ≤ d.exponent)
    (hd : d.nearest ≤ nearest bound 1) : d.significand * 10 ^ d.exponent.toNat ≤ bound := by
  by_contra hlt
  have hplaces : (-d.exponent).toNat = 0 := by omega
  have hnearest := Decimal.nearest_eq d
  rw [hplaces, Nat.pow_zero] at hnearest
  have habove : nearest (bound + 1) 1 ≤ d.nearest := by
    rw [hnearest]
    refine nearest_mono Nat.one_pos Nat.one_pos ?_
    omega
  exact absurd (Tally.nearest_lt_nearest hbound) (Nat.not_lt.2 (habove.trans hd))

/-- So a numeral that stands for it is ordinary. -/
theorem StandsFor.ordinary (h : n.StandsFor d) (hbarrier : Barrier bound) (he : 0 ≤ d.exponent)
    (hzero : d.significand = 0 → d.exponent = 0) (hd : d.nearest ≤ nearest bound 1) :
    n.Ordinary := by
  have hshort := hbarrier.short
  have hwhole := whole_le (by omega) he hd
  obtain ⟨z, hsig, hscale, hz⟩ := h.value
  have hexponent : d.exponent ≤ 22 := by
    by_contra hlarge
    have hpos : 0 < d.significand := Nat.pos_of_ne_zero fun h => by
      have := hzero h
      omega
    have hpower : 10 ^ 23 ≤ 10 ^ d.exponent.toNat := Nat.pow_le_pow_right (by decide) (by omega)
    have hle := (Nat.le_mul_of_pos_left _ hpos).trans hwhole
    omega
  have hten : d.significand * 10 ^ z ≤ 10 * (d.significand * 10 ^ d.exponent.toNat) := by
    have hplaces : z ≤ d.exponent.toNat + 1 := by omega
    calc d.significand * 10 ^ z ≤ d.significand * 10 ^ (d.exponent.toNat + 1) :=
          Nat.mul_le_mul_left _ (Nat.pow_le_pow_right (by decide) hplaces)
      _ = 10 * (d.significand * 10 ^ d.exponent.toNat) := by rw [Nat.pow_succ]; ring
  refine ⟨?_, ?_, ?_⟩ <;> omega

/-- A decimal below a barrier is not read beyond it.  With more than 20 places it is too small for
    that, and with fewer the barrier itself is read as it is. -/
theorem magnitude?_le {s : Nat} {e : Int} {b : Nat} (hbarrier : Barrier bound) (hlt : s < 10 ^ 17)
    (he : e < 0) (hs : s ≤ bound * 10 ^ (-e).toNat) (hb : Tally.magnitude? s e = some b)
    (hnear : Nat.dist b (Decimal.mk s e).nearest ≤ 3) : b ≤ nearest bound 1 := by
  obtain ⟨k, hk⟩ : ∃ k, (-e).toNat = k := ⟨_, rfl⟩
  rcases Nat.lt_or_ge 20 k with hfar | hclose
  · have hsmall : (Decimal.mk s e).nearest ≤ nearest (10 ^ 17) (10 ^ 21) := by
      have hzeros : e.toNat = 0 := by omega
      rw [Decimal.nearest_eq, hzeros, Nat.pow_zero, Nat.mul_one, hk]
      refine nearest_mono (Decimal.ten_pow_pos _) (Decimal.ten_pow_pos _) ?_
      exact Nat.mul_le_mul hlt.le (Nat.pow_le_pow_right (by decide) hfar)
    have hdist : b - (Decimal.mk s e).nearest ≤ 3 := (Nat.le_add_right _ _).trans hnear
    have hbound := hbarrier.far
    omega
  · rw [Tally.magnitude?_of_neg he, hk] at hb
    rw [hk] at hs
    obtain rfl := Option.some.inj hb
    rw [Tally.divideByPower_of_le (hclose.trans (by decide))]
    refine le_trans (nearest_mono (Tally.units_power_pos k) (Tally.units_power_pos k) ?_)
      (hbarrier.quotient k hclose)
    refine Nat.mul_le_mul_right _ (units_le_units.2 (nearest_mono Nat.one_pos Nat.one_pos ?_))
    omega

theorem slack_le (k : Nat) : slack k ≤ 3 := by
  unfold slack
  split_ifs <;> omega

/-- Behind the point a shortest decimal below a barrier stays below it: above it there is only the
    barrier itself, and that has no places. -/
theorem significand_le_barrier (hbarrier : Barrier bound) (hd : Decimal.shortest .even w = d)
    (hreads : d.nearest = w) (hw : w ≤ nearest bound 1) (he : d.exponent < 0) :
    d.significand ≤ bound * 10 ^ (-d.exponent).toNat := by
  by_contra habove
  have hword : nearest bound 1 ≤ w := by
    have hzeros : d.exponent.toNat = 0 := by omega
    rw [← hreads, Decimal.nearest_eq, hzeros, Nat.pow_zero, Nat.mul_one]
    refine nearest_mono Nat.one_pos (Decimal.ten_pow_pos _) ?_
    omega
  have hwhole := hbarrier.whole
  rw [← le_antisymm hw hword, hd] at hwhole
  omega

/-- A numeral that stands for the shortest decimal of a word is ordinary, or it has the digits and the
    places of this decimal. -/
theorem StandsFor.ordinary_or_places (h : n.StandsFor d) (hd : Decimal.shortest .even w = d)
    (hreads : d.nearest = w) (hbarrier : Barrier bound) (hw : w ≤ nearest bound 1) :
    n.Ordinary ∨
      0 < w ∧ d.exponent < 0 ∧ n.significand = d.significand ∧ n.scale = d.exponent := by
  have hle := hreads.trans_le hw
  rcases Nat.eq_zero_or_pos w with hzero | hpos
  · rw [hzero] at hd
    obtain rfl : ⟨0, 0⟩ = d := hd
    exact Or.inl (h.ordinary hbarrier le_rfl (fun _ => rfl) hle)
  have hbound := hbarrier.short
  have hfin : w < infinity :=
    hw.trans_lt (Tally.nearest_lt_infinity_of_lt (show bound < 2 ^ 64 by omega))
  have hcoarsest : Decimal.Coarsest w d := hd ▸ Decimal.shortest_coarsest hpos hfin .even
  rcases lt_or_ge d.exponent 0 with he | he
  · obtain ⟨z, hsig, hscale, hz⟩ := h.value
    obtain rfl : z = 0 := by omega
    rw [Nat.pow_zero, Nat.mul_one] at hsig
    exact Or.inr ⟨hpos, he, hsig, by omega⟩
  · exact Or.inl (h.ordinary hbarrier he
      (fun h => absurd h (hcoarsest.significand_pos hpos).ne') hle)

/-- **The shortest decimal of a word below a barrier** is read as a word that is not beyond it
    either, not far away, and the same if its digits and places are not many. -/
theorem StandsFor.magnitude? (h : n.StandsFor d) (hd : Decimal.shortest .even w = d)
    (hbarrier : Barrier bound) (hw : w ≤ nearest bound 1) :
    n.significand < Tally.significandLimit ∧
      ∃ b, Tally.magnitude? n.significand n.scale = some b ∧ b ≤ nearest bound 1 ∧
        Nat.dist b w ≤ slack (-d.exponent).toNat ∧
        (d.significand ≤ 2 ^ 53 → -22 ≤ d.exponent → b = w) := by
  have hshort := hbarrier.short
  have hfin : w < infinity :=
    hw.trans_lt (Tally.nearest_lt_infinity_of_lt (show bound < 2 ^ 64 by omega))
  have hreads : d.nearest = w := hd ▸ Decimal.nearest_shortest hfin .even
  by_cases ho : n.Ordinary
  · refine ⟨ho.significand_lt, w, ?_, hw, (Nat.dist_self w).trans_le (Nat.zero_le _), fun _ _ => rfl⟩
    rw [Tally.magnitude?_eq ho.significand_le ho.le_scale ho.scale_le, h.nearest_eq, hreads]
  · obtain ⟨hpos, he, hsig, hscale⟩ :=
      (h.ordinary_or_places hd hreads hbarrier hw).resolve_left ho
    have hcoarsest : Decimal.Coarsest w d := hd ▸ Decimal.shortest_coarsest hpos hfin .even
    have hlt := hcoarsest.significand_lt hpos hfin
    have hplaces := hcoarsest.le_exponent hpos hfin
    have hmany : ¬ (d.significand ≤ 2 ^ 53 ∧ -22 ≤ d.exponent) := fun hfew =>
      ho ⟨hsig.trans_le hfew.1, hscale ▸ hfew.2, by omega⟩
    obtain ⟨b, hb, hnear⟩ := Tally.magnitude?_near (hcoarsest.significand_pos hpos)
      (hlt.trans (by decide)) he
      (show (-d.exponent).toNat ≤ Tally.maxPower + 22 by unfold Tally.maxPower; omega)
    have hbelow := significand_le_barrier hbarrier hd hreads hw he
    have hbound := magnitude?_le hbarrier hlt he hbelow hb (hnear.trans (slack_le _))
    rw [hsig, hscale]
    exact ⟨hlt.trans (by decide), b, hb, hbound, hreads ▸ hnear, fun hs he => absurd ⟨hs, he⟩ hmany⟩

/-- **What is read of the text of a double** below a barrier. -/
theorem Writes.reread {x : Float} (h : n.Writes x) (hbarrier : Barrier bound)
    (hx : magnitude x ≤ nearest bound 1) :
    ∃ v, n.number? = some v ∧ Reread x v.toFloat ∧ magnitude v.toFloat ≤ nearest bound 1 := by
  obtain ⟨hlt, b, hb, hbound, hnear, hsame⟩ := h.standsFor.magnitude? rfl hbarrier hx
  have hnumber := number?_eq hlt h.standsFor.overflows
  rw [h.standsFor.isWhole, if_neg Bool.false_ne_true, hb, h.negative] at hnumber
  obtain ⟨hmagnitude, hnegative⟩ :=
    words_ofMagnitude (isNegative x) (hbound.trans (nearest_le_infinity _ _))
  refine ⟨_, hnumber, ⟨hnegative, ?_, fun hs he => ?_⟩, hmagnitude.trans_le hbound⟩
  · rw [Number.toFloat, hmagnitude]
    exact hnear
  · exact eq_of_words (hmagnitude.trans (hsame hs he)) hnegative

end Numeral

end NearestHost.Json
