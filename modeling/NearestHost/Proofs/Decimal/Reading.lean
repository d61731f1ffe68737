/-
  The plain text of a double is read back.

  * `read?_display`: as the same double.
  * `significantDigits_display_le`: no text with fewer digits is read as it.
  * `Plain`, `plain_display`: the text has no exponent.
-/
import NearestHost.Proofs.Decimal.Written

namespace NearestHost.Decimal

open Double

/-- A text of digits without an exponent, maybe with a minus sign and a point. -/
def Plain (cs : List Char) : Prop :=
  ∃ (negative : Bool) (text whole fraction : List Char),
    cs = (if negative then ['-'] else []) ++ text ∧ Positional text whole fraction

/-! ## Signs -/

theorem splitSign_of_digit {cs : List Char} {c : Char} (hc : c.isDigit = true)
    (negative : Bool) :
    splitSign ((if negative then ['-'] else []) ++ c :: cs) = (negative, c :: cs) := by
  cases negative with
  | true => rfl
  | false =>
    have hminus : c ≠ '-' := by rintro rfl; cases hc
    have hplus : c ≠ '+' := by rintro rfl; cases hc
    simp [splitSign, hminus, hplus]

theorem splitSign_eq {cs r : List Char} {negative : Bool} (h : splitSign cs = (negative, r)) :
    ∃ sign, cs = sign ++ r ∧ (sign = [] ∨ sign = ['-'] ∨ sign = ['+']) := by
  unfold splitSign at h
  split at h
  · cases h; exact ⟨['-'], rfl, .inr (.inl rfl)⟩
  · cases h; exact ⟨['+'], rfl, .inr (.inr rfl)⟩
  · cases h; exact ⟨[], rfl, .inl rfl⟩

theorem Positional.head {cs whole fraction : List Char} (h : Positional cs whole fraction) :
    ∃ c r, cs = c :: r ∧ c.isDigit = true := by
  obtain ⟨c, r, hwhole⟩ := List.exists_cons_of_ne_nil h.whole_ne_nil
  have hc := h.digits_of c (by rw [hwhole]; exact List.mem_cons_self)
  cases h with
  | whole => exact ⟨c, r, hwhole, hc⟩
  | pointed => exact ⟨c, _, by rw [hwhole, List.cons_append], hc⟩

/-! ## Reading a text -/

/-- A text that is read as a finite double is a decimal. -/
theorem decimal_of_read? {s : String} {x : Float} (hx : isFinite x) (h : read? s = some x) :
    ∃ sign r d, s.toList = sign ++ r ∧ (sign = [] ∨ sign = ['-'] ∨ sign = ['+']) ∧
      Decimal.ofChars? r = some d ∧ d.nearest = magnitude x := by
  obtain ⟨l, hl, rfl⟩ := Option.map_eq_some_iff.1 h
  cases l with
  | finite negative d =>
    obtain ⟨sign, r, hsplit⟩ : ∃ negative' r, splitSign s.toList = (negative', r) := ⟨_, _, rfl⟩
    obtain ⟨sign', hs, hsign⟩ := splitSign_eq hsplit
    unfold Literal.ofChars? at hl
    simp only [hsplit] at hl
    split at hl
    · rename_i d' hd'
      cases hl
      have hle : d.nearest ≤ infinity := by rw [nearest_eq]; exact nearest_le_infinity _ _
      exact ⟨sign', r, d, hs, hsign, hd', (words_ofMagnitude negative hle).1.symm⟩
    · unfold word? at hl
      split at hl <;> cases hl
  | infinite negative =>
    have hinf : isFinite (Literal.infinite negative).toFloat = false := by
      cases negative <;> decide
    rw [hinf] at hx
    cases hx
  | nan =>
    have hnan : isFinite Literal.nan.toFloat = false := by decide
    rw [hnan] at hx
    cases hx

/-- A text that is read as a double with the word `b` stands for a decimal with its significant
    digits that reads back as `b`. -/
theorem exists_significant {s : String} {x : Float} (hx : isFinite x) (h : read? s = some x) :
    ∃ t e, t < 10 ^ significantDigits s.toList ∧ (Decimal.mk t e).nearest = magnitude x := by
  obtain ⟨sign, r, d, hs, hsign, hd, hnear⟩ := decimal_of_read? hx h
  obtain ⟨whole, fraction, hparts, hsig⟩ := parts_of_ofChars? hd hsign
  obtain ⟨before, after, hzeros⟩ := stripZeros_split (whole ++ fraction)
  have hcount : significantDigits s.toList = (stripZeros (whole ++ fraction)).length := by
    rw [significantDigits, hs, hparts.mantissaDigits_eq]
  have hdigits : ∀ c ∈ stripZeros (whole ++ fraction), c.isDigit = true := by
    intro c hc
    refine List.forall_mem_append.2 ⟨hparts.whole, hparts.fraction⟩ c ?_
    rw [hzeros]
    exact List.mem_append_left _ (List.mem_append_right _ hc)
  refine ⟨Nat.ofDigitChars 10 (stripZeros (whole ++ fraction)) 0, d.exponent + after, ?_, ?_⟩
  · rw [hcount]
    simpa using ofDigitChars_lt hdigits 0
  · have hvalue : d.significand =
        Nat.ofDigitChars 10 (stripZeros (whole ++ fraction)) 0 * 10 ^ after := by
      rw [hsig]
      conv_lhs => rw [hzeros]
      rw [Nat.ofDigitChars_append, Nat.ofDigitChars_append, Nat.ofDigitChars_replicate_zero,
        Nat.ofDigitChars_replicate_zero, Nat.mul_zero]
      exact Nat.mul_comm _ _
    rw [← nearest_rescale, ← hvalue]
    exact hnear

/-! ## The text of a double -/

section

variable {x : Float}

theorem toList_display (hx : isFinite x) : (display x).toList =
    (if isNegative x then ['-'] else []) ++ positionalText [] (shortest .up (magnitude x)) := by
  rw [display, if_pos hx, String.toList_ofList]
  rfl

theorem plain_display (hx : isFinite x) : Plain (display x).toList := by
  obtain ⟨whole, fraction, -, -, hpos, -⟩ :=
    positional_positionalText (shortest .up (magnitude x))
  exact ⟨_, _, whole, fraction, toList_display hx, hpos⟩

theorem nearest_shortest {b : Nat} (hb : b < infinity) (tie : Tie) : (shortest tie b).nearest = b := by
  rcases Nat.eq_zero_or_pos b with rfl | hpos
  · rfl
  · exact (shortest_coarsest hpos hb tie).nearest_eq

/-- **The plain text of a finite double is read as that double**, with the sign of a zero. -/
theorem read?_display (hx : isFinite x) : read? (display x) = some x := by
  have hb := isFinite_iff.1 hx
  obtain ⟨whole, fraction, -, -, hpos, -⟩ :=
    positional_positionalText (shortest .up (magnitude x))
  obtain ⟨c, r, htext, hc⟩ := hpos.head
  obtain ⟨d, hd, hnear⟩ := ofChars?_positionalText (shortest .up (magnitude x))
  rw [nearest_shortest hb] at hnear
  rw [htext] at hd
  have hliteral : Literal.ofChars? (display x).toList = some (.finite (isNegative x) d) := by
    rw [toList_display hx, htext, Literal.ofChars?, splitSign_of_digit hc]
    simp only [hd]
  obtain ⟨hword, hsign⟩ := words_ofMagnitude (isNegative x) (show d.nearest ≤ infinity by omega)
  rw [read?, hliteral, Option.map_some, Literal.toFloat]
  exact congrArg some (eq_of_words (hword.trans hnear) hsign)

/-- The significant digits of the plain text are those of the shortest decimal. -/
theorem significantDigits_display (hx : isFinite x) :
    significantDigits (display x).toList ≤ (shortest .up (magnitude x)).digits.length := by
  obtain ⟨whole, fraction, before, after, hpos, hdigits, -⟩ :=
    positional_positionalText (shortest .up (magnitude x))
  rw [significantDigits, toList_display hx, (hpos.parts _).mantissaDigits_eq, hdigits]
  exact length_stripZeros_le before after _

/-- **No text with fewer significant digits is read as the same double.** -/
theorem significantDigits_display_le (hx : isFinite x) {s : String} (h : read? s = some x) :
    significantDigits (display x).toList ≤ significantDigits s.toList := by
  rcases Nat.eq_zero_or_pos (magnitude x) with hzero | hpos
  · have hdigits : significantDigits (display x).toList = 0 := by
      rw [toList_display hx, hzero]
      cases isNegative x <;> decide
    omega
  · obtain ⟨t, e, ht, hnear⟩ := exists_significant hx h
    have hcoarsest := shortest_coarsest hpos (isFinite_iff.1 hx) .up
    exact (significantDigits_display hx).trans (hcoarsest.digits_length_le hpos hnear ht)

end

end NearestHost.Decimal
