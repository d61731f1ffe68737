/-
  Numerals read as decimal texts.

  * `ofChars?_unsigned`: the characters of a numeral are read as its digits with its
    power of ten.
  * `read?_text`: so the text of a numeral is read as the double nearest to it.
-/
import NearestHost.Proofs.Decimal.Reading
import NearestHost.Proofs.Json.Spelling

namespace NearestHost.Json

open Decimal (exponent? splitFraction splitSign wholeNumber?)

variable {ds : List UInt8}

theorem isDigit_map (h : ∀ d ∈ ds, isDigitByte d = true) :
    ∀ c ∈ ds.map charOf, c.isDigit = true := by
  intro c hc
  obtain ⟨d, hd, rfl⟩ := List.mem_map.1 hc
  exact isDigit_charOf (h d hd)

theorem wholeNumber?_map (hne : ds ≠ []) (h : ∀ d ∈ ds, isDigitByte d = true) :
    wholeNumber? (ds.map charOf) = some (digitsValue ds) := by
  rw [Decimal.wholeNumber?_of_digits (fun hnil => hne (List.map_eq_nil_iff.1 hnil))
    (isDigit_map h), ofDigitChars_map h]

/-! ## Exponents -/

theorem charOf_mark {c : UInt8} (h : isMark c = true) : charOf c = 'e' ∨ charOf c = 'E' := by
  have hletters : c = byteOf 'e' ∨ c = byteOf 'E' := by simpa [isMark] using h
  rcases hletters with rfl | rfl
  · exact Or.inl (by decide)
  · exact Or.inr (by decide)

theorem exponent?_bytes (e : Option Exponent) :
    exponent? ((exponentBytes e).map charOf) = some (e.elim 0 Exponent.value) := by
  cases e with
  | none => rfl
  | some e =>
    have hnumber := wholeNumber?_map e.digits_ne e.digits_ok
    have hsplit : splitSign ((e.sign.toList ++ e.digits).map charOf) =
        (decide (e.sign = some (byteOf '-')), e.digits.map charOf) := by
      cases hsign : e.sign with
      | none =>
        obtain ⟨d, ds, hds⟩ := List.exists_cons_of_ne_nil e.digits_ne
        have hd := isDigit_charOf (e.digits_ok d (by rw [hds]; exact List.mem_cons_self))
        rw [hds]
        exact Decimal.splitSign_of_digit hd false
      | some c =>
        rcases e.sign_ok c hsign with rfl | rfl <;> rfl
    have hbytes : (exponentBytes (some e)).map charOf =
        charOf e.mark :: (e.sign.toList ++ e.digits).map charOf := rfl
    rw [hbytes, exponent?, if_pos (charOf_mark e.mark_ok), hsplit]
    simp only [hnumber, Option.map_some, Option.elim_some, Exponent.value, decide_eq_true_eq]

theorem not_digit_exponent (e : Option Exponent) :
    ∀ c, ((exponentBytes e).map charOf).head? = some c → c.isDigit = false := by
  intro c hc
  cases e with
  | none => cases hc
  | some e =>
    obtain rfl : charOf e.mark = c := Option.some.inj hc
    rcases charOf_mark e.mark_ok with h | h <;> rw [h] <;> decide

/-- The exponent is behind the digits, with or without a point. -/
theorem splitFraction_bytes {fs : List UInt8} (hfs : ∀ d ∈ fs, isDigitByte d = true)
    (e : Option Exponent) :
    splitFraction ((pointed fs ++ exponentBytes e).map charOf) =
      (fs.map charOf, (exponentBytes e).map charOf) := by
  rw [List.map_append]
  cases fs with
  | nil =>
    cases e with
    | none => rfl
    | some e =>
      have hpoint : charOf e.mark ≠ '.' := by
        rcases charOf_mark e.mark_ok with h | h <;> rw [h] <;> decide
      have hbytes : (exponentBytes (some e)).map charOf =
          charOf e.mark :: (e.sign.toList ++ e.digits).map charOf := rfl
      simp [pointed, hbytes, splitFraction, hpoint]
  | cons d ds =>
    obtain ⟨htake, hdrop⟩ := Decimal.takeWhile_of_head (isDigit_map hfs) (not_digit_exponent e)
    change (((d :: ds).map charOf ++ (exponentBytes e).map charOf).takeWhile Char.isDigit,
      ((d :: ds).map charOf ++ (exponentBytes e).map charOf).dropWhile Char.isDigit) = _
    rw [htake, hdrop]

/-! ## Numerals -/

namespace Numeral

variable (n : Numeral)

theorem not_digit_behind : ∀ c, ((pointed n.fraction ++ exponentBytes n.exponent).map charOf).head? =
    some c → c.isDigit = false := by
  intro c hc
  cases h : n.fraction with
  | nil =>
    rw [h] at hc
    exact not_digit_exponent n.exponent c hc
  | cons d ds =>
    rw [h] at hc
    obtain rfl := Option.some.inj hc
    decide

/-- **The characters of a numeral** are read as all of its digits, with the power of ten of the last
    one. -/
theorem ofChars?_unsigned :
    Decimal.ofChars? (n.unsigned.map charOf) = some ⟨n.significand, n.scale⟩ := by
  obtain ⟨htake, hdrop⟩ := Decimal.takeWhile_of_head (isDigit_map n.whole_digits) n.not_digit_behind
  have hdigits : ∀ d ∈ n.whole ++ n.fraction, isDigitByte d = true :=
    List.forall_mem_append.2 ⟨n.whole_digits, n.fraction_ok⟩
  have hnumber := wholeNumber?_map
    (List.append_ne_nil_of_left_ne_nil n.whole_ne_nil n.fraction) hdigits
  rw [List.map_append] at hnumber
  rw [unsigned, List.map_append]
  simp only [Decimal.ofChars?, htake, hdrop, splitFraction_bytes n.fraction_ok, hnumber,
    exponent?_bytes, List.length_map]
  rfl

/-- **The text of a numeral is read as the double nearest to it.** -/
theorem read?_text : Decimal.read? n.text = some n.toFloat := by
  obtain ⟨d, ds, hds⟩ := List.exists_cons_of_ne_nil n.whole_ne_nil
  have hd : (charOf d).isDigit = true :=
    isDigit_charOf (n.whole_digits d (by rw [hds]; exact List.mem_cons_self))
  have hunsigned : n.unsigned.map charOf =
      charOf d :: (ds ++ (pointed n.fraction ++ exponentBytes n.exponent)).map charOf := by
    rw [unsigned, hds]
    rfl
  have hsign : (n.bytes.map charOf) =
      (if n.negative then ['-'] else []) ++ n.unsigned.map charOf := by
    rw [bytes, List.map_append]
    congr 1
    cases n.negative <;> decide
  have hliteral : Decimal.Literal.ofChars? n.text.toList =
      some (.finite n.negative ⟨n.significand, n.scale⟩) := by
    rw [text, String.toList_ofList, hsign, hunsigned, Decimal.Literal.ofChars?,
      Decimal.splitSign_of_digit hd, ← hunsigned]
    simp only [ofChars?_unsigned]
  rw [Decimal.read?, hliteral]
  rfl

end Numeral

end NearestHost.Json
