/-
  Texts with one decimal place.

  * `Tenths`: the number of tenths that such a text stands for.
  * `Rounded`: a text with the tenths nearest to a double.
  * `rounded_oneDecimal`: what `oneDecimal` writes is such a text, for every finite double.
-/
import NearestHost.Decimal.Fixed
import NearestHost.Proofs.Decimal.Written
import NearestHost.Proofs.Double.Order

namespace NearestHost.Decimal

open Double

/-- The number of tenths of a text with digits, a point and one more digit, and with a sign if it is
    negative. -/
inductive Tenths : List Char → Int → Prop
  | unsigned {cs whole : List Char} {digit : Char} (positional : Positional cs whole [digit]) :
      Tenths cs (Nat.ofDigitChars 10 (whole ++ [digit]) 0)
  | negative {cs whole : List Char} {digit : Char} (positional : Positional cs whole [digit]) :
      Tenths ('-' :: cs) (-(Nat.ofDigitChars 10 (whole ++ [digit]) 0 : Int))

/-- A text with one decimal place, at most half a tenth away from a double. -/
def Rounded (text : String) (x : Float) : Prop :=
  ∃ n, Tenths text.toList n ∧ 2 * (10 * value x - n * 2 ^ 1074).natAbs ≤ 2 ^ 1074

/-! ## Whole numbers of tenths -/

/-- A quotient is at most one half away from what it is rounded to. -/
theorem dist_roundHalfEven_le {a d : Nat} (hd : 0 < d) :
    2 * ((a : Int) - roundHalfEven a d * d).natAbs ≤ d := by
  have hdiv := Nat.div_add_mod a d
  have hmod := Nat.mod_lt a hd
  rw [Nat.mul_comm] at hdiv
  unfold roundHalfEven
  split_ifs with hlow
  · have hle : 2 * (a % d) ≤ d := hlow.elim Nat.le_of_lt fun h => h.1.le
    have hdist : (a : Int) - (a / d : Nat) * d = (a % d : Nat) := by
      rw [← Int.natCast_mul]
      omega
    rwa [hdist, Int.natAbs_natCast]
  · have hge : d ≤ 2 * (a % d) := by omega
    have hdist : (a : Int) - (a / d + 1 : Nat) * d = (a % d : Nat) - d := by
      rw [← Int.natCast_mul, Nat.succ_mul]
      omega
    rw [hdist]
    omega

theorem tenths_near (b : Nat) :
    2 * (10 * (units b : Int) - tenths b * 2 ^ 1074).natAbs ≤ 2 ^ 1074 := by
  have hdist := dist_roundHalfEven_le (a := units b * 10) (Nat.two_pow_pos 1074)
  have hcast : ((2 ^ 1074 : Nat) : Int) = 2 ^ 1074 := Int.natCast_pow 2 1074
  rwa [← tenths, Int.natCast_mul, Int.mul_comm, hcast] at hdist

/-! ## Texts -/

/-- The digits of a number of tenths, with a point in front of the last. -/
def tenthsText (n : Nat) : List Char := Nat.toDigits 10 (n / 10) ++ '.' :: Nat.toDigits 10 (n % 10)

theorem tenths_tenthsText (n : Nat) : ∃ whole digit,
    Positional (tenthsText n) whole [digit] ∧ Nat.ofDigitChars 10 (whole ++ [digit]) 0 = n := by
  have hdigits (m : Nat) : ∀ c ∈ Nat.toDigits 10 m, c.isDigit = true :=
    fun _ hc => Nat.isDigit_of_mem_toDigits (by decide) (by decide) hc
  have hlast : Nat.toDigits 10 (n % 10) = [Nat.digitChar (n % 10)] :=
    Nat.toDigits_of_lt_base (Nat.mod_lt n (by decide))
  refine ⟨Nat.toDigits 10 (n / 10), Nat.digitChar (n % 10), ?_, ?_⟩
  · rw [tenthsText, ← hlast]
    exact .pointed Nat.toDigits_ne_nil (hdigits _) Nat.toDigits_ne_nil (hdigits _)
  · rw [← hlast, Nat.ofDigitChars_append, Nat.ofDigitChars_ten_toDigits,
      Nat.ofDigitChars_eq_ofDigitChars_zero, Nat.ofDigitChars_ten_toDigits, hlast,
      List.length_singleton]
    omega

theorem toList_oneDecimal {x : Float} (hx : isFinite x = true) : (oneDecimal x).toList =
    (if isNegative x then ['-'] else []) ++ tenthsText (tenths (magnitude x)) := by
  have hsign : (if isNegative x then "-" else "").toList =
      if isNegative x then ['-'] else [] := by split <;> rfl
  have hpoint : ".".toList = ['.'] := rfl
  unfold oneDecimal
  rw [if_pos hx]
  simp only [String.toList_append, Nat.toString_eq_repr, Nat.toList_repr, hsign, hpoint, tenthsText,
    List.append_assoc, List.singleton_append]

/-- **The text of a finite double is rounded to one decimal place.** -/
theorem rounded_oneDecimal {x : Float} (hx : isFinite x = true) : Rounded (oneDecimal x) x := by
  obtain ⟨whole, digit, hpositional, htenths⟩ := tenths_tenthsText (tenths (magnitude x))
  have hnear := tenths_near (magnitude x)
  have htext := toList_oneDecimal hx
  unfold Rounded
  generalize (2 : Int) ^ 1074 = u at hnear ⊢
  cases hneg : isNegative x with
  | false =>
    rw [hneg, if_neg Bool.false_ne_true, List.nil_append] at htext
    refine ⟨_, htext ▸ Tenths.unsigned hpositional, ?_⟩
    rwa [htenths, value_of_not_neg hneg]
  | true =>
    rw [hneg, if_pos rfl, List.singleton_append] at htext
    refine ⟨_, htext ▸ Tenths.negative hpositional, ?_⟩
    have hdist : 10 * -(units (magnitude x) : Int) - -(tenths (magnitude x) : Int) * u =
        -(10 * units (magnitude x) - tenths (magnitude x) * u) := by ring
    rwa [htenths, value_of_neg hneg, hdist, Int.natAbs_neg]

example : oneDecimal 9.96 = "10.0" := by decide +kernel

end NearestHost.Decimal
