/-
  Clocks, second by second.

  * `DateTime.tick`: a clock one second later, carrying into minutes, hours and days.
  * `tick_spec`, `iterate_tick`: one second and any number of them pass on the clock
    as they pass in time.
  * `DateTime.IsUtc`: the clock in UTC beside a local one, which is ahead of it by its
    offset.  `isUtc_iff`: there is one for every local time.
-/
import NearestHost.Proofs.Calendar.Date
import Mathlib.Logic.Function.Iterate

namespace NearestHost

open Calendar

namespace DateTime

/-- The fields of a date and time that exist. -/
structure Proper (t : DateTime) : Prop where
  date : t.date.isValid = true
  hour : t.hour ≤ 23
  minute : t.minute ≤ 59
  second : t.second ≤ 59

/-- One second later on the same clock. -/
def tick (t : DateTime) : DateTime :=
  if t.second < 59 then { t with second := t.second + 1 }
  else if t.minute < 59 then { t with minute := t.minute + 1, second := 0 }
  else if t.hour < 23 then { t with hour := t.hour + 1, minute := 0, second := 0 }
  else { t with date := t.date.next, hour := 0, minute := 0, second := 0 }

variable {t u : DateTime}

/-- **A second on the clock** is a second in time. -/
theorem tick_spec (h : t.Proper) : t.tick.Proper ∧ t.tick.offset = t.offset ∧
    t.tick.instant = ⟨t.instant.seconds + 1, t.instant.nanosecond⟩ := by
  obtain ⟨hdate, hhour, hminute, hsecond⟩ := h
  unfold tick
  split_ifs with h₁ h₂ h₃
  · refine ⟨⟨hdate, hhour, hminute, h₁⟩, rfl, ?_⟩
    simp only [instant, secondOfDay, Instant.mk.injEq, and_true]
    omega
  · refine ⟨⟨hdate, hhour, h₂, Nat.zero_le _⟩, rfl, ?_⟩
    simp only [instant, secondOfDay, Instant.mk.injEq, and_true]
    omega
  · refine ⟨⟨hdate, h₃, Nat.zero_le _, Nat.zero_le _⟩, rfl, ?_⟩
    simp only [instant, secondOfDay, Instant.mk.injEq, and_true]
    omega
  · obtain ⟨hnext, hnumber⟩ := Date.next_spec hdate
    refine ⟨⟨hnext, Nat.zero_le _, Nat.zero_le _, Nat.zero_le _⟩, rfl, ?_⟩
    simp only [instant, secondOfDay, hnumber, Instant.mk.injEq, and_true]
    omega

/-- **Any number of seconds** pass on the clock as they pass in time. -/
theorem iterate_tick (h : t.Proper) (n : Nat) : (tick^[n] t).Proper ∧
    (tick^[n] t).offset = t.offset ∧
      (tick^[n] t).instant = ⟨t.instant.seconds + n, t.instant.nanosecond⟩ := by
  induction n with
  | zero => exact ⟨h, rfl, by simp⟩
  | succ n ih =>
    obtain ⟨hproper, hoffset, hinstant⟩ := ih
    obtain ⟨hproper', hoffset', hinstant'⟩ := tick_spec hproper
    rw [Function.iterate_succ_apply']
    refine ⟨hproper', hoffset'.trans hoffset, ?_⟩
    rw [hinstant', hinstant]
    simp only [Instant.mk.injEq, and_true]
    omega

end DateTime

/-! ## The clock in UTC -/

namespace Instant

/-- The date and time in UTC. -/
def utc (t : Instant) : DateTime :=
  ⟨t.utcDate, t.utcSecond / 3600, t.utcSecond / 60 % 60, t.utcSecond % 60, t.nanosecond, 0⟩

theorem proper_utc (t : Instant) : t.utc.Proper where
  date := Date.isValid_ofDayNumber _
  hour := by
    change t.utcSecond / 3600 ≤ 23
    unfold utcSecond
    omega
  minute := by
    change t.utcSecond / 60 % 60 ≤ 59
    omega
  second := by
    change t.utcSecond % 60 ≤ 59
    omega

theorem instant_utc (t : Instant) : t.utc.instant = t := by
  obtain ⟨s, n⟩ := t
  have hday : (Instant.mk s n).utcDate.dayNumber = s / 86400 := Date.dayNumber_ofDayNumber _
  simp only [DateTime.instant, utc, secondOfDay, hday, utcSecond, mk.injEq, and_true]
  omega

end Instant

namespace DateTime

variable {t u : DateTime}

/-- A clock in UTC shows no other date and time at its instant. -/
theorem utc_instant (h : t.Proper) (hoffset : t.offset = 0) : t.instant.utc = t := by
  obtain ⟨hdate, hhour, hminute, hsecond⟩ := h
  obtain ⟨d, hour, minute, second, nanosecond, offset⟩ := t
  obtain rfl : offset = 0 := hoffset
  dsimp only at hdate hhour hminute hsecond
  have hday : (instant ⟨d, hour, minute, second, nanosecond, 0⟩).utcDay = d.dayNumber := by
    simp only [Instant.utcDay, instant, secondOfDay]
    omega
  have hsec : (instant ⟨d, hour, minute, second, nanosecond, 0⟩).utcSecond =
      hour * 3600 + minute * 60 + second := by
    simp only [Instant.utcSecond, instant, secondOfDay]
    omega
  have hd : (instant ⟨d, hour, minute, second, nanosecond, 0⟩).utcDate = d := by
    rw [Instant.utcDate, hday, Date.ofDayNumber_dayNumber hdate]
  simp only [Instant.utc, hd, hsec, mk.injEq, true_and, and_true]
  refine ⟨by omega, by omega, by omega, rfl⟩

/-- The clock without its offset. -/
def reading (t : DateTime) : DateTime := { t with offset := 0 }

theorem instant_reading (t : DateTime) :
    t.reading.instant = ⟨t.instant.seconds + t.offset, t.instant.nanosecond⟩ := by
  simp only [reading, instant, Instant.mk.injEq, and_true]
  omega

/-- `u` is the date and time in UTC beside the local one: after as many seconds as the local time
    is ahead, its clock shows the local time; or the local clock shows `u` after as many seconds
    as it is behind. -/
structure IsUtc (u t : DateTime) : Prop where
  proper : u.Proper
  offset : u.offset = 0
  clocks : tick^[t.offset.toNat] u = tick^[(-t.offset).toNat] t.reading

/-- **There is one date and time in UTC** for every local one. -/
theorem isUtc_iff (ht : t.Proper) : u.IsUtc t ↔ u = t.instant.utc := by
  have hreading : t.reading.Proper := ⟨ht.date, ht.hour, ht.minute, ht.second⟩
  obtain ⟨hproper₂, hoffset₂, hinstant₂⟩ := iterate_tick hreading (-t.offset).toNat
  rw [instant_reading] at hinstant₂
  constructor
  · rintro ⟨hproper, hoffset, hclocks⟩
    obtain ⟨-, -, hinstant⟩ := iterate_tick hproper t.offset.toNat
    have hu : u.instant = t.instant := by
      rw [hclocks, hinstant₂, Instant.mk.injEq] at hinstant
      have hseconds : u.instant.seconds = t.instant.seconds := by
        have hpast := hinstant.1
        dsimp only at hpast
        omega
      exact congrArg₂ Instant.mk hseconds hinstant.2.symm
    rw [← hu, utc_instant hproper hoffset]
  · rintro rfl
    refine ⟨t.instant.proper_utc, rfl, ?_⟩
    obtain ⟨hproper, hoffset, hinstant⟩ := iterate_tick t.instant.proper_utc t.offset.toNat
    rw [Instant.instant_utc] at hinstant
    -- both clocks show what a clock in UTC shows at one instant
    have hsame : (tick^[t.offset.toNat] t.instant.utc).instant =
        (tick^[(-t.offset).toNat] t.reading).instant := by
      rw [hinstant, hinstant₂, Instant.mk.injEq]
      exact ⟨by dsimp only; omega, rfl⟩
    rw [← utc_instant hproper hoffset, hsame, utc_instant hproper₂ hoffset₂]

end DateTime

end NearestHost
