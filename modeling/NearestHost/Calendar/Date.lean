/-
  The proleptic Gregorian calendar.

  * `Date`: a year, a month from 1 and a day from 1.
  * `Date.dayNumber`: days since 1 January 1970.
  * `Date.ofDayNumber`: the date of such a number of days.
  * `weekday`: the day of the week, from Sunday, of a day number.
-/
namespace NearestHost.Calendar

/-- A day of the proleptic Gregorian calendar; the year 0 is the one before the year 1. -/
structure Date where
  year : Int
  month : Nat
  day : Nat
  deriving Repr, DecidableEq

/-- Every fourth year, less every hundredth, and yet every four hundredth. -/
def isLeap (year : Int) : Bool := year % 4 == 0 && (year % 100 != 0 || year % 400 == 0)

/-- The lengths of the months of a year. -/
def monthLengths (year : Int) : List Nat :=
  [31, if isLeap year then 29 else 28, 31, 30, 31, 30, 31, 31, 30, 31, 30, 31]

/-- The length of a month; zero if there is no such month. -/
def daysInMonth (year : Int) (month : Nat) : Nat :=
  if month = 0 then 0 else (monthLengths year).getD (month - 1) 0

/-- Days from the start of the year 0 to the start of a year. -/
def daysBeforeYear (year : Int) : Int :=
  365 * year + (year + 3) / 4 - (year + 99) / 100 + (year + 399) / 400

-- Sums start from core's own zero.
attribute [local instance (high)] Zero.ofOfNat0

/-- Days from the start of a year to the start of a month. -/
def daysBeforeMonth (year : Int) (month : Nat) : Nat := ((monthLengths year).take (month - 1)).sum

/-- Days from the start of the year 0 to 1 January 1970. -/
def epochDay : Int := 719528

namespace Date

/-- Whether the month and the day exist. -/
def isValid (d : Date) : Bool :=
  1 ≤ d.month && d.month ≤ 12 && 1 ≤ d.day && d.day ≤ daysInMonth d.year d.month

/-- Days since 1 January 1970. -/
def dayNumber (d : Date) : Int :=
  daysBeforeYear d.year + daysBeforeMonth d.year d.month + (d.day - 1 : Nat) - epochDay

/-- The year that a day lies in, by its number of days since the start of the year 0.  A year is
    146097 / 400 days long on average, which is off by one year at most. -/
def yearOf (days : Int) : Int :=
  let y := days * 400 / 146097
  if days < daysBeforeYear y then y - 1
  else if daysBeforeYear (y + 1) ≤ days then y + 1
  else y

/-- The place of a day in a row of months, and its place in that month, both from zero. -/
def splitMonths : List Nat → Nat → Nat × Nat
  | [], n => (0, n)
  | m :: r, n =>
    if n < m then (0, n)
    else
      let (i, k) := splitMonths r (n - m)
      (i + 1, k)

/-- The date that is a number of days after 1 January 1970. -/
def ofDayNumber (n : Int) : Date :=
  let days := n + epochDay
  let year := yearOf days
  let (i, k) := splitMonths (monthLengths year) (days - daysBeforeYear year).toNat
  ⟨year, i + 1, k + 1⟩

/-- Whether a date is the last one of its month. -/
def endsMonth (d : Date) : Bool := d.day == daysInMonth d.year d.month

end Date

/-- The day of the week from zero, for Sunday; the day number 0 is a Thursday. -/
def weekday (dayNumber : Int) : Nat := ((dayNumber + 4) % 7).toNat

end NearestHost.Calendar
