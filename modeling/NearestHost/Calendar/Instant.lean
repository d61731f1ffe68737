/-
  Points in time and how they are shown.

  * `Instant`: seconds and nanoseconds since the start of 1970 in UTC.
  * `DateTime`: a local date and time with its offset from UTC, and
    `DateTime.instant` the instant it denotes.
  * `Instant.text?`: the second of an instant in UTC.  Only the years from
    -9999 to 9999 can be shown.
-/
import NearestHost.Calendar.Date

namespace NearestHost

open Calendar

/-- A point in time. -/
structure Instant where
  /-- Seconds since the start of 1970 in UTC. -/
  seconds : Int
  /-- Nanoseconds since that second. -/
  nanosecond : Nat
  deriving Repr, DecidableEq

/-- A local date and time. -/
structure DateTime where
  date : Date
  hour : Nat
  minute : Nat
  second : Nat
  nanosecond : Nat
  /-- Seconds that the local time is ahead of UTC. -/
  offset : Int
  deriving Repr, DecidableEq

/-- The seconds of a day before a time of day. -/
def secondOfDay (hour minute second : Nat) : Nat := hour * 3600 + minute * 60 + second

/-- Local time less the offset. -/
def DateTime.instant (t : DateTime) : Instant :=
  ⟨t.date.dayNumber * 86400 + secondOfDay t.hour t.minute t.second - t.offset, t.nanosecond⟩

namespace Instant

/-- The day in UTC, counted from 1 January 1970. -/
def utcDay (t : Instant) : Int := t.seconds / 86400

/-- The second of the day in UTC. -/
def utcSecond (t : Instant) : Nat := (t.seconds % 86400).toNat

/-- The date in UTC. -/
def utcDate (t : Instant) : Date := Date.ofDayNumber t.utcDay

/-- A number in at least `width` digits. -/
def padded (width n : Nat) : String :=
  let ds := Nat.toDigits 10 n
  String.ofList (List.replicate (width - ds.length) '0' ++ ds)

/-- The short names of the days of the week. -/
def weekdayNames : List String := ["Sun", "Mon", "Tue", "Wed", "Thu", "Fri", "Sat"]

/-- The short names of the months. -/
def monthNames : List String :=
  ["Jan", "Feb", "Mar", "Apr", "May", "Jun", "Jul", "Aug", "Sep", "Oct", "Nov", "Dec"]

/-- A year in at least four digits, with a sign if it is negative. -/
def yearText (year : Int) : String := (if year < 0 then "-" else "") ++ padded 4 year.natAbs

/-- Weekday, day, month and year of a day number and its date. -/
def dateText (dayNumber : Int) (d : Date) : String :=
  weekdayNames.getD (weekday dayNumber) "" ++ ", " ++ padded 2 d.day ++ " " ++
    monthNames.getD (d.month - 1) "" ++ " " ++ yearText d.year

/-- Hour, minute and second of a second of the day. -/
def clockText (s : Nat) : String :=
  padded 2 (s / 3600) ++ ":" ++ padded 2 (s / 60 % 60) ++ ":" ++ padded 2 (s % 60)

/-- Whether a year can be shown. -/
def showable (year : Int) : Bool := -9999 ≤ year && year ≤ 9999

/-- The second of an instant in UTC, unless its year cannot be shown. -/
def text? (t : Instant) : Option String :=
  if showable t.utcDate.year then
    some (dateText t.utcDay t.utcDate ++ " at " ++ clockText t.utcSecond ++ " UTC")
  else
    none

end Instant

end NearestHost
