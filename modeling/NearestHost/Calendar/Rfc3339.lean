/-
  Timestamps as RFC 3339 writes them.

  `YYYY-MM-DD`, any one ASCII character, `hh:mm:ss`, an optional fraction of at
  least one digit, and `Z`, `z`, `+hh:mm` or `-hh:mm`.  Nanoseconds count, and
  further digits are dropped.

  * `fields?`: the local date and time that a text gives, of any size.
  * `instant?`: the instant it denotes, if there is such a date and time.  A
    second 60 is the end of the second 59, at the end of a month in UTC only.
-/
import NearestHost.Calendar.Instant

namespace NearestHost.Rfc3339

open Calendar

/-- A number of exactly `n` digits, and the rest of the text. -/
def number? (n : Nat) (cs : List Char) : Option (Nat × List Char) :=
  let ds := cs.take n
  if ds.length = n ∧ ds.all Char.isDigit then some (Nat.ofDigitChars 10 ds 0, cs.drop n) else none

/-- The rest of a text after a given character. -/
def after? (c : Char) : List Char → Option (List Char)
  | [] => none
  | d :: r => if c = d then some r else none

/-- The rest of a text after any ASCII character. -/
def afterDivider? : List Char → Option (List Char)
  | [] => none
  | c :: r => if c.toNat < 128 then some r else none

-- Powers are core's own.
attribute [local instance (high)] instPowNat

/-- The nanoseconds of the digits of a fraction. -/
def nanoseconds (ds : List Char) : Nat :=
  Nat.ofDigitChars 10 (ds.take 9) 0 * 10 ^ (9 - ds.length)

/-- The nanoseconds of an optional fraction. -/
def fraction? : List Char → Option (Nat × List Char)
  | '.' :: r =>
    let ds := r.takeWhile Char.isDigit
    if ds = [] then none else some (nanoseconds ds, r.dropWhile Char.isDigit)
  | r => some (0, r)

/-- The seconds of hours and minutes after a sign. -/
def shift? (cs : List Char) : Option Int := do
  let (hours, r) ← number? 2 cs
  let (minutes, r) ← number? 2 (← after? ':' r)
  if r = [] ∧ hours ≤ 23 ∧ minutes ≤ 59 then some (hours * 3600 + minutes * 60) else none

/-- The offset from UTC at the end of a text. -/
def offset? : List Char → Option Int
  | ['Z'] | ['z'] => some 0
  | '+' :: r => shift? r
  | '-' :: r => (shift? r).map (- ·)
  | _ => none

/-- The local date and time that a text gives. -/
def fields? (cs : List Char) : Option DateTime := do
  let (year, r) ← number? 4 cs
  let (month, r) ← number? 2 (← after? '-' r)
  let (day, r) ← number? 2 (← after? '-' r)
  let (hour, r) ← number? 2 (← afterDivider? r)
  let (minute, r) ← number? 2 (← after? ':' r)
  let (second, r) ← number? 2 (← after? ':' r)
  let (nanosecond, r) ← fraction? r
  let offset ← offset? r
  return ⟨⟨year, month, day⟩, hour, minute, second, nanosecond, offset⟩

/-- Whether an instant lies in the last second of a month in UTC. -/
def endsMonth (t : Instant) : Bool := t.utcSecond == 86399 && t.utcDate.endsMonth

/-- The instant of a local date and time, if there is one. -/
def instant? (t : DateTime) : Option Instant :=
  if t.date.isValid ∧ t.hour ≤ 23 ∧ t.minute ≤ 59 then
    if t.second ≤ 59 then some t.instant
    else
      let last := { t with second := 59, nanosecond := 999999999 }
      if t.second = 60 ∧ endsMonth last.instant then some last.instant else none
  else
    none

/-- The instant that a text denotes. -/
def read? (s : String) : Option Instant := (fields? s.toList).bind instant?

end NearestHost.Rfc3339
