/-
  Letters beyond ASCII in the letters and digits of ASCII.

  A text is written as its ASCII characters and, after the last hyphen, one
  number for each other character, in the order of the characters.  The number
  says how far to move through the places of the growing text, once around for
  each character that is passed over.  Its digits have base 36, and the number
  ends with the first digit below a threshold, which follows the size of the
  numbers before.

  * `encode`: the written form of a text.
  * `decode?`: the text of a written form.
-/
namespace NearestHost.Dns.Punycode

/-- The first character that is written as a number. -/
def firstPoint : Nat := 128

/-- The bias before the first number. -/
def firstBias : Nat := 72

/-- The threshold of the digit at place `k / 36`. -/
def threshold (bias k : Nat) : Nat :=
  if k ≤ bias then 1 else if bias + 26 ≤ k then 26 else k - bias

/-- The bias after a number, once that is scaled down to the size of a few digits. -/
def scaleBias (k delta : Nat) : Nat :=
  if 455 < delta then scaleBias (k + 36) (delta / 35) else k + 36 * delta / (delta + 38)
termination_by delta

/-- The bias after a number, given the length of the text that it made. -/
def adapt (delta length : Nat) (first : Bool) : Nat :=
  let d := if first then delta / 700 else delta / 2
  scaleBias 0 (d + d / length)

/-- The character of a digit. -/
def digitChar (d : Nat) : Char :=
  if d < 26 then Char.ofNat ('a'.toNat + d) else Char.ofNat ('0'.toNat + (d - 26))

/-- The digit of a character, in both letter cases. -/
def digitValue? (c : Char) : Option Nat :=
  if 'a' ≤ c ∧ c ≤ 'z' then some (c.toNat - 'a'.toNat)
  else if 'A' ≤ c ∧ c ≤ 'Z' then some (c.toNat - 'A'.toNat)
  else if '0' ≤ c ∧ c ≤ '9' then some (c.toNat - '0'.toNat + 26)
  else none

/-! ## Writing -/

theorem threshold_pos (bias k : Nat) : 1 ≤ threshold bias k := by
  unfold threshold; split
  · omega
  · split <;> omega

/-- The digits of a number, from the place `k / 36` on. -/
def encodeNumber (bias k q : Nat) : List Char :=
  let t := threshold bias k
  if q < t then [digitChar q]
  else digitChar (t + (q - t) % (36 - t)) :: encodeNumber bias (k + 36) ((q - t) / (36 - t))
termination_by q
decreasing_by
  have := threshold_pos bias k
  have := Nat.div_le_self (q - threshold bias k) (36 - threshold bias k)
  omega

/-- Where the writer stands. -/
structure Writer where
  /-- The digits so far. -/
  digits : List Char
  bias : Nat
  /-- Places passed since the last number. -/
  delta : Nat
  /-- How many characters are written. -/
  done : Nat
  /-- How many of them are ASCII. -/
  basic : Nat

/-- Passes a character of the text while the character `m` is written. -/
def Writer.pass (m : Nat) (w : Writer) (c : Char) : Writer :=
  if c.toNat < m then { w with delta := w.delta + 1 }
  else if c.toNat = m then
    ⟨w.digits ++ encodeNumber w.bias 36 w.delta, adapt w.delta (w.done + 1) (w.done = w.basic), 0,
      w.done + 1, w.basic⟩
  else w

/-- Passes all places from the character `n` on until each place of `m` is written. -/
def writePoints (text : List Char) (n : Nat) (w : Writer) : List Nat → Writer
  | [] => w
  | m :: r =>
    let w := text.foldl (Writer.pass m) { w with delta := w.delta + (m - n) * (w.done + 1) }
    writePoints text (m + 1) { w with delta := w.delta + 1 } r

/-- The written form of a text. -/
def encode (text : List Char) : List Char :=
  let basic := text.filter (·.toNat < firstPoint)
  let points := ((text.filter (firstPoint ≤ ·.toNat)).map Char.toNat).eraseDups.mergeSort
  let w := writePoints text firstPoint ⟨[], firstBias, 0, basic.length, basic.length⟩ points
  (if basic = [] then [] else basic ++ ['-']) ++ w.digits

/-! ## Reading -/

/-- Where the reader stands: the text so far, the next place and character, and the number that is
    being read. -/
structure Reader where
  text : List Char
  place : Nat
  point : Nat
  bias : Nat
  /-- The place before the number. -/
  start : Nat
  weight : Nat
  k : Nat

/-- Takes one digit; the last one of a number puts a character into the text. -/
def Reader.digit? (s : Reader) (d : Nat) : Option Reader :=
  let place := s.place + d * s.weight
  let t := threshold s.bias s.k
  if d < t then
    let length := s.text.length + 1
    let point := s.point + place / length
    let place' := place % length
    if point.isValidChar then
      some ⟨s.text.take place' ++ Char.ofNat point :: s.text.drop place', place' + 1, point,
        adapt (place - s.start) length (s.start = 0), place' + 1, 1, 36⟩
    else
      none
  else
    some { s with place := place, weight := s.weight * (36 - t), k := s.k + 36 }

/-- Takes digits up to the end, where no number may be unfinished. -/
def Reader.read? (s : Reader) : List Char → Option (List Char)
  | [] => if s.k = 36 then some s.text else none
  | c :: r =>
    match digitValue? c with
    | none => none
    | some d =>
      match s.digit? d with
      | none => none
      | some s => s.read? r

/-- What stands before the last hyphen, and what after it. -/
def splitLastHyphen (cs : List Char) : List Char × List Char :=
  let digits := (cs.reverse.takeWhile (· ≠ '-')).reverse
  let front := cs.take (cs.length - digits.length)
  if front.length ≤ 1 then ([], front ++ digits) else (front.dropLast, digits)

/-- The text of a written form. -/
def decode? (cs : List Char) : Option (List Char) :=
  let (basic, digits) := splitLastHyphen cs
  if basic.all (·.toNat < firstPoint) then
    Reader.read? ⟨basic, 0, firstPoint, firstBias, 0, 1, 36⟩ digits
  else
    none

end NearestHost.Dns.Punycode
