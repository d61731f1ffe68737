/-
  Timestamps apart from their texts.

  * `Timestamp`: the digits of a date and time, a fraction of any length, and the offset.
  * `number?_padded`, `fraction?_digits`, `offset?_of_inRange`: each part is read in
    front of its rest.
  * `nanoseconds_eq`: a fraction is cut to nanoseconds.
  * `read?_of_inRange`, `read?_of_outOfRange`: a timestamp is read as its instant, if its
    parts are in range.
-/
import NearestHost.Calendar.Rfc3339
import NearestHost.Proofs.Calendar.Shown
import NearestHost.Proofs.Decimal.Written

namespace NearestHost.Rfc3339

open Calendar Instant

-- Powers are core's own.
attribute [local instance (high)] instPowNat

/-- The offset from UTC at the end of a timestamp. -/
inductive Zone
  | zulu (small : Bool)
  | shift (behind : Bool) (hours minutes : Fin 100)

namespace Zone

def chars : Zone → List Char
  | zulu small => [if small then 'z' else 'Z']
  | shift behind h m =>
    (if behind then '-' else '+') :: ((padded 2 h).toList ++ ':' :: (padded 2 m).toList)

/-- Seconds ahead of UTC. -/
def offset : Zone → Int
  | zulu _ => 0
  | shift behind h m =>
    let o : Int := h.val * 3600 + m.val * 60
    if behind then -o else o

def InRange : Zone → Prop
  | zulu _ => True
  | shift _ h m => h.val ≤ 23 ∧ m.val ≤ 59

end Zone

/-- A timestamp, with as many digits in each part as its text has.  No digits of a fraction are no
    fraction. -/
structure Timestamp where
  year : Fin 10000
  month : Fin 100
  day : Fin 100
  divider : Char
  hour : Fin 100
  minute : Fin 100
  second : Fin 100
  fraction : List Char
  zone : Zone
  divider_ascii : divider.toNat < 128
  digits : ∀ c ∈ fraction, c.isDigit = true

namespace Timestamp

/-- A fraction behind its point, if there is one. -/
def fractionChars (ds : List Char) : List Char := if ds = [] then [] else '.' :: ds

def chars (s : Timestamp) : List Char :=
  (padded 4 s.year).toList ++ '-' :: ((padded 2 s.month).toList ++ '-' ::
    ((padded 2 s.day).toList ++ s.divider :: ((padded 2 s.hour).toList ++ ':' ::
      ((padded 2 s.minute).toList ++ ':' :: ((padded 2 s.second).toList ++
        (fractionChars s.fraction ++ s.zone.chars))))))

def text (s : Timestamp) : String := String.ofList s.chars

/-- The whole nanoseconds of the fraction. -/
def nanosecond (s : Timestamp) : Nat :=
  Nat.ofDigitChars 10 s.fraction 0 * 10 ^ 9 / 10 ^ s.fraction.length

/-- The local date and time. -/
def dateTime (s : Timestamp) : DateTime :=
  ⟨⟨s.year.val, s.month, s.day⟩, s.hour, s.minute, s.second, s.nanosecond, s.zone.offset⟩

/-- All parts are in range. -/
structure InRange (s : Timestamp) : Prop where
  proper : s.dateTime.Proper
  zone : s.zone.InRange

/-- A part other than the second is out of range. -/
inductive OutOfRange (s : Timestamp) : Prop
  | date (invalid : s.dateTime.date.isValid = false)
  | hour (late : 23 < s.hour.val)
  | minute (late : 59 < s.minute.val)
  | zone (far : ¬ s.zone.InRange)

end Timestamp

/-! ## Parts -/

theorem bind_of_some {α β : Type} {x : Option α} {a : α} (h : x = some a) (f : α → Option β) :
    (x >>= f) = f a := by
  rw [h]
  rfl

theorem number?_padded {w n : Nat} (hw : 0 < w) (hn : n < 10 ^ w) (r : List Char) :
    number? w ((padded w n).toList ++ r) = some (n, r) := by
  have hlength : (padded w n).toList.length = w := by
    rw [String.length_toList, length_padded hw hn]
  have hdigits : (padded w n).toList.all Char.isDigit = true := List.all_eq_true.2 isDigit_padded
  rw [number?, List.take_left' hlength, List.drop_left' hlength, if_pos ⟨hlength, hdigits⟩,
    ofDigitChars_padded]

theorem number?_four (n : Fin 10000) (r : List Char) :
    number? 4 ((padded 4 n).toList ++ r) = some (n.val, r) :=
  number?_padded (by decide) n.isLt r

theorem number?_two (n : Fin 100) (r : List Char) :
    number? 2 ((padded 2 n).toList ++ r) = some (n.val, r) :=
  number?_padded (by decide) n.isLt r

theorem after?_cons (c : Char) (r : List Char) : after? c (c :: r) = some r := if_pos rfl

/-- **A fraction is cut to nanoseconds.** -/
theorem nanoseconds_eq {ds : List Char} (h : ∀ c ∈ ds, c.isDigit = true) :
    nanoseconds ds = Nat.ofDigitChars 10 ds 0 * 10 ^ 9 / 10 ^ ds.length := by
  unfold nanoseconds
  rcases Nat.le_total ds.length 9 with hle | hle
  -- a short fraction is filled up with zeros
  · have hpow : 10 ^ 9 = 10 ^ (9 - ds.length) * 10 ^ ds.length := by
      rw [← Nat.pow_add, Nat.sub_add_cancel hle]
    rw [List.take_of_length_le hle, hpow, ← Nat.mul_assoc,
      Nat.mul_div_cancel _ (Nat.pow_pos (by decide))]
  -- of a long one, the digits behind the ninth are the remainder
  · have hlate : Nat.ofDigitChars 10 (ds.drop 9) 0 < 10 ^ (ds.drop 9).length := by
      simpa using Decimal.ofDigitChars_lt (fun c hc => h c (List.mem_of_mem_drop hc)) 0
    have hvalue : Nat.ofDigitChars 10 ds 0 = Nat.ofDigitChars 10 (ds.drop 9) 0 +
        10 ^ (ds.drop 9).length * Nat.ofDigitChars 10 (ds.take 9) 0 := by
      conv_lhs => rw [← List.take_append_drop 9 ds, Nat.ofDigitChars_append,
        Nat.ofDigitChars_eq_ofDigitChars_zero, Nat.add_comm]
    have hpow : 10 ^ ds.length = 10 ^ (ds.drop 9).length * 10 ^ 9 := by
      rw [← Nat.pow_add, List.length_drop, Nat.sub_add_cancel hle]
    rw [hvalue, hpow, Nat.mul_div_mul_right _ _ (Nat.pow_pos (by decide)),
      Nat.add_mul_div_left _ _ (Nat.zero_lt_of_lt hlate), Nat.div_eq_of_lt hlate, Nat.zero_add,
      Nat.sub_eq_zero_of_le hle, Nat.pow_zero, Nat.mul_one]

/-- A fraction is read in front of anything that does not go on with it. -/
theorem fraction?_digits {ds r : List Char} (h : ∀ c ∈ ds, c.isDigit = true)
    (hr : ∀ c, r.head? = some c → c.isDigit = false ∧ c ≠ '.') :
    fraction? (Timestamp.fractionChars ds ++ r) =
      some (Nat.ofDigitChars 10 ds 0 * 10 ^ 9 / 10 ^ ds.length, r) := by
  rw [← nanoseconds_eq h]
  by_cases hds : ds = []
  · subst hds
    cases r with
    | nil => rfl
    | cons c r =>
      have hc := (hr c rfl).2
      have hsome : fraction? (c :: r) = some (0, c :: r) := by
        unfold fraction?
        split
        · rename_i heq
          exact absurd (List.cons.inj heq).1 hc
        · rfl
      exact hsome
  · obtain ⟨htake, hdrop⟩ := Decimal.takeWhile_of_head h fun c hc => (hr c hc).1
    rw [Timestamp.fractionChars, if_neg hds, List.cons_append, fraction?, htake, hdrop, if_neg hds]

theorem shift?_chars (h m : Fin 100) :
    shift? ((padded 2 h).toList ++ ':' :: (padded 2 m).toList) =
      if h.val ≤ 23 ∧ m.val ≤ 59 then some ((h.val : Int) * 3600 + m.val * 60) else none := by
  have hm := number?_two m []
  rw [List.append_nil] at hm
  simp only [shift?, ↓bind_of_some (number?_two _ _), ↓bind_of_some (after?_cons _ _),
    ↓bind_of_some hm, true_and]

theorem offset?_plus (r : List Char) : offset? ('+' :: r) = shift? r := rfl

theorem offset?_minus (r : List Char) : offset? ('-' :: r) = (shift? r).map (- ·) := rfl

namespace Zone

variable {z : Zone}

theorem offset?_of_inRange (h : z.InRange) : offset? z.chars = some z.offset := by
  cases z with
  | zulu small => cases small <;> rfl
  | shift behind hours minutes =>
    obtain ⟨hh, hm⟩ := h
    have hshift := shift?_chars hours minutes
    rw [if_pos ⟨hh, hm⟩] at hshift
    cases behind
    · rw [chars, if_neg Bool.false_ne_true, offset?_plus, hshift]
      rfl
    · rw [chars, if_pos rfl, offset?_minus, hshift]
      rfl

theorem offset?_of_not_inRange (h : ¬ z.InRange) : offset? z.chars = none := by
  cases z with
  | zulu small => exact absurd trivial h
  | shift behind hours minutes =>
    have hfar : ¬ (hours.val ≤ 23 ∧ minutes.val ≤ 59) := h
    have hshift := shift?_chars hours minutes
    rw [if_neg hfar] at hshift
    cases behind
    · rw [chars, if_neg Bool.false_ne_true, offset?_plus, hshift]
    · rw [chars, if_pos rfl, offset?_minus, hshift]
      rfl

theorem head_chars (z : Zone) (c : Char) (h : z.chars.head? = some c) :
    c.isDigit = false ∧ c ≠ '.' := by
  cases z with
  | zulu small => cases small <;> obtain rfl := Option.some.inj h <;> decide
  | shift behind _ _ => cases behind <;> obtain rfl := Option.some.inj h <;> decide

end Zone

/-! ## The whole -/

namespace Timestamp

variable {s : Timestamp}

theorem fields?_chars (s : Timestamp) :
    fields? s.chars = (offset? s.zone.chars).map fun o => { s.dateTime with offset := o } := by
  have hdivider (r : List Char) : afterDivider? (s.divider :: r) = some r :=
    if_pos s.divider_ascii
  have hfraction := fraction?_digits s.digits s.zone.head_chars
  -- a part at a time, so that what follows a part is rewritten once
  simp only [fields?, chars, ↓bind_of_some (number?_four _ _), ↓bind_of_some (number?_two _ _),
    ↓bind_of_some (after?_cons _ _), ↓bind_of_some (hdivider _), ↓bind_of_some hfraction]
  cases offset? s.zone.chars <;> rfl

/-- **A timestamp is read as its instant.** -/
theorem read?_of_inRange (h : s.InRange) : read? s.text = some s.dateTime.instant := by
  obtain ⟨⟨hdate, hhour, hminute, hsecond⟩, hzone⟩ := h
  have hfields : fields? s.chars = some s.dateTime := by
    rw [fields?_chars, Zone.offset?_of_inRange hzone]
    rfl
  rw [read?, text, String.toList_ofList, hfields, Option.bind_some, instant?,
    if_pos ⟨hdate, hhour, hminute⟩, if_pos hsecond]

/-- **A timestamp with a part out of range is not read.** -/
theorem read?_of_outOfRange (h : s.OutOfRange) : read? s.text = none := by
  rw [read?, text, String.toList_ofList, fields?_chars]
  cases hoffset : offset? s.zone.chars with
  | none => rfl
  | some o =>
    refine if_neg ?_
    rintro ⟨hdate, hhour, hminute⟩
    cases h with
    | date invalid => exact Bool.false_ne_true (invalid.symm.trans hdate)
    | hour late => exact absurd hhour (Nat.not_le.2 late)
    | minute late => exact absurd hminute (Nat.not_le.2 late)
    | zone far =>
      rw [Zone.offset?_of_not_inRange far] at hoffset
      cases hoffset

end Timestamp

end NearestHost.Rfc3339
