/-
  The parts of a number against the grammar of numbers.

  * `Part.Accepts`: bytes go on from a part to the end of a number.
  * `accepts_exponent` to `accepts_sign`: what they are, for each part.
  * `numeral_iff`: bytes are a numeral if and only if their parts are accepted.
  * `Numeral.inRange`: the exact value is in the range of the doubles.
-/
import NearestHost.Proofs.Json.Document

namespace NearestHost.Json

/-- The part that the bytes of a number end. -/
def Part.of? : List UInt8 → Option Part
  | [] => none
  | c :: cs => (Part.start? c).bind (·.through cs)

/-- Bytes go on from a part to the end of a number. -/
def Part.Accepts (p : Part) (bs : List UInt8) : Prop := ∃ q, p.through bs = some q ∧ q.isComplete

variable {p : Part} {c m : UInt8} {bs cs : List UInt8}

theorem accepts_nil : p.Accepts [] ↔ p.isComplete = true := by
  simp [Part.Accepts, Part.through]

theorem accepts_cons : p.Accepts (c :: cs) ↔ ∃ q, p.next c = .part q ∧ q.Accepts cs := by
  cases h : p.next c <;> simp [Part.Accepts, Part.through, h]

/-! ## Bytes -/

theorem digit_ne {d b : UInt8} (h : isDigitByte d = true) (hb : isDigitByte b = false) : d ≠ b := by
  rintro rfl
  rw [h] at hb
  cases hb

theorem not_mark_of_digit (h : isDigitByte c = true) : isMark c = false := by
  have he : c ≠ byteOf 'e' := digit_ne h (by decide)
  have hE : c ≠ byteOf 'E' := digit_ne h (by decide)
  simp [isMark, he, hE]

theorem not_digit_of_mark (h : isMark c = true) : isDigitByte c = false := by
  cases hd : isDigitByte c with
  | false => rfl
  | true => rw [not_mark_of_digit hd] at h; cases h

/-! ## Exponents -/

theorem accepts_exponent : Part.exponent.Accepts bs ↔ ∀ d ∈ bs, isDigitByte d = true := by
  induction bs with
  | nil => simp [accepts_nil, Part.isComplete]
  | cons c cs ih => by_cases hc : isDigitByte c = true <;> simp [accepts_cons, Part.next, hc, ih]

theorem accepts_markSign :
    Part.markSign.Accepts bs ↔ bs ≠ [] ∧ ∀ d ∈ bs, isDigitByte d = true := by
  cases bs with
  | nil => simp [accepts_nil, Part.isComplete]
  | cons c cs =>
    by_cases hc : isDigitByte c = true <;> simp [accepts_cons, Part.next, hc, accepts_exponent]

theorem accepts_mark (hm : isMark m = true) :
    Part.mark.Accepts bs ↔ ∃ e : Exponent, e.bytes = m :: bs := by
  constructor
  · intro h
    cases bs with
    | nil => simp [accepts_nil, Part.isComplete] at h
    | cons c cs =>
      obtain ⟨q, hq, hcs⟩ := accepts_cons.1 h
      by_cases hc : isDigitByte c = true
      · obtain rfl : Part.exponent = q := by simpa [Part.next, hc] using hq
        have hds : ∀ d ∈ c :: cs, isDigitByte d = true :=
          List.forall_mem_cons.2 ⟨hc, accepts_exponent.1 hcs⟩
        exact ⟨⟨m, none, c :: cs, hm, nofun, nofun, hds⟩, rfl⟩
      · by_cases hs : c = byteOf '+' ∨ c = byteOf '-'
        · obtain rfl : Part.markSign = q := by simpa [Part.next, hc, hs] using hq
          obtain ⟨hne, hds⟩ := accepts_markSign.1 hcs
          exact ⟨⟨m, some c, cs, hm, fun x hx => Option.mem_some.1 hx ▸ hs, hne, hds⟩, rfl⟩
        · simp [Part.next, hc, hs] at hq
  · rintro ⟨⟨mark, sign, digits, hmark, hsign, hne, hds⟩, he⟩
    obtain ⟨-, rfl⟩ : mark = m ∧ sign.toList ++ digits = bs := List.cons.inj he
    cases sign with
    | none =>
      obtain ⟨d, ds, rfl⟩ := List.exists_cons_of_ne_nil hne
      obtain ⟨hd, hds⟩ := List.forall_mem_cons.1 hds
      exact accepts_cons.2 ⟨.exponent, by simp [Part.next, hd], accepts_exponent.2 hds⟩
    | some s =>
      have hs := hsign s rfl
      have hnot : isDigitByte s = false := by rcases hs with rfl | rfl <;> decide
      refine accepts_cons.2 ⟨.markSign, ?_, accepts_markSign.2 ⟨hne, hds⟩⟩
      simp [Part.next, hnot, hs]

theorem exponentBytes_cons (hm : isMark m = true) :
    Part.mark.Accepts cs ↔ ∃ e, exponentBytes e = m :: cs := by
  rw [accepts_mark hm]
  constructor
  · rintro ⟨e, he⟩; exact ⟨some e, he⟩
  · rintro ⟨_ | e, he⟩
    · cases he
    · exact ⟨e, he⟩

theorem exponentBytes_head {e : Option Exponent} (h : exponentBytes e = c :: cs) :
    isMark c = true := by
  cases e with
  | none => cases h
  | some e => cases h; exact e.mark_ok

/-! ## Digits after the point -/

theorem accepts_fraction : Part.fraction.Accepts bs ↔
    ∃ f e, (∀ d ∈ f, isDigitByte d = true) ∧ f ++ exponentBytes e = bs := by
  induction bs with
  | nil =>
    refine iff_of_true (accepts_nil.2 rfl) ⟨[], none, nofun, rfl⟩
  | cons c cs ih =>
    rw [accepts_cons]
    constructor
    · rintro ⟨q, hq, hcs⟩
      by_cases hc : isDigitByte c = true
      · obtain rfl : Part.fraction = q := by simpa [Part.next, hc] using hq
        obtain ⟨f, e, hf, rfl⟩ := ih.1 hcs
        exact ⟨c :: f, e, List.forall_mem_cons.2 ⟨hc, hf⟩, rfl⟩
      · by_cases hm : isMark c = true
        · obtain rfl : Part.mark = q := by simpa [Part.next, hc, hm] using hq
          obtain ⟨e, he⟩ := (exponentBytes_cons hm).1 hcs
          exact ⟨[], e, nofun, he⟩
        · simp [Part.next, hc, hm] at hq
    · rintro ⟨f, e, hf, heq⟩
      cases f with
      | nil =>
        have hm := exponentBytes_head heq
        exact ⟨.mark, by simp [Part.next, not_digit_of_mark hm, hm],
          (exponentBytes_cons hm).2 ⟨e, heq⟩⟩
      | cons d ds =>
        obtain ⟨rfl, hcs⟩ := List.cons.inj heq
        obtain ⟨hd, hds⟩ := List.forall_mem_cons.1 hf
        exact ⟨.fraction, by simp [Part.next, hd], ih.2 ⟨ds, e, hds, hcs⟩⟩

theorem accepts_point : Part.point.Accepts bs ↔
    ∃ d f e, (∀ x ∈ d :: f, isDigitByte x = true) ∧ d :: f ++ exponentBytes e = bs := by
  cases bs with
  | nil => simp [accepts_nil, Part.isComplete]
  | cons c cs =>
    rw [accepts_cons]
    constructor
    · rintro ⟨q, hq, hcs⟩
      by_cases hc : isDigitByte c = true
      · obtain rfl : Part.fraction = q := by simpa [Part.next, hc] using hq
        obtain ⟨f, e, hf, rfl⟩ := accepts_fraction.1 hcs
        exact ⟨c, f, e, List.forall_mem_cons.2 ⟨hc, hf⟩, rfl⟩
      · simp [Part.next, hc] at hq
    · rintro ⟨d, f, e, hf, heq⟩
      obtain ⟨rfl, hcs⟩ := List.cons.inj heq
      obtain ⟨hd, hds⟩ := List.forall_mem_cons.1 hf
      exact ⟨.fraction, by simp [Part.next, hd], accepts_fraction.2 ⟨f, e, hds, hcs⟩⟩

/-! ## Digits before the point -/

theorem accepts_afterWhole :
    (∃ q, Part.afterWhole c = .part q ∧ q.Accepts cs) ↔
      ∃ f e, (∀ d ∈ f, isDigitByte d = true) ∧ pointed f ++ exponentBytes e = c :: cs := by
  constructor
  · rintro ⟨q, hq, hcs⟩
    by_cases hp : c = byteOf '.'
    · obtain rfl : Part.point = q := by simpa [Part.afterWhole, hp] using hq
      obtain ⟨d, f, e, hf, rfl⟩ := accepts_point.1 hcs
      exact ⟨d :: f, e, hf, by rw [hp]; rfl⟩
    · by_cases hm : isMark c = true
      · obtain rfl : Part.mark = q := by simpa [Part.afterWhole, hp, hm] using hq
        obtain ⟨e, he⟩ := (exponentBytes_cons hm).1 hcs
        exact ⟨[], e, nofun, he⟩
      · simp [Part.afterWhole, hp, hm] at hq
  · rintro ⟨f, e, hf, heq⟩
    cases f with
    | nil =>
      have hm := exponentBytes_head heq
      have hp : c ≠ byteOf '.' := by rintro rfl; exact absurd hm (by decide)
      exact ⟨.mark, by simp [Part.afterWhole, hp, hm], (exponentBytes_cons hm).2 ⟨e, heq⟩⟩
    | cons d f =>
      obtain ⟨rfl, hcs⟩ := List.cons.inj heq
      exact ⟨.point, by simp [Part.afterWhole], accepts_point.2 ⟨d, f, e, hf, hcs⟩⟩

theorem not_digit_of_pointed {f : List UInt8} {e : Option Exponent}
    (h : pointed f ++ exponentBytes e = c :: cs) : isDigitByte c = false := by
  cases f with
  | nil => exact not_digit_of_mark (exponentBytes_head h)
  | cons d f => cases h; decide

theorem accepts_zero : Part.zero.Accepts bs ↔
    ∃ f e, (∀ d ∈ f, isDigitByte d = true) ∧ pointed f ++ exponentBytes e = bs := by
  cases bs with
  | nil => exact iff_of_true (accepts_nil.2 rfl) ⟨[], none, nofun, rfl⟩
  | cons c cs =>
    rw [accepts_cons]
    by_cases hc : isDigitByte c = true
    · refine iff_of_false ?_ ?_
      · simp [Part.next, hc]
      · rintro ⟨f, e, -, heq⟩
        rw [not_digit_of_pointed heq] at hc
        cases hc
    · simpa [Part.next, hc] using accepts_afterWhole

theorem accepts_whole : Part.whole.Accepts bs ↔
    ∃ ds f e, (∀ d ∈ ds, isDigitByte d = true) ∧ (∀ d ∈ f, isDigitByte d = true) ∧
      ds ++ (pointed f ++ exponentBytes e) = bs := by
  induction bs with
  | nil => exact iff_of_true (accepts_nil.2 rfl) ⟨[], [], none, nofun, nofun, rfl⟩
  | cons c cs ih =>
    rw [accepts_cons]
    by_cases hc : isDigitByte c = true
    · constructor
      · rintro ⟨q, hq, hcs⟩
        obtain rfl : Part.whole = q := by simpa [Part.next, hc] using hq
        obtain ⟨ds, f, e, hds, hf, rfl⟩ := ih.1 hcs
        exact ⟨c :: ds, f, e, List.forall_mem_cons.2 ⟨hc, hds⟩, hf, rfl⟩
      · rintro ⟨ds, f, e, hds, hf, heq⟩
        cases ds with
        | nil => rw [not_digit_of_pointed heq] at hc; cases hc
        | cons d ds =>
          have hcs := (List.cons.inj heq).2
          have hds := (List.forall_mem_cons.1 hds).2
          exact ⟨.whole, by simp [Part.next, hc], ih.2 ⟨ds, f, e, hds, hf, hcs⟩⟩
    · have hnext : Part.whole.next c = Part.afterWhole c := by simp [Part.next, hc]
      rw [hnext, accepts_afterWhole]
      constructor
      · rintro ⟨f, e, hf, heq⟩; exact ⟨[], f, e, nofun, hf, heq⟩
      · rintro ⟨ds, f, e, hds, hf, heq⟩
        cases ds with
        | nil => exact ⟨f, e, hf, heq⟩
        | cons d ds =>
          obtain ⟨rfl, -⟩ := List.cons.inj heq
          exact absurd (List.forall_mem_cons.1 hds).1 hc

/-! ## Numerals -/

def firstDigit? (c : UInt8) : Option Part :=
  if c = byteOf '0' then some .zero else if isDigitByte c then some .whole else none

theorem accepts_digits : (∃ q, firstDigit? c = some q ∧ q.Accepts cs) ↔
    ∃ n : Numeral, n.unsigned = c :: cs := by
  constructor
  · rintro ⟨q, hq, hcs⟩
    by_cases hz : c = byteOf '0'
    · rw [firstDigit?, if_pos hz] at hq
      cases hq
      obtain ⟨f, e, hf, rfl⟩ := accepts_zero.1 hcs
      exact ⟨⟨false, [byteOf '0'], f, e, Or.inl rfl, hf⟩, by rw [hz]; rfl⟩
    · by_cases hd : isDigitByte c = true
      · rw [firstDigit?, if_neg hz, if_pos hd] at hq
        cases hq
        obtain ⟨ds, f, e, hds, hf, rfl⟩ := accepts_whole.1 hcs
        exact ⟨⟨false, c :: ds, f, e,
          Or.inr ⟨c, ds, rfl, hz, List.forall_mem_cons.2 ⟨hd, hds⟩⟩, hf⟩, rfl⟩
      · simp [firstDigit?, hz, hd] at hq
  · rintro ⟨⟨negative, whole, f, e, hw, hf⟩, hn⟩
    rcases hw with rfl | ⟨d, ds, rfl, hz, hds⟩
    · obtain ⟨rfl, hcs⟩ := List.cons.inj hn
      exact ⟨.zero, rfl, accepts_zero.2 ⟨f, e, hf, hcs⟩⟩
    · obtain ⟨rfl, hcs⟩ := List.cons.inj hn
      obtain ⟨hd, hds⟩ := List.forall_mem_cons.1 hds
      exact ⟨.whole, by simp [firstDigit?, hz, hd],
        accepts_whole.2 ⟨ds, f, e, hds, hf, hcs⟩⟩

theorem accepts_sign : Part.sign.Accepts bs ↔ ∃ n : Numeral, n.unsigned = bs := by
  cases bs with
  | nil =>
    refine iff_of_false (by simp [accepts_nil, Part.isComplete]) ?_
    rintro ⟨⟨negative, whole, f, e, hw, hf⟩, hn⟩
    rcases hw with rfl | ⟨d, ds, rfl, hds⟩
    · cases hn
    · cases hn
  | cons c cs =>
    rw [accepts_cons, ← accepts_digits]
    have hnext : ∀ q, Part.sign.next c = .part q ↔ firstDigit? c = some q := by
      intro q
      unfold Part.next firstDigit?
      by_cases hz : c = byteOf '0'
      · simp [hz]
      · by_cases hd : isDigitByte c = true <;> simp [hz, hd]
    simp only [hnext]

/-- **Bytes are a numeral** if and only if their parts lead to the end of a number. -/
theorem numeral_iff :
    (∃ n : Numeral, n.bytes = bs) ↔ ∃ q, Part.of? bs = some q ∧ q.isComplete = true := by
  cases bs with
  | nil =>
    refine iff_of_false ?_ (by simp [Part.of?])
    rintro ⟨n, hn⟩
    obtain ⟨-, hu⟩ := List.append_eq_nil_iff.1 hn
    have hsign := accepts_sign.2 ⟨n, hu⟩
    simp [accepts_nil, Part.isComplete] at hsign
  | cons c cs =>
    have hof : (∃ q, Part.of? (c :: cs) = some q ∧ q.isComplete = true) ↔
        ∃ p, Part.start? c = some p ∧ p.Accepts cs := by
      cases h : Part.start? c <;> simp [Part.of?, Part.Accepts, h]
    rw [hof]
    by_cases hm : c = byteOf '-'
    · subst hm
      have hstart : Part.start? (byteOf '-') = some .sign := rfl
      simp only [hstart, Option.some.injEq, exists_eq_left', accepts_sign]
      constructor
      · rintro ⟨n, hn⟩
        cases hneg : n.negative with
        | true => rw [Numeral.bytes, hneg] at hn; exact ⟨n, (List.cons.inj hn).2⟩
        | false =>
          rw [Numeral.bytes, hneg] at hn
          obtain ⟨q, hq, -⟩ := accepts_digits.2 ⟨n, hn⟩
          cases hq
      · rintro ⟨n, hn⟩
        exact ⟨{ n with negative := true }, congrArg (byteOf '-' :: ·) hn⟩
    · have hstart : Part.start? c = firstDigit? c := by simp [Part.start?, firstDigit?, hm]
      rw [hstart, accepts_digits]
      constructor
      · rintro ⟨n, hn⟩
        cases hneg : n.negative with
        | true =>
          rw [Numeral.bytes, hneg] at hn
          exact absurd (List.cons.inj hn).1.symm hm
        | false => rw [Numeral.bytes, hneg] at hn; exact ⟨n, hn⟩
      · rintro ⟨n, hn⟩; exact ⟨{ n with negative := false }, hn⟩

/-! ## The value of a number -/

/-- The number of decimal digits. -/
def digitsValue (ds : List UInt8) : Nat := ds.foldl (fun n d => n * 10 + digitOf d) 0

def Exponent.value (e : Exponent) : Int :=
  if e.sign = some (byteOf '-') then -digitsValue e.digits else digitsValue e.digits

/-- The power of ten of the last digit. -/
def Numeral.scale (n : Numeral) : Int := n.exponent.elim 0 Exponent.value - n.fraction.length

/-- Whether the exact value is in the range of the finite doubles, the greatest of which is the
    word before infinity, in units of `2 ^ -1074`. -/
def Numeral.inRange (n : Numeral) : Bool :=
  decide (digitsValue (n.whole ++ n.fraction) * 10 ^ n.scale.toNat * 2 ^ 1074 ≤
    Double.units (Double.infinity - 1) * 10 ^ (-n.scale).toNat)

end NearestHost.Json
