/-
  Numerals as texts.

  * `charOf`, `Numeral.text`: the characters of a numeral, and `utf8_text` that its
    bytes are theirs.
  * `digitsValue_map`: the number of digits in bytes and in characters.
  * `Numeral.Around`, `Numeral.exists_around`: the digits of a decimal around its point.
  * `Numeral.StandsFor`: a numeral with a point or an exponent, and the value of a
    decimal.
  * `exists_numeral`: every finite double is written as one that stands for its
    shortest decimal.
-/
import NearestHost.Json.Value
import NearestHost.Proofs.Address.Text
import NearestHost.Proofs.Decimal.Digits
import NearestHost.Proofs.Json.Gathering
import NearestHost.Proofs.Text.Utf8

namespace NearestHost.Json

open Text (utf8 utf8_append)

/-! ## ASCII -/

/-- The character of an ASCII byte. -/
def charOf (b : UInt8) : Char := Char.ofNat b.toNat

theorem utf8_byteOf {c : Char} (hc : c.toNat < 128) : utf8 [c] = [byteOf c] := by
  have hone : c.val.toNat ≤ 0x7f := Nat.le_of_lt_succ hc
  rw [utf8, List.flatMap_singleton, String.utf8EncodeChar, if_pos hone, byteOf]
  rfl

/-- ASCII characters are their own bytes. -/
theorem utf8_of_ascii {cs : List Char} (h : ∀ c ∈ cs, c.toNat < 128) :
    utf8 cs = cs.map byteOf := by
  induction cs with
  | nil => rfl
  | cons c cs ih =>
    obtain ⟨hc, hcs⟩ := List.forall_mem_cons.1 h
    rw [Text.utf8_cons, utf8_byteOf hc, ih hcs]
    rfl

theorem charOf_ascii {b : UInt8} (hb : b.toNat < 128) :
    (charOf b).toNat = b.toNat ∧ byteOf (charOf b) = b := by
  have hvalid : b.toNat.isValidChar := Or.inl (by omega)
  have hchar : (charOf b).toNat = b.toNat := by
    rw [charOf, Char.ofNat, dif_pos hvalid]
    rfl
  refine ⟨hchar, UInt8.toNat_inj.1 ?_⟩
  have hbyte : (byteOf (charOf b)).toNat = (charOf b).toNat % 256 := rfl
  rw [hbyte, hchar]
  omega

theorem map_byteOf_charOf {bs : List UInt8} (h : ∀ b ∈ bs, b.toNat < 128) :
    (bs.map charOf).map byteOf = bs := by
  rw [List.map_map]
  exact (List.map_congr_left fun b hb => (charOf_ascii (h b hb)).2).trans (List.map_id bs)

theorem ascii_of_isNumberChar {c : Char} (h : Decimal.isNumberChar c = true) : c.toNat < 128 := by
  rcases Bool.or_eq_true_iff.1 h with hdigit | hsign
  · have hbounds := Char.isDigit_iff_toNat.1 hdigit
    have hnine : '9'.toNat = 57 := rfl
    omega
  · have hall : ['.', 'e', '+', '-'].all (·.toNat < 128) = true := by decide
    exact of_decide_eq_true (List.all_eq_true.1 hall c (List.contains_iff_mem.1 hsign))

/-! ## Digits -/

section

variable {c : Char} {cs : List Char}

/-- A digit as a byte. -/
theorem byteOf_digit (hc : c.isDigit = true) :
    isDigitByte (byteOf c) = true ∧ digitOf (byteOf c) = c.toNat - '0'.toNat := by
  have hall : ∀ k < 10, isDigitByte (byteOf (Char.ofNat (48 + k))) = true ∧
      digitOf (byteOf (Char.ofNat (48 + k))) = k := by decide
  obtain ⟨hlo, hhi⟩ := Char.isDigit_iff_toNat.1 hc
  have hzero : '0'.toNat = 48 := rfl
  have hnine : '9'.toNat = 57 := rfl
  obtain ⟨k, hk⟩ : ∃ k, c.toNat = 48 + k := ⟨c.toNat - 48, by omega⟩
  have hdigit := hall k (by omega)
  rw [← hk, Char.ofNat_toNat] at hdigit
  exact ⟨hdigit.1, by omega⟩

theorem isDigitByte_map (h : ∀ c ∈ cs, c.isDigit = true) :
    ∀ d ∈ cs.map byteOf, isDigitByte d = true := by
  intro d hd
  obtain ⟨c, hc, rfl⟩ := List.mem_map.1 hd
  exact (byteOf_digit (h c hc)).1

/-- The number of digits is the same in bytes and in characters. -/
theorem digitsFrom_map (h : ∀ c ∈ cs, c.isDigit = true) (n : Nat) :
    digitsFrom n (cs.map byteOf) = Nat.ofDigitChars 10 cs n := by
  induction cs generalizing n with
  | nil => rfl
  | cons c cs ih =>
    obtain ⟨hc, hcs⟩ := List.forall_mem_cons.1 h
    have hstep : digitsFrom n ((c :: cs).map byteOf) =
        digitsFrom (n * 10 + digitOf (byteOf c)) (cs.map byteOf) := rfl
    rw [hstep, ih hcs, Nat.ofDigitChars_cons, (byteOf_digit hc).2, Nat.mul_comm]

theorem digitsValue_map (h : ∀ c ∈ cs, c.isDigit = true) :
    digitsValue (cs.map byteOf) = Nat.ofDigitChars 10 cs 0 := digitsFrom_map h 0

theorem toNat_digit {d : UInt8} (h : isDigitByte d = true) : 48 ≤ d.toNat ∧ d.toNat ≤ 57 := by
  have hbounds : (byteOf '0' ≤ d && d ≤ byteOf '9') = true := h
  rw [Bool.and_eq_true, decide_eq_true_iff, decide_eq_true_iff] at hbounds
  exact ⟨UInt8.le_iff_toNat_le.1 hbounds.1, UInt8.le_iff_toNat_le.1 hbounds.2⟩

theorem isDigit_charOf {d : UInt8} (h : isDigitByte d = true) : (charOf d).isDigit = true := by
  obtain ⟨hlo, hhi⟩ := toNat_digit h
  rw [Char.isDigit_iff_toNat, (charOf_ascii (by omega)).1]
  exact ⟨hlo, hhi⟩

/-- The number of digits is the same in characters and in bytes. -/
theorem ofDigitChars_map {ds : List UInt8} (h : ∀ d ∈ ds, isDigitByte d = true) :
    Nat.ofDigitChars 10 (ds.map charOf) 0 = digitsValue ds := by
  have hchars : ∀ c ∈ ds.map charOf, c.isDigit = true := by
    intro c hc
    obtain ⟨d, hd, rfl⟩ := List.mem_map.1 hc
    exact isDigit_charOf (h d hd)
  have hbytes : (ds.map charOf).map byteOf = ds := map_byteOf_charOf fun d hd => by
    have := toNat_digit (h d hd)
    omega
  rw [← digitsValue_map hchars, hbytes]

end

/-! ## The text of a numeral -/

namespace Numeral

variable {n : Numeral}

/-- The text of a numeral. -/
def text (n : Numeral) : String := String.ofList (n.bytes.map charOf)

theorem whole_digits (n : Numeral) : ∀ d ∈ n.whole, isDigitByte d = true := by
  rcases n.whole_ok with hwhole | ⟨d, ds, hwhole, -, hds⟩
  · rw [hwhole]
    exact List.forall_mem_singleton.2 rfl
  · rwa [hwhole]

theorem whole_ne_nil (n : Numeral) : n.whole ≠ [] := by
  rcases n.whole_ok with hwhole | ⟨d, ds, hwhole, -, -⟩ <;> rw [hwhole] <;> exact List.cons_ne_nil _ _

/-- The signs in the bytes of a numeral. -/
def signBytes : List UInt8 := ['-', '+', '.', 'e', 'E'].map byteOf

theorem mem_bytes (n : Numeral) : ∀ b ∈ n.bytes, isDigitByte b = true ∨ b ∈ signBytes := by
  have hdigits {ds : List UInt8} (h : ∀ d ∈ ds, isDigitByte d = true) :
      ∀ d ∈ ds, isDigitByte d = true ∨ d ∈ signBytes := fun d hd => Or.inl (h d hd)
  have hexponent : ∀ b ∈ exponentBytes n.exponent, isDigitByte b = true ∨ b ∈ signBytes := by
    cases n.exponent with
    | none => exact List.forall_mem_nil _
    | some e =>
      have hmark : e.mark = byteOf 'e' ∨ e.mark = byteOf 'E' := by
        simpa [isMark] using e.mark_ok
      refine List.forall_mem_append.2
        ⟨List.forall_mem_cons.2 ⟨Or.inr ?_, fun c hc => Or.inr ?_⟩, hdigits e.digits_ok⟩
      · rcases hmark with h | h <;> rw [h] <;> decide
      · rcases e.sign_ok c (Option.mem_toList.1 hc) with rfl | rfl <;> decide
  have hpointed : ∀ b ∈ pointed n.fraction, isDigitByte b = true ∨ b ∈ signBytes := by
    have hfraction := hdigits n.fraction_ok
    cases h : n.fraction with
    | nil => exact List.forall_mem_nil _
    | cons d ds =>
      rw [h] at hfraction
      exact List.forall_mem_cons.2 ⟨Or.inr (by decide), hfraction⟩
  refine List.forall_mem_append.2 ⟨?_, List.forall_mem_append.2
    ⟨hdigits n.whole_digits, List.forall_mem_append.2 ⟨hpointed, hexponent⟩⟩⟩
  split
  · exact List.forall_mem_singleton.2 (Or.inr (by decide))
  · exact List.forall_mem_nil _

theorem ascii_bytes (n : Numeral) : ∀ b ∈ n.bytes, b.toNat < 128 := by
  intro b hb
  rcases n.mem_bytes b hb with hdigit | hsign
  · have := toNat_digit hdigit
    omega
  · have hall : signBytes.all (·.toNat < 128) = true := by decide
    exact of_decide_eq_true (List.all_eq_true.1 hall b hsign)

/-- The text of a numeral has its bytes. -/
theorem utf8_text (n : Numeral) : utf8 n.text.toList = n.bytes := by
  rw [text, String.toList_ofList, utf8_of_ascii, map_byteOf_charOf n.ascii_bytes]
  intro c hc
  obtain ⟨b, hb, rfl⟩ := List.mem_map.1 hc
  rw [(charOf_ascii (n.ascii_bytes b hb)).1]
  exact n.ascii_bytes b hb

/-! ## The numeral of a decimal -/

/-- Digits around a point that have the value of a decimal, without zeros in front that a numeral
    cannot have.  Only with one place there may be zeros behind the digits of the decimal. -/
structure Around (w f : List Char) (d : Decimal) : Prop where
  some_digit : w ≠ []
  digits : ∀ c ∈ w, c.isDigit = true
  first : w.head? = some '0' → w = ['0']
  some_more : f ≠ []
  more : ∀ c ∈ f, c.isDigit = true
  value : ∃ z : Nat, Nat.ofDigitChars 10 (w ++ f) 0 = d.significand * 10 ^ z ∧
    -(f.length : Int) = d.exponent - z ∧ (z = 0 ∨ f.length = 1)

section

variable {d : Decimal}

theorem ofDigitChars_digits (d : Decimal) : Nat.ofDigitChars 10 d.digits 0 = d.significand :=
  Nat.ofDigitChars_ten_toDigits

theorem significand_of_head (h : d.digits.head? = some '0') : d.significand = 0 :=
  head_toDigits (by decide) (by decide) h

/-- A whole number, with a zero behind its point. -/
theorem around_whole (hd : d.significand = 0 → d.exponent = 0) (he : 0 ≤ d.exponent) :
    Around (d.digits ++ List.replicate d.exponent.toNat '0') ['0'] d where
  some_digit := List.append_ne_nil_of_left_ne_nil (Decimal.digits_ne_nil d) _
  digits := List.forall_mem_append.2
    ⟨Decimal.isDigit_of_mem_digits d, Decimal.isDigit_of_mem_zeros _⟩
  first h := by
    rw [List.head?_append_of_ne_nil _ (Decimal.digits_ne_nil d)] at h
    have hzero := significand_of_head h
    rw [Decimal.digits, hzero, hd hzero]
    rfl
  some_more := List.cons_ne_nil _ _
  more := Decimal.isDigit_of_mem_zeros 1
  value := by
    have hzeros : ['0'] = List.replicate 1 '0' := rfl
    refine ⟨d.exponent.toNat + 1, ?_, ?_, Or.inr rfl⟩
    · rw [hzeros, List.append_assoc, ← List.replicate_add, Nat.ofDigitChars_append,
        Nat.ofDigitChars_replicate_zero, ofDigitChars_digits, Nat.mul_comm]
    · rw [List.length_singleton]
      omega

/-- A point between the digits. -/
theorem around_split {places : Nat} (hp : -(places : Int) = d.exponent) (hpos : 0 < places)
    (hlt : places < d.digits.length) : Around (d.digits.take (d.digits.length - places))
      (d.digits.drop (d.digits.length - places)) d where
  some_digit := List.ne_nil_of_length_pos (by rw [List.length_take]; omega)
  digits c hc := Decimal.isDigit_of_mem_digits d c (List.mem_of_mem_take hc)
  first h := by
    rw [List.head?_take, if_neg (by omega)] at h
    have hlen : d.digits.length = 1 := by rw [Decimal.digits, significand_of_head h]; rfl
    omega
  some_more := List.ne_nil_of_length_pos (by rw [List.length_drop]; omega)
  more c hc := Decimal.isDigit_of_mem_digits d c (List.mem_of_mem_drop hc)
  value := by
    refine ⟨0, ?_, ?_, Or.inl rfl⟩
    · rw [List.take_append_drop, ofDigitChars_digits, Nat.pow_zero, Nat.mul_one]
    · rw [List.length_drop]
      omega

/-- A point in front of the digits. -/
theorem around_front {places : Nat} (hp : -(places : Int) = d.exponent)
    (hle : d.digits.length ≤ places) :
    Around ['0'] (List.replicate (places - d.digits.length) '0' ++ d.digits) d where
  some_digit := List.cons_ne_nil _ _
  digits := Decimal.isDigit_of_mem_zeros 1
  first _ := rfl
  some_more := List.append_ne_nil_of_right_ne_nil _ (Decimal.digits_ne_nil d)
  more := List.forall_mem_append.2
    ⟨Decimal.isDigit_of_mem_zeros _, Decimal.isDigit_of_mem_digits d⟩
  value := by
    have hzeros : ['0'] = List.replicate 1 '0' := rfl
    refine ⟨0, ?_, ?_, Or.inl rfl⟩
    · rw [hzeros, ← List.append_assoc, ← List.replicate_add, Nat.ofDigitChars_append,
        Nat.ofDigitChars_replicate_zero, Nat.mul_zero, ofDigitChars_digits, Nat.pow_zero,
        Nat.mul_one]
    · rw [List.length_append, List.length_replicate]
      omega

theorem exists_around (d : Decimal) (hd : d.significand = 0 → d.exponent = 0) :
    ∃ w f, d.positionalText numberStyle.wholeTail = w ++ '.' :: f ∧ Around w f d := by
  unfold Decimal.positionalText
  dsimp only
  split_ifs with hwhole hlt
  · exact ⟨_, _, rfl, around_whole hd hwhole⟩
  · exact ⟨_, _, rfl, around_split (by omega) (by omega) hlt⟩
  · exact ⟨_, _, rfl, around_front (by omega) (by omega)⟩

end

/-- A numeral with a point or an exponent that has the value of a decimal.  Only with one place it
    may have zeros behind the digits. -/
structure StandsFor (n : Numeral) (d : Decimal) : Prop where
  isWhole : n.isWhole = false
  overflows : ¬ n.Overflows
  value : ∃ z : Nat, n.significand = d.significand * 10 ^ z ∧ n.scale = d.exponent - z ∧
    (z = 0 ∨ n.scale = -1)

theorem whole_ok_map {w : List Char} (hne : w ≠ []) (hw : ∀ c ∈ w, c.isDigit = true)
    (hzero : w.head? = some '0' → w = ['0']) : w.map byteOf = [byteOf '0'] ∨
      ∃ d ds, w.map byteOf = d :: ds ∧ d ≠ byteOf '0' ∧ ∀ c ∈ d :: ds, isDigitByte c = true := by
  obtain ⟨c, cs, rfl⟩ := List.exists_cons_of_ne_nil hne
  by_cases hc : c = '0'
  · left
    rw [hzero (by rw [hc]; rfl)]
    rfl
  · refine Or.inr ⟨byteOf c, cs.map byteOf, rfl, fun heq => hc ?_, isDigitByte_map hw⟩
    have hdigit := (byteOf_digit (hw c List.mem_cons_self)).2
    obtain ⟨hlo, -⟩ := Char.isDigit_iff_toNat.1 (hw c List.mem_cons_self)
    rw [heq] at hdigit
    refine Char.toNat_inj.1 ?_
    have hzero : digitOf (byteOf '0') = 0 := rfl
    omega

/-- **A decimal with its point at its place** is written as a numeral that stands for it. -/
theorem Around.exists_standsFor {w f : List Char} {d : Decimal} (h : Around w f d)
    (negative : Bool) : ∃ n : Numeral, n.negative = negative ∧
      n.unsigned = (w ++ '.' :: f).map byteOf ∧ n.StandsFor d := by
  obtain ⟨hne, hw, hzero, hf, hmore, z, hvalue, hscale, hz⟩ := h
  obtain ⟨c, cs, rfl⟩ := List.exists_cons_of_ne_nil hf
  refine ⟨⟨negative, w.map byteOf, (c :: cs).map byteOf, none, whole_ok_map hne hw hzero,
    isDigitByte_map hmore⟩, rfl, ?_, rfl, ?_, z, ?_, ?_, ?_⟩
  · rw [unsigned, List.map_append, exponentBytes, List.append_nil]
    rfl
  · rintro ⟨e, he, -⟩
    cases he
  · rw [significand, ← List.map_append,
      digitsValue_map (List.forall_mem_append.2 ⟨hw, hmore⟩), hvalue]
  · rw [scale, List.length_map, ← hscale]
    exact Int.zero_sub _
  · rw [scale, List.length_map]
    refine hz.imp_right fun hone => ?_
    rw [hone]
    rfl

theorem pointed_map (cs : List Char) :
    pointed (cs.map byteOf) = (if cs = [] then [] else '.' :: cs).map byteOf := by
  cases cs <;> rfl

theorem scientificText_cons {d : Decimal} {c : Char} {cs : List Char} (h : d.digits = c :: cs) :
    d.scientificText = c :: ((if cs = [] then [] else '.' :: cs) ++
      'e' :: (if d.leadingExponent < 0 then '-' else '+') ::
        Nat.toDigits 10 d.leadingExponent.natAbs) := by
  rw [Decimal.scientificText, h]
  cases cs <;> rfl

/-- The part of a numeral from its mark on, for any exponent. -/
theorem exists_exponent (e : Int) : ∃ x : Exponent,
    x.bytes = ('e' :: (if e < 0 then '-' else '+') :: Nat.toDigits 10 e.natAbs).map byteOf ∧
      x.value = e ∧ (x.isNegative = false → (digitsValue x.digits : Int) = e) := by
  have hdigits : ∀ c ∈ Nat.toDigits 10 e.natAbs, c.isDigit = true :=
    fun _ hc => Nat.isDigit_of_mem_toDigits (by decide) (by decide) hc
  have hne : (Nat.toDigits 10 e.natAbs).map byteOf ≠ [] :=
    fun h => Nat.toDigits_ne_nil (List.map_eq_nil_iff.1 h)
  have hvalue : digitsValue ((Nat.toDigits 10 e.natAbs).map byteOf) = e.natAbs := by
    rw [digitsValue_map hdigits, Nat.ofDigitChars_ten_toDigits]
  by_cases he : e < 0
  · refine ⟨⟨byteOf 'e', some (byteOf '-'), _, by decide, fun c hc => ?_, hne,
      isDigitByte_map hdigits⟩, ?_, ?_, ?_⟩
    · exact Or.inr (Option.mem_some.1 hc).symm
    · rw [if_pos he]
      rfl
    · rw [Exponent.value, if_pos rfl, hvalue]
      omega
    · intro hpos
      have hminus : true = false := hpos
      cases hminus
  · refine ⟨⟨byteOf 'e', some (byteOf '+'), _, by decide, fun c hc => ?_, hne,
      isDigitByte_map hdigits⟩, ?_, ?_, fun _ => ?_⟩
    · exact Or.inl (Option.mem_some.1 hc).symm
    · rw [if_neg he]
      rfl
    · have hplus : some (byteOf '+') ≠ some (byteOf '-') := by decide
      rw [Exponent.value, if_neg hplus, hvalue]
      omega
    · rw [hvalue]
      omega

/-- **A decimal with one digit before its point and an exponent** is written as a numeral that stands
    for it. -/
theorem exists_scientific (negative : Bool) (d : Decimal)
    (he : d.leadingExponent ≤ Tally.exponentLimit) : ∃ n : Numeral, n.negative = negative ∧
      n.unsigned = d.scientificText.map byteOf ∧ n.StandsFor d := by
  have hdigits := Decimal.isDigit_of_mem_digits d
  have hdigitsValue : Nat.ofDigitChars 10 d.digits 0 = d.significand :=
    Nat.ofDigitChars_ten_toDigits
  obtain ⟨c, cs, hcs⟩ := List.exists_cons_of_ne_nil (Decimal.digits_ne_nil d)
  rw [hcs] at hdigits hdigitsValue
  obtain ⟨hc, hmore⟩ := List.forall_mem_cons.1 hdigits
  obtain ⟨x, hbytes, hvalue, hover⟩ := exists_exponent d.leadingExponent
  have hwhole : [c].head? = some '0' → [c] = ['0'] := fun h => by rw [Option.some.inj h]
  refine ⟨⟨negative, [c].map byteOf, cs.map byteOf, some x,
    whole_ok_map (List.cons_ne_nil c []) (List.forall_mem_singleton.2 hc) hwhole,
    isDigitByte_map hmore⟩, rfl, ?_, Bool.and_false _, ?_, 0, ?_, ?_, Or.inl rfl⟩
  · rw [unsigned, pointed_map, exponentBytes, hbytes, scientificText_cons hcs,
      ← List.map_append, ← List.map_append]
    rfl
  · rintro ⟨y, hy, hexceeds⟩
    obtain rfl := Option.some.inj hy
    have hlimit := hexceeds.1
    have hsign := hover (by simpa using hexceeds.2.2)
    omega
  · rw [significand, ← List.map_append, Nat.pow_zero, Nat.mul_one, ← hdigitsValue]
    exact digitsValue_map hdigits
  · rw [scale, Option.elim_some, hvalue, List.length_map, Decimal.leadingExponent, hcs,
      List.length_cons]
    omega

/-- **A decimal is written as a numeral** that stands for it. -/
theorem exists_standsFor (negative : Bool) (d : Decimal)
    (hd : d.significand = 0 → d.exponent = 0) (he : d.leadingExponent ≤ Tally.exponentLimit) :
    ∃ n : Numeral, n.negative = negative ∧ n.unsigned = (numberStyle.text d).map byteOf ∧
      n.StandsFor d := by
  unfold Decimal.Style.text
  split_ifs
  · obtain ⟨w, f, htext, haround⟩ := exists_around d hd
    rw [htext]
    exact haround.exists_standsFor negative
  · exact exists_scientific negative d he

end Numeral

/-! ## The numeral of a double -/

/-- The decimal that a number is written with. -/
def decimalOf (x : Float) : Decimal := Decimal.shortest .even (Double.magnitude x)

namespace Numeral

/-- A numeral that a double may be written as. -/
structure Writes (n : Numeral) (x : Float) : Prop where
  negative : n.negative = Double.isNegative x
  standsFor : n.StandsFor (decimalOf x)

/-- **A finite double is written as a numeral.** -/
theorem exists_numeral {x : Float} (hx : Double.isFinite x = true) :
    ∃ n : Numeral, n.bytes = utf8 (numberText x) ∧ n.Writes x := by
  have hb : Double.magnitude x < Double.infinity := Double.isFinite_iff.1 hx
  have hzero : (decimalOf x).significand = 0 → (decimalOf x).exponent = 0 := by
    unfold decimalOf
    rcases Nat.eq_zero_or_pos (Double.magnitude x) with h | hpos
    · rw [h]
      exact fun _ => rfl
    · exact fun h => absurd h
        ((Decimal.shortest_coarsest hpos hb .even).significand_pos hpos).ne'
  obtain ⟨n, hnegative, hbytes, hstands⟩ := exists_standsFor (Double.isNegative x) _ hzero
    ((Decimal.leadingExponent_shortest_le hb .even).trans (by decide))
  have hascii : ∀ c ∈ numberStyle.write x, c.toNat < 128 := fun c hc => ascii_of_isNumberChar
    (Decimal.isNumberChar_write (List.all_eq_true.1 rfl) x c hc)
  have htext : numberStyle.write x = (if Double.isNegative x then ['-'] else []) ++
      numberStyle.text (decimalOf x) := rfl
  refine ⟨n, ?_, hnegative, hstands⟩
  rw [numberText, if_pos hx, utf8_of_ascii hascii, htext, List.map_append, ← hbytes, bytes,
    hnegative]
  split <;> rfl

end Numeral

end NearestHost.Json
