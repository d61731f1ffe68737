/-
  Plain texts of decimals, and how they are read.

  * `Positional`: a text of digits, with a point and more digits or without.
  * `positional_positionalText`: the digits of a decimal are written between
    zeros.
  * `isNumberChar_write`: the text of a double is made of digits and signs.
  * `ofChars?_positional`: the digits of such a text are read.
  * `significantDigits`: how many digits a text has between its zeros.
-/
import NearestHost.Decimal.Reading
import NearestHost.Proofs.Decimal.Shortest
import Mathlib.Data.List.DropRight

namespace NearestHost.Decimal

/-- A text of digits without an exponent, and the digits before and behind its point. -/
inductive Positional : List Char → List Char → List Char → Prop
  | whole {whole : List Char} (some_digit : whole ≠ []) (digits : ∀ c ∈ whole, c.isDigit = true) :
      Positional whole whole []
  | pointed {whole fraction : List Char} (some_digit : whole ≠ [])
      (digits : ∀ c ∈ whole, c.isDigit = true) (some_more : fraction ≠ [])
      (more : ∀ c ∈ fraction, c.isDigit = true) :
      Positional (whole ++ '.' :: fraction) whole fraction

section

variable {cs whole fraction : List Char}

theorem Positional.digits_of (h : Positional cs whole fraction) :
    ∀ c ∈ whole ++ fraction, c.isDigit = true := by
  cases h with
  | whole _ digits => rwa [List.append_nil]
  | pointed _ digits _ more => exact List.forall_mem_append.2 ⟨digits, more⟩

theorem Positional.whole_ne_nil (h : Positional cs whole fraction) : whole ≠ [] := by
  cases h <;> assumption

/-! ## Writing -/

theorem digits_ne_nil (d : Decimal) : d.digits ≠ [] := Nat.toDigits_ne_nil

theorem isDigit_of_mem_digits (d : Decimal) : ∀ c ∈ d.digits, c.isDigit = true :=
  fun _ hc => Nat.isDigit_of_mem_toDigits (by decide) (by decide) hc

theorem isDigit_of_mem_zeros (n : Nat) : ∀ c ∈ List.replicate n '0', c.isDigit = true := by
  intro c hc
  rw [List.eq_of_mem_replicate hc]
  decide

/-- The digits of a decimal are written between zeros. -/
theorem positional_positionalText (d : Decimal) : ∃ whole fraction before after,
    Positional (positionalText [] d) whole fraction ∧
      whole ++ fraction = List.replicate before '0' ++ d.digits ++ List.replicate after '0' ∧
      -(fraction.length : Int) = d.exponent - after := by
  have hdigits := isDigit_of_mem_digits d
  unfold positionalText
  split_ifs with hexp
  · refine ⟨d.digits ++ List.replicate d.exponent.toNat '0', [], 0, d.exponent.toNat, ?_, ?_, ?_⟩
    · rw [List.append_nil]
      exact .whole (List.append_ne_nil_of_left_ne_nil (digits_ne_nil d) _)
        (List.forall_mem_append.2 ⟨hdigits, isDigit_of_mem_zeros _⟩)
    · rw [List.append_nil, List.replicate_zero, List.nil_append]
    · rw [List.length_nil]; omega
  · dsimp only
    obtain ⟨places, hplaces⟩ : ∃ n : Nat, (-d.exponent).toNat = n := ⟨_, rfl⟩
    rw [hplaces]
    split_ifs with hlt
    · refine ⟨d.digits.take (d.digits.length - places), d.digits.drop (d.digits.length - places),
        0, 0, .pointed ?_ ?_ ?_ ?_, ?_, ?_⟩
      · exact List.ne_nil_of_length_pos (by rw [List.length_take]; omega)
      · exact fun c hc => hdigits c (List.mem_of_mem_take hc)
      · exact List.ne_nil_of_length_pos (by rw [List.length_drop]; omega)
      · exact fun c hc => hdigits c (List.mem_of_mem_drop hc)
      · rw [List.take_append_drop, List.replicate_zero, List.nil_append, List.append_nil]
      · rw [List.length_drop]; omega
    · refine ⟨['0'], List.replicate (places - d.digits.length) '0' ++ d.digits,
        places - d.digits.length + 1, 0, ?_, ?_, ?_⟩
      · exact .pointed (List.cons_ne_nil _ _) (isDigit_of_mem_zeros 1)
          (List.append_ne_nil_of_right_ne_nil _ (digits_ne_nil d))
          (List.forall_mem_append.2 ⟨isDigit_of_mem_zeros _, hdigits⟩)
      · rw [List.replicate_succ, List.replicate_zero, List.append_nil]
        rfl
      · rw [List.length_append, List.length_replicate]; omega

/-! ## Characters -/

/-- A digit, or one of the signs in the text of a number. -/
def isNumberChar (c : Char) : Bool := c.isDigit || ['.', 'e', '+', '-'].contains c

theorem isNumberChar_of_digits {cs : List Char} (h : ∀ c ∈ cs, c.isDigit = true) :
    ∀ c ∈ cs, isNumberChar c = true := by
  intro c hc
  rw [isNumberChar, h c hc, Bool.true_or]

theorem isNumberChar_positional {tail : List Char} (htail : ∀ c ∈ tail, isNumberChar c = true)
    (d : Decimal) : ∀ c ∈ positionalText tail d, isNumberChar c = true := by
  have hdigits := isNumberChar_of_digits (isDigit_of_mem_digits d)
  have hzeros (n : Nat) := isNumberChar_of_digits (isDigit_of_mem_zeros n)
  have hpoint : isNumberChar '.' = true := by decide
  have hzero : isNumberChar '0' = true := by decide
  unfold positionalText
  dsimp only
  split_ifs
  · exact List.forall_mem_append.2 ⟨List.forall_mem_append.2 ⟨hdigits, hzeros _⟩, htail⟩
  · exact List.forall_mem_append.2 ⟨fun c hc => hdigits c (List.mem_of_mem_take hc),
      List.forall_mem_cons.2 ⟨hpoint, fun c hc => hdigits c (List.mem_of_mem_drop hc)⟩⟩
  · exact List.forall_mem_cons.2 ⟨hzero, List.forall_mem_cons.2 ⟨hpoint,
      List.forall_mem_append.2 ⟨hzeros _, hdigits⟩⟩⟩

theorem isNumberChar_scientific (d : Decimal) :
    ∀ c ∈ scientificText d, isNumberChar c = true := by
  have hdigits := isNumberChar_of_digits (isDigit_of_mem_digits d)
  have hexponent (n : Nat) : ∀ c ∈ Nat.toDigits 10 n, isNumberChar c = true :=
    isNumberChar_of_digits fun c hc => Nat.isDigit_of_mem_toDigits (by decide) (by decide) hc
  have hsign (e : Int) : isNumberChar (if e < 0 then '-' else '+') = true := by
    split <;> decide
  have hmark : isNumberChar 'e' = true := by decide
  have hpoint : isNumberChar '.' = true := by decide
  unfold scientificText
  refine List.forall_mem_append.2 ⟨?_, List.forall_mem_cons.2 ⟨hmark,
    List.forall_mem_cons.2 ⟨hsign _, hexponent _⟩⟩⟩
  split
  · nofun
  · rename_i c hc
    rwa [hc] at hdigits
  · rename_i c cs _ hc
    rw [hc] at hdigits
    obtain ⟨hfirst, hothers⟩ := List.forall_mem_cons.1 hdigits
    exact List.forall_mem_cons.2 ⟨hfirst, List.forall_mem_cons.2 ⟨hpoint, hothers⟩⟩

/-- The text of a double is made of digits and signs, if what follows a whole number is. -/
theorem isNumberChar_write {s : Style} (htail : ∀ c ∈ s.wholeTail, isNumberChar c = true)
    (x : Float) : ∀ c ∈ s.write x, isNumberChar c = true := by
  unfold Style.write Style.wordText Style.text
  refine List.forall_mem_append.2 ⟨?_, ?_⟩
  · split
    · exact List.forall_mem_singleton.2 rfl
    · nofun
  · split
    · exact isNumberChar_positional htail _
    · exact isNumberChar_scientific _

/-! ## Reading -/

/-- What stands in front of the first character that is not of a kind. -/
theorem takeWhile_of_head {p : Char → Bool} {r : List Char} (h : ∀ c ∈ whole, p c = true)
    (hr : ∀ c, r.head? = some c → p c = false) :
    (whole ++ r).takeWhile p = whole ∧ (whole ++ r).dropWhile p = r := by
  rw [List.takeWhile_append_of_pos h, List.dropWhile_append_of_pos h]
  cases r with
  | nil => exact ⟨List.append_nil _, rfl⟩
  | cons c r =>
    have hc : ¬ p c = true := by rw [hr c rfl]; exact Bool.false_ne_true
    rw [List.takeWhile_cons_of_neg hc, List.dropWhile_cons_of_neg hc, List.append_nil]
    exact ⟨rfl, rfl⟩

theorem wholeNumber?_of_digits (hne : cs ≠ []) (h : ∀ c ∈ cs, c.isDigit = true) :
    wholeNumber? cs = some (Nat.ofDigitChars 10 cs 0) :=
  if_pos ⟨hne, List.all_eq_true.2 h⟩

theorem ofChars?_positional (h : Positional cs whole fraction) : Decimal.ofChars? cs =
    some ⟨Nat.ofDigitChars 10 (whole ++ fraction) 0, -(fraction.length : Int)⟩ := by
  have hnumber := wholeNumber?_of_digits
    (List.append_ne_nil_of_left_ne_nil h.whole_ne_nil fraction) h.digits_of
  cases h with
  | whole hne hdigits =>
    obtain ⟨htake, hdrop⟩ := takeWhile_of_head (r := []) hdigits nofun
    rw [List.append_nil] at htake hdrop
    simp only [Decimal.ofChars?, htake, hdrop, splitFraction, hnumber, exponent?]
    rfl
  | pointed hne hdigits _ hmore =>
    have hpoint : ('.').isDigit = false := by decide
    obtain ⟨htake, hdrop⟩ := takeWhile_of_head (r := '.' :: fraction) hdigits
      fun c hc => Option.some.inj hc ▸ hpoint
    obtain ⟨htake', hdrop'⟩ := takeWhile_of_head (r := []) hmore nofun
    rw [List.append_nil] at htake' hdrop'
    simp only [Decimal.ofChars?, htake, hdrop, splitFraction, htake', hdrop', hnumber, exponent?]
    congr 2
    omega

/-- **What is written is read** as a decimal with the same value. -/
theorem ofChars?_positionalText (d : Decimal) : ∃ d', Decimal.ofChars? (positionalText [] d) = some d' ∧
    d'.nearest = d.nearest := by
  obtain ⟨whole, fraction, before, after, hpos, hdigits, hlen⟩ := positional_positionalText d
  refine ⟨_, ofChars?_positional hpos, ?_⟩
  have hvalue : Nat.ofDigitChars 10 (whole ++ fraction) 0 = d.significand * 10 ^ after := by
    rw [hdigits, Nat.ofDigitChars_append, Nat.ofDigitChars_append, Nat.ofDigitChars_replicate_zero,
      Nat.ofDigitChars_replicate_zero, digits, Nat.mul_zero, Nat.ofDigitChars_ten_toDigits]
    exact Nat.mul_comm _ _
  rw [hvalue, nearest_rescale, hlen, Int.sub_add_cancel]

/-! ## Significant digits -/

/-- Whether a character starts the exponent of a text. -/
def isMark (c : Char) : Bool := c = 'e' ∨ c = 'E'

/-- The digits of a text before its exponent. -/
def mantissaDigits (cs : List Char) : List Char :=
  (cs.takeWhile fun c => !isMark c).filter Char.isDigit

def isZero (c : Char) : Bool := c = '0'

/-- A text without the zeros at its ends. -/
def stripZeros (cs : List Char) : List Char := (cs.dropWhile isZero).rdropWhile isZero

/-- The number of digits before the exponent of a text, without the zeros at their ends. -/
def significantDigits (cs : List Char) : Nat := (stripZeros (mantissaDigits cs)).length

theorem eq_zeros {l : List Char} (h : ∀ c ∈ l, isZero c = true) :
    l = List.replicate l.length '0' :=
  List.eq_replicate_of_mem fun c hc => of_decide_eq_true (h c hc)

theorem isZero_of_mem_zeros (n : Nat) : ∀ c ∈ List.replicate n '0', isZero c = true :=
  fun _ hc => decide_eq_true (List.eq_of_mem_replicate hc)

/-- A text stands between the zeros at its ends. -/
theorem stripZeros_split (cs : List Char) : ∃ before after,
    cs = List.replicate before '0' ++ stripZeros cs ++ List.replicate after '0' := by
  have hfront := eq_zeros (l := cs.takeWhile isZero) fun c => List.mem_takeWhile_imp
  have hback := eq_zeros (l := (cs.dropWhile isZero).rtakeWhile isZero)
    fun c => List.mem_rtakeWhile_imp
  refine ⟨(cs.takeWhile isZero).length, ((cs.dropWhile isZero).rtakeWhile isZero).length, ?_⟩
  rw [← hfront, List.append_assoc, ← hback, stripZeros, List.rdropWhile_append_rtakeWhile,
    List.takeWhile_append_dropWhile]

/-- Zeros around digits do not count. -/
theorem length_stripZeros_le (before after : Nat) (ds : List Char) :
    (stripZeros (List.replicate before '0' ++ ds ++ List.replicate after '0')).length ≤
      ds.length := by
  have hback (l : List Char) :
      (l ++ List.replicate after '0').rdropWhile isZero = l.rdropWhile isZero := by
    rw [List.rdropWhile, List.reverse_append, List.reverse_replicate,
      List.dropWhile_append_of_pos (isZero_of_mem_zeros after), List.rdropWhile]
  rw [stripZeros, List.append_assoc, List.dropWhile_append_of_pos (isZero_of_mem_zeros before),
    List.dropWhile_append]
  split
  · rw [List.dropWhile_eq_nil_iff.2 (isZero_of_mem_zeros after), List.rdropWhile_nil]
    exact Nat.zero_le _
  · rw [hback]
    exact (List.rdropWhile_prefix isZero _).length_le.trans (List.dropWhile_sublist _).length_le

/-- A number has at most the digits that are left of its text. -/
theorem ofDigitChars_lt {ds : List Char} (h : ∀ c ∈ ds, c.isDigit = true) (n : Nat) :
    Nat.ofDigitChars 10 ds n < (n + 1) * 10 ^ ds.length := by
  induction ds generalizing n with
  | nil => simp
  | cons c cs ih =>
    obtain ⟨hc, hcs⟩ := List.forall_mem_cons.1 h
    have hdigit : c.toNat - '0'.toNat ≤ 9 := by
      have hrange := Char.isDigit_iff_toNat.1 hc
      have hnine : '9'.toNat = '0'.toNat + 9 := rfl
      omega
    have hlen : 10 ^ (c :: cs).length = 10 * 10 ^ cs.length := Nat.pow_succ'
    rw [Nat.ofDigitChars_cons, hlen]
    refine (ih hcs _).trans_le ?_
    have hstep : 10 * n + (c.toNat - '0'.toNat) + 1 ≤ (n + 1) * 10 := by omega
    exact (Nat.mul_le_mul_right _ hstep).trans_eq (Nat.mul_assoc _ _ _)

/-- The parts of the text of a number. -/
structure Parts (cs sign whole fraction : List Char) : Prop where
  split : ∃ point rest, cs = sign ++ (whole ++ (point ++ (fraction ++ rest))) ∧
    (point = [] ∨ point = ['.']) ∧ ∀ c, rest.head? = some c → isMark c = true
  sign : sign = [] ∨ sign = ['-'] ∨ sign = ['+']
  whole : ∀ c ∈ whole, c.isDigit = true
  fraction : ∀ c ∈ fraction, c.isDigit = true

theorem not_isMark_of_digit {c : Char} (h : c.isDigit = true) : (!isMark c) = true := by
  rw [Bool.not_eq_true', isMark, decide_eq_false_iff_not]
  rintro (rfl | rfl) <;> cases h

theorem Parts.mantissaDigits_eq {sign : List Char} (h : Parts cs sign whole fraction) :
    mantissaDigits cs = whole ++ fraction := by
  obtain ⟨⟨point, rest, rfl, hpoint, hrest⟩, hsign, hwhole, hfraction⟩ := h
  have hmark : rest.takeWhile (fun c => !isMark c) = [] := by
    cases rest with
    | nil => rfl
    | cons c r => exact List.takeWhile_cons_of_neg (by rw [hrest c rfl]; decide)
  have hpass {l : List Char} (hl : ∀ c ∈ l, c.isDigit = true) : ∀ c ∈ l, (!isMark c) = true :=
    fun c hc => not_isMark_of_digit (hl c hc)
  have hs : (∀ c ∈ sign, (!isMark c) = true) ∧ sign.filter Char.isDigit = [] := by
    rcases hsign with rfl | rfl | rfl
    · exact ⟨nofun, rfl⟩
    · exact ⟨List.forall_mem_singleton.2 rfl, rfl⟩
    · exact ⟨List.forall_mem_singleton.2 rfl, rfl⟩
  have hp : (∀ c ∈ point, (!isMark c) = true) ∧ point.filter Char.isDigit = [] := by
    rcases hpoint with rfl | rfl
    · exact ⟨nofun, rfl⟩
    · exact ⟨List.forall_mem_singleton.2 rfl, rfl⟩
  rw [mantissaDigits, List.takeWhile_append_of_pos hs.1, List.takeWhile_append_of_pos (hpass hwhole),
    List.takeWhile_append_of_pos hp.1, List.takeWhile_append_of_pos (hpass hfraction), hmark,
    List.append_nil, List.filter_append, List.filter_append, List.filter_append, hs.2, hp.2,
    List.filter_eq_self.2 hwhole, List.filter_eq_self.2 hfraction]
  rfl

/-- The text of a number without an exponent has these parts. -/
theorem Positional.parts (h : Positional cs whole fraction) (negative : Bool) :
    Parts ((if negative then ['-'] else []) ++ cs) (if negative then ['-'] else []) whole fraction := by
  have hsign : (if negative then ['-'] else []) = [] ∨ (if negative then ['-'] else []) = ['-'] ∨
      (if negative then ['-'] else []) = ['+'] := by
    cases negative
    · exact .inl rfl
    · exact .inr (.inl rfl)
  cases h with
  | whole _ digits =>
    refine ⟨⟨[], [], ?_, .inl rfl, nofun⟩, hsign, digits, nofun⟩
    rw [List.append_nil, List.append_nil, List.append_nil]
  | pointed _ digits _ more =>
    refine ⟨⟨['.'], [], ?_, .inr rfl, nofun⟩, hsign, digits, more⟩
    rw [List.append_nil]
    rfl

theorem isMark_of_exponent {e : Int} (h : exponent? cs = some e) :
    ∀ c, cs.head? = some c → isMark c = true := by
  intro c hc
  cases cs with
  | nil => cases hc
  | cons c' r =>
    obtain rfl := Option.some.inj hc
    by_cases hmark : c' = 'e' ∨ c' = 'E'
    · exact decide_eq_true hmark
    · rw [exponent?, if_neg hmark] at h
      cases h

theorem mem_takeWhile_isDigit (cs : List Char) :
    ∀ c ∈ cs.takeWhile Char.isDigit, c.isDigit = true := fun _ => List.mem_takeWhile_imp

/-- The parts of a text that is read as a decimal. -/
theorem parts_of_ofChars? {d : Decimal} (h : Decimal.ofChars? cs = some d) {sign : List Char}
    (hsign : sign = [] ∨ sign = ['-'] ∨ sign = ['+']) : ∃ whole fraction,
    Parts (sign ++ cs) sign whole fraction ∧
      d.significand = Nat.ofDigitChars 10 (whole ++ fraction) 0 := by
  obtain ⟨whole, tail, hwhole, htail⟩ : ∃ whole tail, cs.takeWhile Char.isDigit = whole ∧
      cs.dropWhile Char.isDigit = tail := ⟨_, _, rfl, rfl⟩
  have hcs : cs = whole ++ tail := by rw [← hwhole, ← htail, List.takeWhile_append_dropWhile]
  have hdigits := hwhole ▸ mem_takeWhile_isDigit cs
  have hpoint : ∃ point, tail = point ++ ((splitFraction tail).1 ++ (splitFraction tail).2) ∧
      (point = [] ∨ point = ['.']) ∧ ∀ c ∈ (splitFraction tail).1, c.isDigit = true := by
    unfold splitFraction
    split
    · rename_i r
      exact ⟨['.'], by rw [List.takeWhile_append_dropWhile]; rfl, .inr rfl, mem_takeWhile_isDigit r⟩
    · exact ⟨[], rfl, .inl rfl, nofun⟩
  obtain ⟨point, hsplit, hpoint, hmore⟩ := hpoint
  simp only [Decimal.ofChars?, hwhole, htail] at h
  split at h
  · rename_i n e hn he
    refine ⟨whole, (splitFraction tail).1, ⟨⟨point, (splitFraction tail).2, ?_, hpoint,
      isMark_of_exponent he⟩, hsign, hdigits, hmore⟩, ?_⟩
    · rw [hcs, ← hsplit]
    · obtain rfl := Option.some.inj h
      unfold wholeNumber? at hn
      split at hn
      · exact (Option.some.inj hn).symm
      · cases hn
  · cases h

end

end NearestHost.Decimal
