/-
  The order of doubles is that of their values.

  * `value`: the value of a double as a whole number of units.
  * `lt_iff`, `le_iff`, `beq_iff`: the relations on doubles, which are false
    where an operand is NaN.
  * `not_lt_infinity`: what is not below infinity is infinity, or NaN.
-/
import NearestHost.Proofs.Double.Format

namespace NearestHost.Double

open Float.Model Float.Model.UnpackedFloat

/-- The value of a sign bit and a word, in units of `2 ^ -1074`. -/
def signed (negative : Bool) (b : Nat) : Int := if negative then -(units b : Int) else units b

/-- The value of a double, in units of `2 ^ -1074`. -/
def value (x : Float) : Int := signed (isNegative x) (magnitude x)

theorem value_of_neg {x : Float} (h : isNegative x = true) :
    value x = -(units (magnitude x) : Int) := by
  rw [value, h]; rfl

theorem value_of_not_neg {x : Float} (h : isNegative x = false) :
    value x = units (magnitude x) := by
  rw [value, h]; rfl

/-- The order of two signed words. -/
def compareWords : Bool → Nat → Bool → Nat → Ordering
  | false, a, false, b => compare a b
  | true, a, true, b => compare b a
  | false, a, true, b => if a = 0 ∧ b = 0 then .eq else .gt
  | true, a, false, b => if a = 0 ∧ b = 0 then .eq else .lt

/-- Positive words are in their order, negative ones in its reverse. -/
theorem compare_signed_false (a b : Nat) :
    compare (signed false a) (signed false b) = compare a b := by
  have hmono : StrictMono (signed false) := fun _ _ h => Int.ofNat_lt.2 (units_strictMono h)
  rw [← cmp_eq_compare, hmono.cmp_map_eq, cmp_eq_compare]

theorem compare_signed_true (a b : Nat) :
    compare (signed true a) (signed true b) = compare b a := by
  have hanti : StrictAnti (signed true) := fun _ _ h =>
    Int.neg_lt_neg (Int.ofNat_lt.2 (units_strictMono h))
  rw [← cmp_eq_compare, hanti.cmp_map_eq, cmp_eq_compare]

/-- The words are in the order of their values. -/
theorem compareWords_eq (s t : Bool) (a b : Nat) :
    compareWords s a t b = compare (signed s a) (signed t b) := by
  have ha := units_pos (b := a)
  have hb := units_pos (b := b)
  cases s <;> cases t
  · rw [compare_signed_false]; rfl
  · by_cases h : a = 0 ∧ b = 0
    · rw [compareWords, if_pos h, h.1, h.2]; rfl
    · rw [compareWords, if_neg h, eq_comm, compare_gt_iff_gt]
      simp only [signed, if_true, Bool.false_eq_true, if_false]; omega
  · by_cases h : a = 0 ∧ b = 0
    · rw [compareWords, if_pos h, h.1, h.2]; rfl
    · rw [compareWords, if_neg h, eq_comm, compare_lt_iff_lt]
      simp only [signed, if_true, Bool.false_eq_true, if_false]; omega
  · rw [compare_signed_true]; rfl

/-- Words are in the order of their exponents, and with the same exponent of their significands. -/
theorem compare_fields {p m q n : Nat} (hm : m < 2 ^ 53) (h : 2 ^ 52 ≤ m ∨ p = 0)
    (hn : n < 2 ^ 53) (h' : 2 ^ 52 ≤ n ∨ q = 0) :
    (compare (p - 1074 : Int) (q - 1074)).then (compare m n) =
      compare (p * 2 ^ 52 + m) (q * 2 ^ 52 + n) := by
  rcases lt_trichotomy p q with hpq | rfl | hpq
  · have hlt : p * 2 ^ 52 + m < q * 2 ^ 52 + n := by omega
    rw [compare_lt_iff_lt.2 (by omega), compare_lt_iff_lt.2 hlt]; rfl
  · rw [compare_eq_iff_eq.2 rfl, Ordering.eq_then]
    rcases lt_trichotomy m n with hmn | rfl | hmn
    · rw [compare_lt_iff_lt.2 hmn, compare_lt_iff_lt.2 (by omega)]
    · rw [compare_eq_iff_eq.2 rfl, compare_eq_iff_eq.2 rfl]
    · rw [compare_gt_iff_gt.2 hmn, compare_gt_iff_gt.2 (by omega)]
  · have hlt : q * 2 ^ 52 + n < p * 2 ^ 52 + m := by omega
    rw [compare_gt_iff_gt.2 (by omega), compare_gt_iff_gt.2 hlt]; rfl

/-- Where one word is greater, its sign is the order. -/
theorem compareWords_of_gt {s t : Bool} {a b : Nat} (h : b < a) :
    compareWords s a t b = if s then .lt else .gt := by
  have hne : ¬ (a = 0 ∧ b = 0) := by omega
  cases s <;> cases t
  · exact compare_gt_iff_gt.2 h
  · exact if_neg hne
  · exact if_neg hne
  · exact compare_lt_iff_lt.2 h

theorem compareWords_of_lt {s t : Bool} {a b : Nat} (h : a < b) :
    compareWords s a t b = if t then .gt else .lt := by
  have hne : ¬ (a = 0 ∧ b = 0) := by omega
  cases s <;> cases t
  · exact compare_lt_iff_lt.2 h
  · exact if_neg hne
  · exact if_neg hne
  · exact compare_gt_iff_gt.2 h

theorem Reading.compare_eq {s t : Bool} {a b : Nat} {u v : UnpackedFloat} (hu : Reading s a u)
    (hv : Reading t b v) (ha : a ≤ infinity) (hb : b ≤ infinity) :
    u.compare v = some (compareWords s a t b) := by
  have hinf : 0 < infinity := by decide
  cases hu with
  | nan h => omega
  | infinite =>
    cases hv with
    | nan h => omega
    | infinite => cases s <;> cases t <;> decide
    | zero => rw [compareWords_of_gt hinf]; cases s <;> cases t <;> rfl
    | finite hm h hpos hfin => rw [compareWords_of_gt hfin]; cases s <;> cases t <;> rfl
  | zero =>
    cases hv with
    | nan h => omega
    | infinite => rw [compareWords_of_lt hinf]; cases s <;> cases t <;> rfl
    | zero => cases s <;> cases t <;> rfl
    | finite hm h hpos hfin => rw [compareWords_of_lt (by omega)]; cases s <;> cases t <;> rfl
  | @finite p m hm h hpos hfin =>
    cases hv with
    | nan h => omega
    | infinite => rw [compareWords_of_lt hfin]; cases s <;> cases t <;> rfl
    | zero => rw [compareWords_of_gt (by omega)]; cases s <;> cases t <;> rfl
    | @finite q n hn h' hpos' hfin' =>
      have hne : ¬ (p * 2 ^ 52 + m = 0 ∧ q * 2 ^ 52 + n = 0) := by omega
      have hfields := compare_fields hm h hn h'
      cases s <;> cases t
      · exact congrArg some hfields
      · exact congrArg some (if_neg hne).symm
      · exact congrArg some (if_neg hne).symm
      · exact congrArg some ((congrArg Ordering.swap hfields).trans (Nat.compare_swap _ _))

theorem compare_eq {x y : Float} (hx : magnitude x ≤ infinity) (hy : magnitude y ≤ infinity) :
    x.toModel.unpack.compare y.toModel.unpack = some (compare (value x) (value y)) := by
  rw [(reading x).compare_eq (reading y) hx hy, compareWords_eq]; rfl

theorem Reading.eq_notANumber {s : Bool} {a : Nat} {u : UnpackedFloat} (hu : Reading s a u)
    (h : infinity < a) : u = .notANumber := by
  cases hu with
  | nan => rfl
  | infinite => omega
  | zero => omega
  | finite hm h' hpos hfin => omega

theorem compare_eq_none {x y : Float} (h : infinity < magnitude x ∨ infinity < magnitude y) :
    x.toModel.unpack.compare y.toModel.unpack = none := by
  rcases h with h | h
  · rw [(reading x).eq_notANumber h]; rfl
  · rw [(reading y).eq_notANumber h]; cases x.toModel.unpack <;> rfl

theorem isNaN_eq_false {x : Float} : isNaN x = false ↔ magnitude x ≤ infinity := by
  rw [isNaN, decide_eq_false_iff_not, Nat.not_lt]

theorem isFinite_iff {x : Float} : isFinite x = true ↔ magnitude x < infinity := decide_eq_true_iff

theorem isNaN_of_isFinite {x : Float} (hx : isFinite x) : isNaN x = false :=
  isNaN_eq_false.2 (isFinite_iff.1 hx).le

/-- The order of two doubles is that of their values, where both are numbers. -/
theorem compare_iff {x y : Float} {o : Ordering} :
    x.toModel.unpack.compare y.toModel.unpack = some o ↔
      isNaN x = false ∧ isNaN y = false ∧ compare (value x) (value y) = o := by
  simp only [isNaN_eq_false]
  by_cases hx : magnitude x ≤ infinity
  · by_cases hy : magnitude y ≤ infinity
    · rw [compare_eq hx hy]; simp [hx, hy]
    · rw [compare_eq_none (Or.inr (by omega))]; simp [hy]
  · rw [compare_eq_none (Or.inl (by omega))]; simp [hx]

/-! ## The relations -/

/-- **A double is less than another where both are numbers and its value is less.** -/
theorem lt_iff {x y : Float} : x < y ↔ isNaN x = false ∧ isNaN y = false ∧ value x < value y := by
  have h : x < y ↔ x.toModel.unpack.compare y.toModel.unpack = some .lt := by
    change decide (x.toModel < y.toModel) = true ↔ _
    rw [decide_eq_true_iff]
    change (x.toModel.unpack.compare y.toModel.unpack == some .lt) = true ↔ _
    rw [beq_iff_eq]
  rw [h, compare_iff, compare_lt_iff_lt]

theorem le_iff {x y : Float} : x ≤ y ↔ isNaN x = false ∧ isNaN y = false ∧ value x ≤ value y := by
  have h : x ≤ y ↔ ∃ o, x.toModel.unpack.compare y.toModel.unpack = some o ∧ o.isLE := by
    change decide (x.toModel ≤ y.toModel) = true ↔ _
    rw [decide_eq_true_iff]
    change (x.toModel.unpack.compare y.toModel.unpack).any (·.isLE) = true ↔ _
    rw [Option.any_eq_true]
  rw [h, ← Int.isLE_compare]
  constructor
  · rintro ⟨o, ho, hle⟩
    obtain ⟨hx, hy, rfl⟩ := compare_iff.1 ho
    exact ⟨hx, hy, hle⟩
  · rintro ⟨hx, hy, hle⟩
    exact ⟨_, compare_iff.2 ⟨hx, hy, rfl⟩, hle⟩

theorem beq_iff {x y : Float} :
    (x == y) = true ↔ isNaN x = false ∧ isNaN y = false ∧ value x = value y := by
  have h : (x == y) = true ↔ x.toModel.unpack.compare y.toModel.unpack = some .eq := by
    change (x.toModel.unpack.compare y.toModel.unpack == some .eq) = true ↔ _
    rw [beq_iff_eq]
  rw [h, compare_iff, compare_eq_iff_eq]

theorem not_lt_of_isNaN {x y : Float} (h : isNaN x = true ∨ isNaN y = true) : ¬ x < y := by
  intro hlt
  obtain ⟨hx, hy, -⟩ := lt_iff.1 hlt
  rcases h with h | h
  · rw [hx] at h; cases h
  · rw [hy] at h; cases h

theorem lt_irrefl (x : Float) : ¬ x < x := fun h => (lt_iff.1 h).2.2.false

theorem lt_trans {x y z : Float} (h : x < y) (h' : y < z) : x < z := by
  obtain ⟨hx, -, hxy⟩ := lt_iff.1 h
  obtain ⟨-, hz, hyz⟩ := lt_iff.1 h'
  exact lt_iff.2 ⟨hx, hz, hxy.trans hyz⟩

theorem le_trans {x y z : Float} (h : x ≤ y) (h' : y ≤ z) : x ≤ z := by
  obtain ⟨hx, -, hxy⟩ := le_iff.1 h
  obtain ⟨-, hz, hyz⟩ := le_iff.1 h'
  exact le_iff.2 ⟨hx, hz, hxy.trans hyz⟩

/-- Of two numbers, one is less or the other is at most it. -/
theorem not_lt {x y : Float} (hx : isNaN x = false) (hy : isNaN y = false) :
    ¬ x < y ↔ y ≤ x := by
  rw [lt_iff, le_iff]; simp only [hx, hy, true_and, Int.not_lt]

/-! ## Infinity -/

/-- A double is its sign and its magnitude word. -/
theorem eq_of_words {x y : Float} (hm : magnitude x = magnitude y)
    (hs : isNegative x = isNegative y) : x = y := by
  have hbits : x.toBits.toNat = y.toBits.toNat := by
    have hx := x.toBits.toNat_lt
    have hy := y.toBits.toNat_lt
    unfold magnitude at hm
    simp only [isNegative, decide_eq_decide] at hs
    omega
  obtain ⟨⟨a, ha⟩⟩ := x
  obtain ⟨⟨b, hb⟩⟩ := y
  obtain rfl : a = b := UInt64.toNat_inj.1 hbits
  rfl

theorem not_lt_infinity {x : Float} :
    ¬ x < ofMagnitude false infinity ↔ isNaN x = true ∨ x = ofMagnitude false infinity := by
  have hm : magnitude (ofMagnitude false infinity) = infinity := by decide
  have hs : isNegative (ofMagnitude false infinity) = false := by decide
  have hn : isNaN (ofMagnitude false infinity) = false := by decide
  have hv : value (ofMagnitude false infinity) = units infinity := by
    rw [value_of_not_neg hs, hm]
  rw [lt_iff, hv]
  cases hx : isNaN x with
  | true => exact ⟨fun _ => Or.inl rfl, fun _ h => absurd h.1.symm Bool.false_ne_true⟩
  | false =>
    have hle := isNaN_eq_false.1 hx
    simp only [hn, true_and, Int.not_lt, Bool.false_eq_true, false_or]
    constructor
    · intro h
      have hpos := units_pos.2 (show 0 < infinity by decide)
      cases hneg : isNegative x with
      | true => rw [value_of_neg hneg] at h; omega
      | false =>
        rw [value_of_not_neg hneg] at h
        have hge : infinity ≤ magnitude x := units_le_units.1 (by omega)
        exact eq_of_words (by omega) (by rw [hneg, hs])
    · rintro rfl; exact hv.ge

theorem lt_infinity {x : Float} (hx : isFinite x) : x < ofMagnitude false infinity := by
  have hinf : isFinite (ofMagnitude false infinity) = false := by decide
  by_contra h
  rcases not_lt_infinity.1 h with hn | rfl
  · rw [isNaN_of_isFinite hx] at hn; exact Bool.false_ne_true hn
  · rw [hinf] at hx; exact Bool.false_ne_true hx

end NearestHost.Double
