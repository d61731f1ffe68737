/-
  Addresses are read from their texts.

  * `V4.read?_text`: four bytes.
  * `V6.readGroups_text`: groups between colons, up to the end or to `::`.
  * `V6.longestZeroRun_split`: the groups around the run that is left out.
  * `V6.read?_text`: eight groups, in each of the three forms of the text.
  * `Address.ofString?_toString`: so an address is read from its text, in its
    own family.
-/
import NearestHost.Address.Parser
import NearestHost.Proofs.Decimal.Written

namespace NearestHost

/-! ## Digits -/

theorem digitChar_eq_zero {n : Nat} (hn : n < 16) (h : Nat.digitChar n = '0') : n = 0 := by
  have hall : ∀ m < 16, Nat.digitChar m = '0' → m = 0 := by decide
  exact hall n hn h

/-- Digits do not start with a zero, but for the number zero. -/
theorem head_toDigits {b n : Nat} (hb : 1 < b) (hle : b ≤ 16)
    (h : (Nat.toDigits b n).head? = some '0') : n = 0 := by
  induction n using Nat.strongRecOn with
  | _ n ih =>
    rcases Nat.lt_or_ge n b with hlt | hge
    · rw [Nat.toDigits_of_lt_base hlt] at h
      exact digitChar_eq_zero (by omega) (Option.some.inj h)
    · have hdiv : 0 < n / b := Nat.div_pos hge (by omega)
      rw [Nat.toDigits_of_base_le hb hge, List.head?_append_of_ne_nil _ Nat.toDigits_ne_nil] at h
      have hzero := ih (n / b) (Nat.div_lt_self (by omega) hb) h
      omega

namespace V4

/-- What may follow a byte. -/
def EndsByte (r : List Char) : Prop := ∀ c, r.head? = some c → c.isDigit = false

theorem readByte?_toDigits (b : UInt8) {r : List Char} (hr : EndsByte r) :
    readByte? (Nat.toDigits 10 b.toNat ++ r) = some (b, r) := by
  have hdigits : ∀ c ∈ Nat.toDigits 10 b.toNat, c.isDigit = true :=
    fun _ hc => Nat.isDigit_of_mem_toDigits (by decide) (by decide) hc
  obtain ⟨htake, hdrop⟩ := Decimal.takeWhile_of_head hdigits hr
  have hbyte := b.toNat_lt
  have hlen : (Nat.toDigits 10 b.toNat).length ≤ 3 :=
    (Nat.length_toDigits_le_iff (by decide) (by decide)).2 (by omega)
  have hzero : (Nat.toDigits 10 b.toNat).head? = some '0' → Nat.toDigits 10 b.toNat = ['0'] := by
    intro h
    rw [head_toDigits (by decide) (by decide) h]
    rfl
  unfold readByte?
  simp only [htake, hdrop, Nat.ofDigitChars_ten_toDigits]
  rw [if_neg, UInt8.ofNat_toNat]
  rintro (h | h | ⟨h, hne⟩ | h)
  · exact Nat.toDigits_ne_nil h
  · omega
  · exact hne (hzero h)
  · omega

theorem readNext?_toDigits (b : UInt8) {r : List Char} (hr : EndsByte r) :
    readNext? ('.' :: (Nat.toDigits 10 b.toNat ++ r)) = some (b, r) := readByte?_toDigits b hr

theorem endsByte_point (r : List Char) : EndsByte ('.' :: r) := by
  intro c hc
  obtain rfl := Option.some.inj hc
  decide

/-- **Four bytes are read from their text**, in front of anything but a digit. -/
theorem read?_text (a : V4) {r : List Char} (hr : EndsByte r) :
    read? (a.text ++ r) = some (a, r) := by
  obtain ⟨a, b, c, d⟩ := a
  simp only [read?, text, List.append_assoc, List.cons_append,
    readByte?_toDigits a (endsByte_point _), readNext?_toDigits b (endsByte_point _),
    readNext?_toDigits c (endsByte_point _), readNext?_toDigits d hr, Option.bind_eq_bind,
    Option.bind_some]
  rfl

theorem read?_whole (a : V4) : read? a.text = some (a, []) := by
  have hread := read?_text a (r := []) nofun
  rwa [List.append_nil] at hread

/-- A text without a point behind its digits is no address of four bytes. -/
theorem read?_eq_none {cs : List Char} (h : (cs.dropWhile Char.isDigit).head? ≠ some '.') :
    read? cs = none := by
  unfold read?
  cases hbyte : readByte? cs with
  | none => rfl
  | some p =>
    obtain ⟨b, r⟩ := p
    have hr : cs.dropWhile Char.isDigit = r := by
      unfold readByte? at hbyte
      dsimp only at hbyte
      split at hbyte
      · cases hbyte
      · exact (Prod.mk.inj (Option.some.inj hbyte)).2
    have hnext : readNext? r = none := by
      unfold readNext?
      split
      · rw [hr] at h
        exact absurd rfl h
      · rfl
    simp only [Option.bind_eq_bind, Option.bind_some, hnext, Option.bind_none]

end V4

namespace V6

/-! ## Groups -/

def isHex (c : Char) : Bool := (hexValue? c).isSome

/-- The value of hexadecimal digits. -/
def hexNumber (vs : List Nat) : Nat := vs.foldl (16 * · + ·) 0

theorem hexValue?_digitChar {n : Nat} (hn : n < 16) : hexValue? (Nat.digitChar n) = some n := by
  have hall : ∀ m < 16, hexValue? (Nat.digitChar m) = some m := by decide
  exact hall n hn

/-- Hexadecimal digits have values, which give back the number. -/
theorem hexValues_toDigits (n : Nat) : ∃ vs, (Nat.toDigits 16 n).map hexValue? = vs.map some ∧
    hexNumber vs = n := by
  induction n using Nat.strongRecOn with
  | _ n ih =>
    rcases Nat.lt_or_ge n 16 with hlt | hge
    · refine ⟨[n], ?_, by simp [hexNumber]⟩
      rw [Nat.toDigits_of_lt_base hlt, List.map_singleton, hexValue?_digitChar hlt]
      rfl
    · obtain ⟨vs, hvs, hnumber⟩ := ih (n / 16) (Nat.div_lt_self (by omega) (by decide))
      refine ⟨vs ++ [n % 16], ?_, ?_⟩
      · rw [Nat.toDigits_of_base_le (by decide) hge, List.map_append, hvs, List.map_append,
          List.map_singleton, hexValue?_digitChar (Nat.mod_lt _ (by decide))]
        rfl
      · rw [hexNumber, List.foldl_append]
        change 16 * hexNumber vs + n % 16 = n
        rw [hnumber, Nat.div_add_mod]

theorem isHex_of_mem_toDigits (n : Nat) : ∀ c ∈ Nat.toDigits 16 n, isHex c = true := by
  intro c hc
  obtain ⟨vs, hvs, -⟩ := hexValues_toDigits n
  have hmem := List.mem_map_of_mem (f := hexValue?) hc
  rw [hvs, List.mem_map] at hmem
  obtain ⟨v, -, hv⟩ := hmem
  rw [isHex, ← hv]
  rfl

/-- Groups end in front of a colon, or with the text. -/
def EndsGroup (r : List Char) : Prop := ∀ c, r.head? = some c → c = ':'

theorem EndsGroup.not_isHex {r : List Char} (hr : EndsGroup r) :
    ∀ c, r.head? = some c → isHex c = false := by
  intro c hc
  rw [hr c hc]
  rfl

theorem readGroup?_toDigits (g : UInt16) {r : List Char} (hr : EndsGroup r) :
    readGroup? (Nat.toDigits 16 g.toNat ++ r) = some (g, r) := by
  obtain ⟨htake, hdrop⟩ := Decimal.takeWhile_of_head (isHex_of_mem_toDigits g.toNat) hr.not_isHex
  obtain ⟨vs, hvs, hnumber⟩ := hexValues_toDigits g.toNat
  have hlen : vs.length = (Nat.toDigits 16 g.toNat).length := by
    have hmap := congrArg List.length hvs
    rw [List.length_map, List.length_map] at hmap
    exact hmap.symm
  have hvalues : (Nat.toDigits 16 g.toNat).filterMap hexValue? = vs := by
    have hmap : ((Nat.toDigits 16 g.toNat).map hexValue?).filterMap id = vs := by
      rw [hvs, List.filterMap_map]
      exact List.filterMap_some
    rwa [List.filterMap_map] at hmap
  have hgroup := g.toNat_lt
  have hfour : (Nat.toDigits 16 g.toNat).length ≤ 4 :=
    (Nat.length_toDigits_le_iff (by decide) (by decide)).2 (by omega)
  have hpos := List.length_pos_of_ne_nil (Nat.toDigits_ne_nil (b := 16) (n := g.toNat))
  have hsome : ¬ (vs = [] ∨ 4 < vs.length) := by
    rintro (rfl | h)
    · rw [← hlen] at hpos
      exact Nat.lt_irrefl 0 hpos
    · omega
  unfold isHex at htake hdrop
  unfold hexNumber at hnumber
  rw [readGroup?, htake, hdrop, hvalues]
  simp only [if_neg hsome, hnumber, UInt16.ofNat_toNat]

theorem readGroup?_eq_none {r : List Char} (hr : EndsGroup r) : readGroup? r = none := by
  have htake : r.takeWhile isHex = [] := by
    cases r with
    | nil => rfl
    | cons c r => obtain rfl := hr c rfl; rfl
  unfold isHex at htake
  rw [readGroup?, htake]
  rfl

theorem EndsGroup.cases {r : List Char} (hr : EndsGroup r) : r = [] ∨ ∃ r', r = ':' :: r' := by
  cases r with
  | nil => exact Or.inl rfl
  | cons c r => exact Or.inr ⟨r, by rw [hr c rfl]⟩

/-- Groups are no address of four bytes. -/
theorem readV4_eq_none {ds r : List Char} (hds : ∀ c ∈ ds, isHex c = true) (hr : EndsGroup r) :
    V4.read? (ds ++ r) = none := by
  -- behind the decimal digits in front stands a letter, a colon, or nothing
  refine V4.read?_eq_none ?_
  induction ds with
  | nil => rcases hr.cases with rfl | ⟨r', rfl⟩ <;> nofun
  | cons d ds ih =>
    rw [List.cons_append, List.dropWhile_cons]
    split
    · exact ih fun c hc => hds c (List.mem_cons_of_mem d hc)
    · rintro h
      obtain rfl := Option.some.inj h
      exact absurd (hds _ List.mem_cons_self) (by decide)

/-! ## Rows of groups -/

/-- Groups with a colon in front of each. -/
def furtherText (gs : List UInt16) : List Char :=
  gs.flatMap fun g => ':' :: Nat.toDigits 16 g.toNat

theorem groupsText_cons (g : UInt16) (gs : List UInt16) :
    groupsText (g :: gs) = Nat.toDigits 16 g.toNat ++ furtherText gs := by
  induction gs generalizing g with
  | nil => rw [groupsText, furtherText, List.flatMap_nil, List.append_nil]
  | cons h gs ih =>
    rw [groupsText, ih, furtherText, furtherText, List.flatMap_cons, List.cons_append]
    · nofun

/-- What may follow a row of groups: the end, or the gap. -/
def EndsGroups (r : List Char) : Prop := r = [] ∨ ∃ r', r = ':' :: ':' :: r'

theorem EndsGroups.endsGroup {r : List Char} (hr : EndsGroups r) : EndsGroup r := by
  rcases hr with rfl | ⟨r', rfl⟩
  · nofun
  · exact fun c hc => (Option.some.inj hc).symm

theorem endsGroup_further (gs : List UInt16) {r : List Char} (hr : EndsGroups r) :
    EndsGroup (furtherText gs ++ r) := by
  cases gs with
  | nil => exact hr.endsGroup
  | cons g gs => exact fun c hc => (Option.some.inj hc).symm

theorem readGroups_end (n : Nat) (first : Bool) {r : List Char} (hr : EndsGroups r) :
    readGroups n first r = ([], false, r) := by
  cases n with
  | zero => rfl
  | succ n =>
    have hread (r' : List Char) (hr' : EndsGroup r') :
        (if 0 < n then V4.read? r' else none) = none ∧ readGroup? r' = none := by
      have hnone : V4.read? r' = none := readV4_eq_none (List.forall_mem_nil _) hr'
      exact ⟨by rw [hnone, ite_self], readGroup?_eq_none hr'⟩
    unfold readGroups
    cases first with
    | true =>
      obtain ⟨hnone, hgroup⟩ := hread r hr.endsGroup
      simp only [afterColon?, if_true, hnone, hgroup]
    | false =>
      rcases hr with rfl | ⟨r', rfl⟩
      · rfl
      · have hcolon : EndsGroup (':' :: r') := fun c hc => (Option.some.inj hc).symm
        obtain ⟨hnone, hgroup⟩ := hread _ hcolon
        simp only [afterColon?, Bool.false_eq_true, if_false, hnone, hgroup]

/-- A group, and those after it. -/
theorem readGroups_cons {n : Nat} {first embedded : Bool} {cs r r' : List Char} {g : UInt16}
    {gs : List UInt16} (hcs : afterColon? first cs = some (Nat.toDigits 16 g.toNat ++ r))
    (hr : EndsGroup r) (hrest : readGroups n false r = (gs, embedded, r')) :
    readGroups (n + 1) first cs = (g :: gs, embedded, r') := by
  have hnone : V4.read? (Nat.toDigits 16 g.toNat ++ r) = none :=
    readV4_eq_none (isHex_of_mem_toDigits _) hr
  rw [readGroups]
  simp only [hcs, hnone, ite_self, readGroup?_toDigits g hr, hrest]

/-- Groups behind colons are read one by one. -/
theorem readGroups_further {n : Nat} {gs : List UInt16} (hlen : gs.length ≤ n) {r : List Char}
    (hr : EndsGroups r) : readGroups n false (furtherText gs ++ r) = (gs, false, r) := by
  induction gs generalizing n with
  | nil => exact readGroups_end n false hr
  | cons g gs ih =>
    obtain ⟨n, rfl⟩ : ∃ m, n = m + 1 := ⟨n - 1, by rw [List.length_cons] at hlen; omega⟩
    have htext : furtherText (g :: gs) ++ r =
        ':' :: (Nat.toDigits 16 g.toNat ++ (furtherText gs ++ r)) := by
      simp [furtherText]
    rw [htext]
    exact readGroups_cons rfl (endsGroup_further gs hr) (ih (Nat.le_of_succ_le_succ hlen))

/-- **A row of groups is read from its text.** -/
theorem readGroups_text {n : Nat} {gs : List UInt16} (hlen : gs.length ≤ n) {r : List Char}
    (hr : EndsGroups r) : readGroups n true (groupsText gs ++ r) = (gs, false, r) := by
  cases gs with
  | nil => exact readGroups_end n true hr
  | cons g gs =>
    obtain ⟨n, rfl⟩ : ∃ m, n = m + 1 := ⟨n - 1, by rw [List.length_cons] at hlen; omega⟩
    rw [groupsText_cons, List.append_assoc]
    exact readGroups_cons rfl (endsGroup_further gs hr)
      (readGroups_further (Nat.le_of_succ_le_succ hlen) hr)

theorem readGroups_whole {n : Nat} {gs : List UInt16} (hlen : gs.length ≤ n) :
    readGroups n true (groupsText gs) = (gs, false, []) := by
  have hread := readGroups_text hlen (r := []) (Or.inl rfl)
  rwa [List.append_nil] at hread

/-- A row of groups is no address of four bytes. -/
theorem readV4_groupsText (gs : List UInt16) {r : List Char} (hr : EndsGroups r) :
    V4.read? (groupsText gs ++ r) = none := by
  cases gs with
  | nil => exact readV4_eq_none (List.forall_mem_nil _) hr.endsGroup
  | cons g gs =>
    rw [groupsText_cons, List.append_assoc]
    exact readV4_eq_none (isHex_of_mem_toDigits _) (endsGroup_further gs hr)

/-! ## The gap -/

theorem leadingZeros_split (gs : List UInt16) :
    List.replicate (leadingZeros gs) 0 ++ gs.drop (leadingZeros gs) = gs := by
  induction gs with
  | nil => rfl
  | cons g gs ih =>
    by_cases hg : g = 0
    · subst hg
      have hlen : leadingZeros (0 :: gs) = leadingZeros gs + 1 := rfl
      rw [hlen, List.replicate_succ, List.drop_succ_cons, List.cons_append, ih]
    · have hlen : leadingZeros (g :: gs) = 0 := by
        rw [leadingZeros, List.takeWhile_cons_of_neg (by simpa using hg)]
        rfl
      rw [hlen]
      rfl

/-- The groups in front of the run that is left out, the run, and the groups after it. -/
theorem longestZeroRun_split (gs : List UInt16) :
    gs.take (longestZeroRun gs).1 ++ (List.replicate (longestZeroRun gs).2 0 ++
      gs.drop ((longestZeroRun gs).1 + (longestZeroRun gs).2)) = gs := by
  induction gs with
  | nil => rfl
  | cons g gs ih =>
    rw [longestZeroRun]
    -- the run starts here, or one place later than in the rest
    split
    · simpa using leadingZeros_split (g :: gs)
    · rw [List.take_succ_cons, Nat.add_right_comm, List.drop_succ_cons, List.cons_append, ih]

/-! ## Addresses -/

theorem ofGroups?_groups (a : V6) : ofGroups? a.groups = some a := dif_pos a.length_eq

theorem read?_groupsText (a : V6) : read? (groupsText a.groups) = some (a, []) := by
  simp only [read?, readGroups_whole (Nat.le_of_eq a.length_eq), ofGroups?_groups]

/-- Groups on both sides of a gap of at least two. -/
theorem read?_gap {a : V6} {front back : List UInt16} {l : Nat} (hl : 2 ≤ l)
    (ha : front ++ (List.replicate l 0 ++ back) = a.groups) :
    read? (groupsText front ++ ':' :: ':' :: groupsText back) = some (a, []) := by
  have hlen : front.length + (l + back.length) = 8 := by
    have hgroups := congrArg List.length ha
    rwa [List.length_append, List.length_append, List.length_replicate, a.length_eq] at hgroups
  -- there are at most six groups in all, so each row ends before the places do
  have hfront : readGroups 8 true (groupsText front ++ ':' :: ':' :: groupsText back) =
      (front, false, ':' :: ':' :: groupsText back) :=
    readGroups_text (by omega) (Or.inr ⟨_, rfl⟩)
  have hback : readGroups (7 - front.length) true (groupsText back) = (back, false, []) :=
    readGroups_whole (by omega)
  have hnone : ofGroups? front = none := dif_neg (by omega)
  have hgap : 8 - (front.length + back.length) = l := by omega
  simp only [read?, hfront, hnone, hback, hgap, List.append_assoc, ha, ofGroups?_groups,
    Option.map_some]

theorem groups_ofGroups (g h : UInt16) : (V4.ofGroups g h).groups = [g, h] := by
  have hgroup (g : UInt16) : (g / 256).toUInt8.toUInt16 * 256 + g.toUInt8.toUInt16 = g := by
    have hlt := g.toNat_lt
    rw [← UInt16.toNat_inj]
    simp only [UInt16.toNat_add, UInt16.toNat_mul, UInt8.toNat_toUInt16, UInt16.toNat_toUInt8,
      UInt16.toNat_div, UInt16.reduceToNat]
    omega
  rw [V4.groups, V4.ofGroups, hgroup, hgroup]

/-- An address of four bytes after `::ffff:`. -/
theorem read?_embedded {a : V6} {b : V4} (ha : a.groups = [0, 0, 0, 0, 0, 0xffff] ++ b.groups) :
    read? ([':', ':', 'f', 'f', 'f', 'f', ':'] ++ b.text) = some (a, []) := by
  have hfront (r : List Char) :
      readGroups 8 true (':' :: ':' :: r) = ([], false, ':' :: ':' :: r) :=
    readGroups_end 8 true (Or.inr ⟨r, rfl⟩)
  have hback : readGroups 7 true (['f', 'f', 'f', 'f'] ++ ':' :: b.text) =
      (0xffff :: b.groups, true, []) := by
    have hfurther : readGroups 6 false (':' :: b.text) = (b.groups, true, []) := by
      simp only [readGroups, afterColon?, Bool.false_eq_true, if_false, Nat.zero_lt_succ, if_true,
        V4.read?_whole]
    have hends : EndsGroup (':' :: b.text) := fun c hc => (Option.some.inj hc).symm
    exact readGroups_cons rfl hends hfurther
  have hnone : ofGroups? [] = none := rfl
  have hall : List.replicate (8 - (0 + (0xffff :: b.groups).length)) 0 ++ 0xffff :: b.groups =
      a.groups := ha.symm
  simp only [List.cons_append, List.nil_append] at hback
  simp only [read?, List.cons_append, List.nil_append, hfront, hnone, List.length_nil, Nat.sub_zero,
    hback, hall, ofGroups?_groups, Option.map_some]

/-- **Eight groups are read from their text.** -/
theorem read?_text (a : V6) : read? a.text = some (a, []) := by
  unfold text
  split
  · rename_i g h ha
    exact read?_embedded (by rw [groups_ofGroups, ha]; rfl)
  · unfold compressedText
    dsimp only
    split
    · rename_i hl
      exact read?_gap hl (longestZeroRun_split a.groups)
    · exact read?_groupsText a

/-- The text of eight groups is no address of four bytes. -/
theorem readV4_text (a : V6) : V4.read? a.text = none := by
  unfold text
  split
  · exact V4.read?_eq_none nofun
  · unfold compressedText
    dsimp only
    split
    · exact readV4_groupsText _ (Or.inr ⟨_, rfl⟩)
    · have hnone := readV4_groupsText a.groups (r := []) (Or.inl rfl)
      rwa [List.append_nil] at hnone

end V6

namespace Address

/-- **An address is read from its text.** -/
theorem ofString?_toString (a : Address) : ofString? a.toString = some a := by
  rw [ofString?, toString, String.toList_ofList]
  cases a with
  | v4 a =>
    have hread : V4.read? (chars (.v4 a)) = some (a, []) := V4.read?_whole a
    rw [ofChars?, hread]
    rfl
  | v6 a =>
    have hnone : V4.read? (chars (.v6 a)) = none := V6.readV4_text a
    have hread : V6.read? (chars (.v6 a)) = some (a, []) := V6.read?_text a
    rw [ofChars?, hnone, hread]
    rfl

end Address

end NearestHost
