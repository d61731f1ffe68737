/-
  Labels in ASCII.

  * `joinPoints_splitPoints`, `splitPoints_toLower`: texts divided at their points.
  * `hasLabelChars_toLower`: the plain rules do not see letter case.
  * `PlainPart`: a text in ASCII without points that is no written form of other letters.
  * `asciiLabel?_of_unicodeLabel?`: of a plain part, the rules for names of hosts make
    the label that the plain rules make, up to letter case.
  * `labelText_of_plain`: such a label is shown as it is.
-/
import NearestHost.Dns.Label

namespace NearestHost.Dns

variable {c d : Char} {cs t l : List Char}

/-! ## Points -/

theorem splitPoints_cons {w : List Char} {ws : List (List Char)} (h : splitPoints cs = w :: ws) :
    splitPoints (c :: cs) = if (c == '.') = true then [] :: w :: ws else (c :: w) :: ws := by
  unfold splitPoints Text.splitWhere at h ⊢
  rw [List.foldr_cons, h]

theorem splitPoints_eq (cs : List Char) : splitPoints cs = cs.splitOn '.' := by
  induction cs with
  | nil => rfl
  | cons c cs ih =>
    obtain ⟨w, ws, hw⟩ := List.exists_cons_of_ne_nil (List.splitOn_ne_nil '.' cs)
    rw [splitPoints_cons (ih.trans hw), List.splitOn_cons_eq_if_modifyHead, hw]
    rfl

theorem splitPoints_ne_nil (cs : List Char) : splitPoints cs ≠ [] := by
  rw [splitPoints_eq]
  exact List.splitOn_ne_nil _ _

theorem splitPoints_of_not_mem (h : '.' ∉ cs) : splitPoints cs = [cs] := by
  rw [splitPoints_eq, List.splitOn_eq_singleton h]

/-- Nothing of a text is lost when it is divided at its points. -/
theorem joinPoints_splitPoints (cs : List Char) : joinPoints (splitPoints cs) = cs := by
  rw [splitPoints_eq]
  exact List.intercalate_splitOn '.'

/-- The parts of a text have its characters without the points. -/
theorem mem_of_mem_splitPoints (ht : t ∈ splitPoints cs) (hc : c ∈ t) : c ∈ cs ∧ c ≠ '.' := by
  rw [splitPoints_eq] at ht
  induction cs generalizing t with
  | nil =>
    rw [List.splitOn_nil, List.mem_singleton] at ht
    simp [ht] at hc
  | cons d cs ih =>
    rw [List.splitOn_cons_eq_if_modifyHead] at ht
    obtain ⟨w, ws, hw⟩ := List.exists_cons_of_ne_nil (List.splitOn_ne_nil '.' cs)
    rw [hw] at ih ht
    have hlater (t : List Char) (ht : t ∈ w :: ws) (hc : c ∈ t) : c ∈ d :: cs ∧ c ≠ '.' :=
      (ih ht hc).imp_left (List.mem_cons_of_mem d)
    by_cases hd : d = '.'
    · simp only [hd, BEq.rfl, if_true, List.mem_cons] at ht
      rcases ht with rfl | ht
      · exact absurd hc List.not_mem_nil
      · exact hlater t (List.mem_cons.2 ht) hc
    · simp only [beq_iff_eq, hd, if_false, List.modifyHead_cons, List.mem_cons] at ht
      rcases ht with rfl | ht
      · rcases List.mem_cons.1 hc with rfl | hc
        · exact ⟨List.mem_cons_self, hd⟩
        · exact hlater w List.mem_cons_self hc
      · exact hlater t (List.mem_cons_of_mem w ht) hc

theorem not_mem_of_mem_splitPoints (ht : t ∈ splitPoints cs) : '.' ∉ t :=
  fun hc => (mem_of_mem_splitPoints ht hc).2 rfl

theorem joinPoints_cons {ts : List (List Char)} (t : List Char) (h : ts ≠ []) :
    joinPoints (t :: ts) = t ++ '.' :: joinPoints ts := by
  rw [joinPoints, List.intercalate_cons_of_ne_nil h, List.append_assoc]
  rfl

theorem joinPoints_concat {ts : List (List Char)} (h : ts ≠ []) (t : List Char) :
    joinPoints (ts ++ [t]) = joinPoints ts ++ '.' :: t := by
  induction ts with
  | nil => exact absurd rfl h
  | cons s ts ih =>
    by_cases hts : ts = []
    · simp [hts, joinPoints]
    · rw [List.cons_append, joinPoints_cons s (by simp), ih hts, joinPoints_cons s hts]
      simp

/-! ## Letter case -/

theorem isAlpha_iff : c.isAlpha = true ↔
    (65 ≤ c.toNat ∧ c.toNat ≤ 90) ∨ 97 ≤ c.toNat ∧ c.toNat ≤ 122 := by
  have hdef : c.isAlpha = (decide (65 ≤ c.toNat ∧ c.toNat ≤ 90) ||
      (decide (97 ≤ c.toNat) && decide (c.toNat ≤ 122))) := rfl
  simp [hdef]

/-- A capital letter of ASCII becomes a small one, and every other character stays. -/
theorem toNat_toLower (c : Char) :
    c.toLower.toNat = if 65 ≤ c.toNat ∧ c.toNat ≤ 90 then c.toNat + 32 else c.toNat := by
  by_cases h : 65 ≤ c.toNat ∧ c.toNat ≤ 90
  · have hshift : c.toLower.toNat = (c.toNat + 32) % 2 ^ 32 := congrArg Char.toNat (dif_pos h)
    rw [if_pos h, hshift]
    omega
  · have hstay : c.toLower = c := dif_neg h
    rw [if_neg h, hstay]

/-- Only a letter is another character in lower case. -/
theorem toLower_eq_iff (hd : d.isAlpha = false) : c.toLower = d ↔ c = d := by
  rw [← Bool.not_eq_true, isAlpha_iff] at hd
  rw [← Char.toNat_inj, ← Char.toNat_inj, toNat_toLower]
  split <;> omega

theorem toLower_lt_iff : c.toLower.toNat < 128 ↔ c.toNat < 128 := by
  rw [toNat_toLower]
  split <;> omega

theorem map_toLower_toLower (cs : List Char) :
    (cs.map Char.toLower).map Char.toLower = cs.map Char.toLower := by
  rw [List.map_map]
  refine List.map_congr_left fun c _ => ?_
  rw [Function.comp_apply, ← Char.toNat_inj, toNat_toLower c.toLower]
  have hlower := toNat_toLower c
  split at hlower <;> rw [if_neg (by omega)]

/-- The letter case of a text does not move its points. -/
theorem splitPoints_toLower (cs : List Char) :
    splitPoints (cs.map Char.toLower) = (splitPoints cs).map (List.map Char.toLower) := by
  simp only [splitPoints_eq]
  induction cs with
  | nil => rfl
  | cons c cs ih =>
    have hpoint : (c.toLower == '.') = (c == '.') := by
      rw [Bool.eq_iff_iff, beq_iff_eq, beq_iff_eq, toLower_eq_iff rfl]
    rw [List.map_cons, List.splitOn_cons_eq_if_modifyHead, List.splitOn_cons_eq_if_modifyHead, ih,
      hpoint]
    obtain ⟨w, ws, hw⟩ := List.exists_cons_of_ne_nil (List.splitOn_ne_nil '.' cs)
    rw [hw]
    split <;> rfl

/-! ## The plain rules -/

theorem isLabelChar_iff {first : Bool} : isLabelChar first c = true ↔ c.isAlpha = true ∨
    (48 ≤ c.toNat ∧ c.toNat ≤ 57) ∨ c.toNat = 95 ∨ c.toNat = 46 ∨ (c.toNat = 45 ∧ first = false) ∨
    c.toNat = 42 ∧ first = true := by
  simp [isLabelChar, Char.isAlphanum, Char.isDigit_iff_toNat, ← Char.toNat_inj, or_assoc]

theorem isLabelChar_toLower (first : Bool) (c : Char) :
    isLabelChar first c.toLower = isLabelChar first c := by
  rw [Bool.eq_iff_iff]
  simp only [isLabelChar_iff, isAlpha_iff, toNat_toLower]
  split
  · omega
  · rfl

/-- **The plain rules do not see letter case.** -/
theorem hasLabelChars_toLower (cs : List Char) :
    hasLabelChars (cs.map Char.toLower) = hasLabelChars cs := by
  cases cs with
  | nil => rfl
  | cons c cs => simp [hasLabelChars, isLabelChar_toLower, List.all_map, Function.comp_def]

theorem isLabelChar_of_mem (h : hasLabelChars cs = true) (hc : c ∈ cs) :
    ∃ first, isLabelChar first c = true := by
  cases cs with
  | nil => exact absurd hc List.not_mem_nil
  | cons d cs =>
    obtain ⟨hd, hcs⟩ := Bool.and_eq_true_iff.1 h
    rcases List.mem_cons.1 hc with rfl | hc
    · exact ⟨true, hd⟩
    · exact ⟨false, List.all_eq_true.1 hcs c hc⟩

theorem asciiLabel?_eq_some :
    asciiLabel? t = some l ↔ (hasLabelChars t = true ∧ t.length ≤ maxLabelLength) ∧ t = l := by
  simp [asciiLabel?]

/-! ## Plain parts -/

/-- A text in ASCII without points that is no written form of other letters, in either letter
    case. -/
structure PlainPart (t : List Char) : Prop where
  ascii : ∀ c ∈ t, c.toNat < 128
  undivided : '.' ∉ t
  decoded : ¬ acePrefix <+: t.map Char.toLower

theorem PlainPart.lower (h : PlainPart t) : PlainPart (t.map Char.toLower) where
  ascii := by
    simp only [List.mem_map, forall_exists_index, and_imp, forall_apply_eq_imp_iff₂]
    exact fun c hc => toLower_lt_iff.2 (h.ascii c hc)
  undivided := by
    simp only [List.mem_map, toLower_eq_iff (show '.'.isAlpha = false from rfl), not_exists,
      not_and]
    rintro c hc rfl
    exact h.undivided hc
  decoded := by
    rw [map_toLower_toLower]
    exact h.decoded

theorem isPrefixOf_acePrefix_of_plain (h : PlainPart t) :
    acePrefix.isPrefixOf (t.map Char.toLower) = false := by
  rw [Bool.eq_false_iff, ne_eq, List.isPrefixOf_iff_prefix]
  exact h.decoded

theorem mapM_fold?_of_ascii (h : ∀ c ∈ cs, c.toNat < 128) :
    cs.mapM Text.fold? = some (cs.map fun c => [c.toLower]) := by
  induction cs with
  | nil => rfl
  | cons c cs ih =>
    obtain ⟨hc, hcs⟩ := List.forall_mem_cons.1 h
    have hfold : Text.fold? c = some [c.toLower] := if_pos hc
    rw [List.mapM_cons, hfold, ih hcs]
    rfl

/-- **Folding a plain part** changes its letter case, if it leaves a text at all. -/
theorem foldedParts?_of_plain (h : PlainPart t) {parts : List (List Char)}
    (hparts : foldedParts? t = some parts) : parts = [t.map Char.toLower] := by
  have hflat : (t.map fun c => [c.toLower]).flatten = t.map Char.toLower := by
    rw [← List.flatMap_def, ← List.map_eq_flatMap]
  have hcomposed : Text.composed (t.map Char.toLower) = t.map Char.toLower :=
    Text.composed_of_lt fun c hc => Nat.lt_trans (h.lower.ascii c hc) (by decide)
  have hdecode : decodePart? (t.map Char.toLower) = some (t.map Char.toLower) := by
    rw [decodePart?, isPrefixOf_acePrefix_of_plain h, if_neg Bool.false_ne_true]
  simp only [foldedParts?, mapM_fold?_of_ascii h.ascii, Option.bind_eq_bind, Option.bind_some,
    hflat, hcomposed, splitPoints_of_not_mem h.lower.undivided, List.mapM_cons, hdecode,
    List.mapM_nil, Option.pure_def] at hparts
  split at hparts
  · exact (Option.some.inj hparts).symm
  · cases hparts

theorem hostLabel?_of_plain (h : PlainPart t) (hl : hostLabel? t = some l) :
    l = t.map Char.toLower := by
  obtain ⟨parts, hparts, hl⟩ := Option.bind_eq_some_iff.1 hl
  obtain rfl := foldedParts?_of_plain h hparts
  have hencode : encodePart (t.map Char.toLower) = t.map Char.toLower := by
    rw [encodePart, if_pos (List.all_eq_true.2 fun c hc => decide_eq_true (h.lower.ascii c hc))]
  simp only [List.map_cons, List.map_nil, hencode] at hl
  split at hl
  · rw [← Option.some.inj hl, joinPoints, List.intercalate_singleton]
  · cases hl

/-- **The rules for names of hosts admit no more plain parts than the plain rules**, and make the
    same label up to letter case. -/
theorem asciiLabel?_of_unicodeLabel? (h : PlainPart t) (hl : unicodeLabel? t = some l) :
    asciiLabel? t = some t ∧ l.map Char.toLower = t.map Char.toLower := by
  unfold unicodeLabel? at hl
  split at hl
  · obtain ⟨hok, rfl⟩ := asciiLabel?_eq_some.1 hl
    exact ⟨hl, rfl⟩
  · obtain ⟨host, hhost, hl⟩ := Option.bind_eq_some_iff.1 hl
    obtain rfl := hostLabel?_of_plain h hhost
    obtain ⟨hok, rfl⟩ := asciiLabel?_eq_some.1 hl
    rw [hasLabelChars_toLower, List.length_map] at hok
    exact ⟨asciiLabel?_eq_some.2 ⟨hok, rfl⟩, map_toLower_toLower t⟩

/-! ## Showing -/

theorem escapedLabel_of_not_mem (h : '.' ∉ l) : escapedLabel l = l := by
  induction l with
  | nil => rfl
  | cons c l ih =>
    rw [List.mem_cons, not_or] at h
    have hl : l.flatMap (fun c => if c = '.' then ['\\', '.'] else [c]) = l := ih h.2
    rw [escapedLabel, List.flatMap_cons, hl, if_neg (Ne.symm h.1)]
    rfl

/-- A plain label in lower case is shown as it is. -/
theorem labelText_of_plain (h : PlainPart t) :
    labelText (t.map Char.toLower) = t.map Char.toLower := by
  rw [labelText, isPrefixOf_acePrefix_of_plain h, if_neg Bool.false_ne_true]
  exact escapedLabel_of_not_mem h.lower.undivided

end NearestHost.Dns
