/-
  Names in ASCII, read label by label.

  * `labelTexts`: the texts of the labels of a name.
  * `step?_of_ordinary`, `step?_point`: what one character does to a draft.
  * `draft?_parts`: what the parts of a text do to it, one after the other.
  * `read?_eq_some_iff`: so a text without escapes is read part by part.
  * `Plain`: a text in ASCII without escapes and without labels in written form.
  * `ofChars?_toLower`, `name_of_plain`: letter case does not change its name, which is
    shown as the text in lower case.
-/
import NearestHost.Dns.Name
import NearestHost.Proofs.Dns.CharacterString
import NearestHost.Proofs.Dns.Label
import Mathlib.Data.List.Forall2

namespace NearestHost.Dns.Name

-- Sums start from core's own zero.
attribute [local instance (high)] Zero.ofOfNat0

variable {label : Labelling} {c : Char} {cs t last : List Char} {front ts : List (List Char)}
  {ls ms : List Label} {d : Draft} {n : Name}

/-! ## Sizes -/

theorem size_append (ls ms : List Label) : size (ls ++ ms) = size ls + size ms := by
  simp only [size, List.map_append, List.sum_append, List.length_append]
  omega

theorem size_congr (h : ls.map List.length = ms.map List.length) : size ls = size ms := by
  have hlength := congrArg List.length h
  rw [List.length_map, List.length_map] at hlength
  rw [size, size, h, hlength]

/-! ## Characters -/

/-- What may stand in a text without an escape. -/
def Admitted (c : Char) : Prop := Text.isControl c = false ∧ Text.isBlank c = false

theorem admitted_of_isLabelChar {first : Bool} (h : isLabelChar first c = true) : Admitted c := by
  rw [isLabelChar_iff, isAlpha_iff] at h
  constructor
  · simp [Text.isControl]
    omega
  · simp [Text.isBlank, Text.inRanges, Text.blankRanges]
    omega

theorem step?_of_ordinary (hpoint : c ≠ '.') (hescape : c ≠ '\\') :
    Draft.step? label ⟨ls, t, .none⟩ c = some d ↔ Admitted c ∧ d = ⟨ls, t ++ [c], .none⟩ := by
  have hstep : Draft.step? label ⟨ls, t, .none⟩ c =
      if (Text.isControl c || Text.isBlank c) = true then none
      else some ⟨ls, t ++ [c], .none⟩ := by
    simp only [Draft.step?, if_neg hpoint, if_neg hescape, Draft.push]
  rw [hstep, Admitted]
  cases Text.isControl c <;> cases Text.isBlank c <;> simp [eq_comm]

theorem endLabel?_eq_some {e : Escape} : Draft.endLabel? label ⟨ls, t, e⟩ = some d ↔
    ∃ l, label t = some l ∧ size (ls ++ [l]) ≤ maxSize ∧ d = ⟨ls ++ [l], [], .none⟩ := by
  rw [Draft.endLabel?, Option.bind_eq_bind, Option.bind_eq_some_iff]
  refine exists_congr fun l => and_congr_right fun _ => ?_
  simp [eq_comm (a := d)]

theorem step?_point : Draft.step? label ⟨ls, t, .none⟩ '.' = some d ↔
    ∃ l, label t = some l ∧ size (ls ++ [l]) ≤ maxSize ∧ d = ⟨ls ++ [l], [], .none⟩ :=
  endLabel?_eq_some

/-! ## Parts -/

/-- A part without points and escapes is gathered character by character. -/
theorem draft?_part (hpoint : '.' ∉ t) (hescape : '\\' ∉ t) {start : List Char} :
    t.foldlM (Draft.step? label) ⟨ls, start, .none⟩ = some d ↔
      (∀ c ∈ t, Admitted c) ∧ d = ⟨ls, start ++ t, .none⟩ := by
  induction t generalizing start with
  | nil => simp [eq_comm (a := d)]
  | cons c t ih =>
    rw [List.mem_cons, not_or] at hpoint hescape
    rw [List.foldlM_cons, Option.bind_eq_bind, Option.bind_eq_some_iff, List.forall_mem_cons]
    constructor
    · rintro ⟨d', hd', hd⟩
      obtain ⟨hc, rfl⟩ := (step?_of_ordinary (Ne.symm hpoint.1) (Ne.symm hescape.1)).1 hd'
      obtain ⟨ht, rfl⟩ := (ih hpoint.2 hescape.2).1 hd
      exact ⟨⟨hc, ht⟩, by simp⟩
    · rintro ⟨⟨hc, ht⟩, rfl⟩
      refine ⟨_, (step?_of_ordinary (Ne.symm hpoint.1) (Ne.symm hescape.1)).2 ⟨hc, rfl⟩, ?_⟩
      exact (ih hpoint.2 hescape.2).2 ⟨ht, by simp⟩

/-- The text of a label, and the label that it makes. -/
def Labels (label : Labelling) (t : List Char) (l : Label) : Prop :=
  (∀ c ∈ t, Admitted c) ∧ label t = some l

/-- **The parts of a text make labels**, one after the other, up to the last part, which stays
    open. -/
theorem draft?_parts (hpoint : ∀ t ∈ front ++ [last], '.' ∉ t)
    (hescape : ∀ t ∈ front ++ [last], '\\' ∉ t) (hsize : size ls ≤ maxSize) :
    (joinPoints (front ++ [last])).foldlM (Draft.step? label) ⟨ls, [], .none⟩ = some d ↔
      (∀ c ∈ last, Admitted c) ∧ ∃ new, List.Forall₂ (Labels label) front new ∧
        size (ls ++ new) ≤ maxSize ∧ d = ⟨ls ++ new, last, .none⟩ := by
  induction front generalizing ls with
  | nil =>
    have hpoint := hpoint last (by simp)
    have hescape := hescape last (by simp)
    simp [joinPoints, draft?_part hpoint hescape, hsize]
  | cons t front ih =>
    obtain ⟨hpoint, hpoints⟩ := List.forall_mem_cons.1 hpoint
    obtain ⟨hescape, hescapes⟩ := List.forall_mem_cons.1 hescape
    rw [List.cons_append, joinPoints_cons t (by simp), List.foldlM_append, Option.bind_eq_bind,
      Option.bind_eq_some_iff]
    simp only [draft?_part hpoint hescape, List.nil_append, List.foldlM_cons, Option.bind_eq_bind,
      Option.bind_eq_some_iff, List.forall₂_cons_left_iff]
    constructor
    · rintro ⟨-, ⟨ht, rfl⟩, d', hd', hd⟩
      obtain ⟨l, hl, hfits, rfl⟩ := step?_point.1 hd'
      obtain ⟨hlast, new, hnew, hall, rfl⟩ := (ih hpoints hescapes hfits).1 hd
      rw [List.append_assoc, List.singleton_append] at hall ⊢
      exact ⟨hlast, l :: new, ⟨l, new, ⟨ht, hl⟩, hnew, rfl⟩, hall, rfl⟩
    · rintro ⟨hlast, -, ⟨l, new, ⟨ht, hl⟩, hnew, rfl⟩, hall, rfl⟩
      -- Labels in front of others are no larger than all of them.
      have hfits : size (ls ++ [l]) ≤ maxSize := by
        rw [← List.singleton_append, ← List.append_assoc, size_append] at hall
        omega
      refine ⟨_, ⟨ht, rfl⟩, _, step?_point.2 ⟨l, hl, hfits, rfl⟩, ?_⟩
      refine (ih hpoints hescapes hfits).2 ⟨hlast, new, hnew, ?_, ?_⟩
      all_goals rw [List.append_assoc, List.singleton_append]
      exact hall

/-! ## Whole texts -/

/-- The texts of the labels of a name: its parts, but for an empty one at the end. -/
def labelTexts (cs : List Char) : List (List Char) :=
  if (splitPoints cs).getLast? = some [] then (splitPoints cs).dropLast else splitPoints cs

theorem exists_split (cs : List Char) : ∃ front last, splitPoints cs = front ++ [last] :=
  ⟨_, _, (List.dropLast_append_getLast (splitPoints_ne_nil cs)).symm⟩

theorem labelTexts_of_split (h : splitPoints cs = front ++ [last]) :
    labelTexts cs = if last = [] then front else front ++ [last] := by
  simp [labelTexts, h]

theorem mem_of_mem_labelTexts (ht : t ∈ labelTexts cs) : t ∈ splitPoints cs := by
  unfold labelTexts at ht
  split at ht
  · exact List.dropLast_subset _ ht
  · exact ht

/-- The texts of the labels and the point at the end are the whole text. -/
theorem joinPoints_labelTexts (cs : List Char) :
    joinPoints (labelTexts cs) ++ (if cs.getLast? = some '.' then ['.'] else []) = cs := by
  obtain ⟨front, last, hsplit⟩ := exists_split cs
  have hjoin := joinPoints_splitPoints cs
  have hmem : last ∈ splitPoints cs := by simp [hsplit]
  have hlast : '.' ∉ last := not_mem_of_mem_splitPoints hmem
  rw [labelTexts_of_split hsplit]
  rw [hsplit] at hjoin
  by_cases hfront : front = []
  · rw [hfront, List.nil_append, joinPoints, List.intercalate_singleton] at hjoin
    have hend : last.getLast? ≠ some '.' := fun h => hlast (List.mem_of_getLast? h)
    subst hjoin
    by_cases hempty : last = [] <;> simp [hfront, hempty, hend, joinPoints]
  · rw [joinPoints_concat hfront] at hjoin
    by_cases hempty : last = []
    · rw [hempty] at hjoin
      simp [← hjoin, hempty]
    · have hend : cs.getLast? = last.getLast? := by
        obtain ⟨c, hc⟩ := Option.isSome_iff_exists.1 (List.getLast?_isSome.2 hempty)
        simp [← hjoin, List.getLast?_cons, hc]
      have hc : last.getLast? ≠ some '.' := fun h => hlast (List.mem_of_getLast? h)
      rw [if_neg hempty, hend, if_neg hc, List.append_nil, joinPoints_concat hfront, hjoin]

theorem read?_iff : read? label cs = some n ↔ ∃ d, draft? label cs = some d ∧
    (d.current = [] ∧ n = ⟨d.labels, cs.getLast? = some '.'⟩ ∨
      d.current ≠ [] ∧ ∃ l, label d.current = some l ∧ size (d.labels ++ [l]) ≤ maxSize ∧
        n = ⟨d.labels ++ [l], cs.getLast? = some '.'⟩) := by
  rw [read?, Option.bind_eq_bind, Option.bind_eq_some_iff]
  refine exists_congr fun d => and_congr_right fun _ => ?_
  dsimp only
  by_cases hempty : d.current = []
  · simp [hempty, eq_comm (a := n)]
  · rw [if_neg hempty, Option.bind_eq_some_iff]
    simp only [hempty, false_and, false_or, ne_eq, not_false_eq_true, true_and]
    constructor
    · rintro ⟨d', hd', hn⟩
      obtain ⟨l, hl, hfits, rfl⟩ := endLabel?_eq_some.1 hd'
      exact ⟨l, hl, hfits, (Option.some.inj hn).symm⟩
    · rintro ⟨l, hl, hfits, rfl⟩
      exact ⟨_, endLabel?_eq_some.2 ⟨l, hl, hfits, rfl⟩, rfl⟩

theorem forall₂_concat_left {α β : Type} {R : α → β → Prop} {xs : List α} {x : α} {ys : List β} :
    List.Forall₂ R (xs ++ [x]) ys ↔
      ∃ zs y, List.Forall₂ R xs zs ∧ R x y ∧ ys = zs ++ [y] := by
  constructor
  · intro h
    have hfront := (List.forall₂_take_append ys xs [x] h.flip).flip
    have hlast := (List.forall₂_drop_append ys xs [x] h.flip).flip
    obtain ⟨y, vs, hy, hvs, hdrop⟩ := List.forall₂_cons_left_iff.1 hlast
    obtain rfl := List.forall₂_nil_left_iff.1 hvs
    refine ⟨_, y, hfront, hy, ?_⟩
    rw [← hdrop, List.take_append_drop]
  · rintro ⟨zs, y, hzs, hy, rfl⟩
    exact List.rel_append hzs (.cons hy .nil)

/-- **A text without escapes is read part by part.** -/
theorem read?_eq_some_iff (hescape : '\\' ∉ cs) : read? label cs = some n ↔
    ∃ ls, List.Forall₂ (Labels label) (labelTexts cs) ls ∧ size ls ≤ maxSize ∧
      n = ⟨ls, cs.getLast? = some '.'⟩ := by
  obtain ⟨front, last, hsplit⟩ := exists_split cs
  have hdraft (d : Draft) : draft? label cs = some d ↔
      (∀ c ∈ last, Admitted c) ∧ ∃ new, List.Forall₂ (Labels label) front new ∧
        size new ≤ maxSize ∧ d = ⟨new, last, .none⟩ := by
    have hpoints : ∀ t ∈ front ++ [last], '.' ∉ t :=
      fun t ht => not_mem_of_mem_splitPoints (hsplit ▸ ht)
    have hescapes : ∀ t ∈ front ++ [last], '\\' ∉ t :=
      fun t ht hc => hescape (mem_of_mem_splitPoints (hsplit ▸ ht) hc).1
    have hnone : size [] ≤ maxSize := by decide
    rw [draft?, ← joinPoints_splitPoints cs, hsplit]
    exact draft?_parts hpoints hescapes hnone
  rw [read?_iff, labelTexts_of_split hsplit]
  by_cases hempty : last = []
  · rw [if_pos hempty]
    constructor
    · rintro ⟨d, hd, hn⟩
      obtain ⟨-, new, hnew, hfits, rfl⟩ := (hdraft d).1 hd
      obtain ⟨-, rfl⟩ := hn.resolve_right fun h => h.1 hempty
      exact ⟨new, hnew, hfits, rfl⟩
    · rintro ⟨new, hnew, hfits, rfl⟩
      refine ⟨_, (hdraft _).2 ⟨?_, new, hnew, hfits, rfl⟩, Or.inl ⟨hempty, rfl⟩⟩
      simp [hempty]
  · rw [if_neg hempty]
    constructor
    · rintro ⟨d, hd, hn⟩
      obtain ⟨hlast, new, hnew, -, rfl⟩ := (hdraft d).1 hd
      obtain ⟨-, l, hl, hfits, rfl⟩ := hn.resolve_left fun h => hempty h.1
      exact ⟨new ++ [l], forall₂_concat_left.2 ⟨new, l, hnew, ⟨hlast, hl⟩, rfl⟩, hfits, rfl⟩
    · rintro ⟨ls, hls, hfits, rfl⟩
      obtain ⟨new, l, hnew, ⟨hlast, hl⟩, rfl⟩ := forall₂_concat_left.1 hls
      have hfront : size new ≤ maxSize := by
        rw [size_append] at hfits
        omega
      exact ⟨_, (hdraft _).2 ⟨hlast, new, hnew, hfront, rfl⟩,
        Or.inr ⟨hempty, l, hl, hfits, rfl⟩⟩

/-! ## The plain rules -/

/-- The texts of labels that the plain rules admit in one name. -/
def Allowed (ts : List (List Char)) : Prop :=
  (∀ t ∈ ts, hasLabelChars t = true ∧ t.length ≤ maxLabelLength) ∧ size ts ≤ maxSize

instance (ts : List (List Char)) : Decidable (Allowed ts) := inferInstanceAs (Decidable (_ ∧ _))

theorem labels_asciiLabel? {l : Label} : Labels asciiLabel? t l ↔
    (hasLabelChars t = true ∧ t.length ≤ maxLabelLength) ∧ l = t := by
  rw [Labels, asciiLabel?_eq_some, eq_comm (a := t)]
  refine ⟨fun h => h.2, fun h => ⟨fun c hc => ?_, h⟩⟩
  obtain ⟨first, hfirst⟩ := isLabelChar_of_mem h.1.1 hc
  exact admitted_of_isLabelChar hfirst

theorem forall₂_labels_asciiLabel? : List.Forall₂ (Labels asciiLabel?) ts ls ↔
    (∀ t ∈ ts, hasLabelChars t = true ∧ t.length ≤ maxLabelLength) ∧ ls = ts := by
  induction ts generalizing ls with
  | nil => simp
  | cons t ts ih =>
    simp only [List.forall₂_cons_left_iff, labels_asciiLabel?, ih, List.forall_mem_cons]
    constructor
    · rintro ⟨l, ls, ⟨ht, rfl⟩, ⟨hts, rfl⟩, rfl⟩
      exact ⟨⟨ht, hts⟩, rfl⟩
    · rintro ⟨⟨ht, hts⟩, rfl⟩
      exact ⟨t, ts, ⟨ht, rfl⟩, ⟨hts, rfl⟩, rfl⟩

/-- **By the plain rules** a text without escapes has the name of its parts, if they are allowed. -/
theorem read?_asciiLabel? (hescape : '\\' ∉ cs) : read? asciiLabel? cs =
    if Allowed (labelTexts cs) then some ⟨labelTexts cs, cs.getLast? = some '.'⟩ else none := by
  refine Option.ext fun n => ?_
  rw [read?_eq_some_iff hescape]
  simp only [forall₂_labels_asciiLabel?]
  constructor
  · rintro ⟨ls, ⟨hall, rfl⟩, hsize, rfl⟩
    rw [if_pos ⟨hall, hsize⟩]
  · intro h
    split at h
    · rename_i hallowed
      exact ⟨_, ⟨hallowed.1, rfl⟩, hallowed.2, (Option.some.inj h).symm⟩
    · cases h

/-! ## Plain texts -/

/-- A text in ASCII without escapes, none of whose labels is the written form of other letters, in
    either letter case. -/
structure Plain (cs : List Char) : Prop where
  ascii : ∀ c ∈ cs, c.toNat < 128
  unescaped : '\\' ∉ cs
  decoded : ∀ t ∈ splitPoints cs, ¬ acePrefix <+: t.map Char.toLower

/-- Being plain does not depend on letter case. -/
theorem plain_toLower : Plain (cs.map Char.toLower) ↔ Plain cs := by
  have hascii : (∀ c ∈ cs.map Char.toLower, c.toNat < 128) ↔ ∀ c ∈ cs, c.toNat < 128 := by
    simp [toLower_lt_iff]
  have hescape : '\\' ∉ cs.map Char.toLower ↔ '\\' ∉ cs := by
    simp [toLower_eq_iff (show '\\'.isAlpha = false from rfl)]
  have hdecode : (∀ t ∈ splitPoints (cs.map Char.toLower), ¬ acePrefix <+: t.map Char.toLower) ↔
      ∀ t ∈ splitPoints cs, ¬ acePrefix <+: t.map Char.toLower := by
    simp only [splitPoints_toLower, List.forall_mem_map, map_toLower_toLower]
  exact ⟨fun h => ⟨hascii.1 h.ascii, hescape.1 h.unescaped, hdecode.1 h.decoded⟩,
    fun h => ⟨hascii.2 h.ascii, hescape.2 h.unescaped, hdecode.2 h.decoded⟩⟩

theorem Plain.part (h : Plain cs) (ht : t ∈ labelTexts cs) : PlainPart t where
  ascii c hc := h.ascii c (mem_of_mem_splitPoints (mem_of_mem_labelTexts ht) hc).1
  undivided := not_mem_of_mem_splitPoints (mem_of_mem_labelTexts ht)
  decoded := h.decoded t (mem_of_mem_labelTexts ht)

/-- What the rules for names of hosts make of plain parts. -/
theorem forall₂_labels_unicodeLabel? (hplain : ∀ t ∈ ts, PlainPart t)
    (h : List.Forall₂ (Labels unicodeLabel?) ts ls) :
    List.Forall₂ (Labels asciiLabel?) ts ts ∧
      ls.map (List.map Char.toLower) = ts.map (List.map Char.toLower) := by
  induction h with
  | nil => exact ⟨.nil, rfl⟩
  | cons hl _ ih =>
    obtain ⟨ht, hts⟩ := List.forall_mem_cons.1 hplain
    obtain ⟨hascii, hlower⟩ := asciiLabel?_of_unicodeLabel? ht hl.2
    obtain ⟨hall, hlowers⟩ := ih hts
    exact ⟨.cons ⟨hl.1, hascii⟩ hall, by rw [List.map_cons, hlower, hlowers, List.map_cons]⟩

/-- **A plain text has its name by the plain rules**, the root apart. -/
theorem ofChars?_of_plain (h : Plain cs) (hroot : cs ≠ ['.']) :
    ofChars? cs = (read? asciiLabel? cs).map lower := by
  rw [ofChars?, if_neg hroot]
  cases hu : read? unicodeLabel? cs with
  | none => rw [Option.none_or]
  | some n =>
    obtain ⟨ls, hls, hsize, rfl⟩ := (read?_eq_some_iff h.unescaped).1 hu
    obtain ⟨hall, hlower⟩ := forall₂_labels_unicodeLabel? (fun t => h.part) hls
    have hlengths : (labelTexts cs).map List.length = ls.map List.length := by
      have := congrArg (List.map List.length) hlower
      simpa [Function.comp_def] using this.symm
    have hascii : read? asciiLabel? cs = some ⟨labelTexts cs, cs.getLast? = some '.'⟩ :=
      (read?_eq_some_iff h.unescaped).2 ⟨_, hall, size_congr hlengths ▸ hsize, rfl⟩
    rw [hascii, Option.some_or, Option.map_some, Option.map_some, lower, lower, hlower]

/-! ## Letter case -/

theorem labelTexts_toLower (cs : List Char) :
    labelTexts (cs.map Char.toLower) = (labelTexts cs).map (List.map Char.toLower) := by
  obtain ⟨front, last, hsplit⟩ := exists_split cs
  have hlower : splitPoints (cs.map Char.toLower) =
      front.map (List.map Char.toLower) ++ [last.map Char.toLower] := by
    rw [splitPoints_toLower, hsplit]
    simp
  rw [labelTexts_of_split hlower, labelTexts_of_split hsplit]
  by_cases hempty : last = [] <;> simp [hempty]

theorem allowed_toLower : Allowed (ts.map (List.map Char.toLower)) ↔ Allowed ts := by
  have hsize : size (ts.map (List.map Char.toLower)) = size ts := size_congr (by simp)
  simp [Allowed, hasLabelChars_toLower, hsize]

theorem getLast?_toLower : (cs.map Char.toLower).getLast? = some '.' ↔ cs.getLast? = some '.' := by
  rw [List.getLast?_map]
  simp [toLower_eq_iff (show '.'.isAlpha = false from rfl)]

theorem lower_lower (n : Name) : n.lower.lower = n.lower := by
  have htwice : List.map Char.toLower ∘ List.map Char.toLower = List.map Char.toLower :=
    funext map_toLower_toLower
  simp only [lower, List.map_map, htwice]

/-- **Letter case does not change the name of a plain text.** -/
theorem ofChars?_toLower (h : Plain cs) : ofChars? (cs.map Char.toLower) = ofChars? cs := by
  by_cases hroot : cs = ['.']
  · rw [hroot]
    rfl
  · have hroot' : cs.map Char.toLower ≠ ['.'] := by
      simpa [List.map_eq_cons_iff, toLower_eq_iff (show '.'.isAlpha = false from rfl)] using hroot
    have hlower := plain_toLower.2 h
    have hread : read? asciiLabel? (cs.map Char.toLower) = (read? asciiLabel? cs).map lower := by
      simp only [read?_asciiLabel? hlower.unescaped, read?_asciiLabel? h.unescaped,
        labelTexts_toLower, allowed_toLower, getLast?_toLower]
      split <;> rfl
    rw [ofChars?_of_plain h hroot, ofChars?_of_plain hlower hroot', hread, Option.map_map]
    simp [Function.comp_def, lower_lower]

/-! ## Showing -/

/-- A character of ASCII is one byte. -/
theorem byteSize_of_ascii (h : ∀ c ∈ cs, c.toNat < 128) : byteSize cs = cs.length := by
  induction cs with
  | nil => rfl
  | cons c cs ih =>
    obtain ⟨hc, hcs⟩ := List.forall_mem_cons.1 h
    have hone : c.utf8Size = 1 := by
      rw [Char.utf8Size_eq_one_iff, UInt32.le_iff_toNat_le]
      exact Nat.le_of_lt_succ hc
    rw [byteSize_cons, hone, ih hcs, List.length_cons, Nat.add_comm]

/-- **The name of a plain text is shown as the text in lower case**, and its labels have one byte up
    to 63. -/
theorem name_of_plain (h : Plain cs) (hn : ofChars? cs = some n) :
    n.chars = cs.map Char.toLower ∧ n.qualified = decide (cs.getLast? = some '.') ∧
      ∀ l ∈ n.labels, 1 ≤ byteSize l ∧ byteSize l ≤ maxLabelLength := by
  by_cases hroot : cs = ['.']
  · subst hroot
    obtain rfl : root = n := Option.some.inj hn
    exact ⟨rfl, rfl, List.forall_mem_nil _⟩
  · rw [ofChars?_of_plain h hroot, read?_asciiLabel? h.unescaped] at hn
    split at hn
    · rename_i hallowed
      obtain rfl := Option.some.inj hn
      refine ⟨?_, rfl, ?_⟩
      · have htexts : ((labelTexts cs).map (List.map Char.toLower)).map labelText =
            labelTexts (cs.map Char.toLower) := by
          rw [labelTexts_toLower, List.map_map]
          exact List.map_congr_left fun t ht => labelText_of_plain (h.part ht)
        have hwhole := joinPoints_labelTexts (cs.map Char.toLower)
        simp only [getLast?_toLower] at hwhole
        simpa [chars, lower, htexts] using hwhole
      · intro l hl
        obtain ⟨t, ht, rfl⟩ := List.mem_map.1 hl
        obtain ⟨hchars, hlength⟩ := hallowed.1 t ht
        rw [byteSize_of_ascii (h.part ht).lower.ascii, List.length_map]
        refine ⟨List.length_pos_iff.2 ?_, hlength⟩
        rintro rfl
        cases hchars
    · cases hn

/-! ## Strings -/

variable {x x' : String}

theorem toList_toLower (x : String) : x.toLower.toList = x.toList.map Char.toLower :=
  String.toList_map

theorem toLower_toLower (x : String) : x.toLower.toLower = x.toLower := by
  rw [← String.toList_inj, toList_toLower, toList_toLower, map_toLower_toLower]

theorem ofString?_of_sameLower (hx : Plain x.toList) (h : x'.toLower = x.toLower) :
    ofString? x' = ofString? x := by
  have hlower := congrArg String.toList h
  rw [toList_toLower, toList_toLower] at hlower
  have hx' : Plain x'.toList := by
    rw [← plain_toLower, hlower]
    exact plain_toLower.2 hx
  rw [ofString?, ofString?, ← ofChars?_toLower hx', hlower, ofChars?_toLower hx]

theorem toString_of_plain (hx : Plain x.toList) (hn : ofString? x = some n) :
    n.toString = x.toLower := by
  rw [toString, (name_of_plain hx hn).1, ← toList_toLower, String.ofList_toList]

end NearestHost.Dns.Name
