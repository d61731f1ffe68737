/-
  Bytes that are read are lexemes.

  * `number_of_outcome`, `word_of_outcome`, `quoted_of_quoting`: how a token that
    has been started goes on.
  * `StartsLexeme`: where no white space is taken, there is a lexeme.
  * `lexemes_of_outcome`: bytes that a reader takes to the end are lexemes.
-/
import NearestHost.Proofs.Json.Lexeme

namespace NearestHost.Json

variable {σ : Type} {b : Builder σ}

namespace Reader

variable {r r' : Reader σ} {c : UInt8} {bs cs : List UInt8} {s : σ}

/-! ## The bytes of single tokens -/

theorem outcome_cons_ok (h : r.outcome b (c :: bs) = .ok s) :
    ∃ r', r.step b c = .ok r' ∧ r'.outcome b bs = .ok s := by
  rw [outcome_cons] at h
  obtain ⟨r', hr', h⟩ := bind_eq_ok.1 h
  exact ⟨r', categorized_eq_ok.1 hr', h⟩

theorem complete_of_ended {p : Part} (h : p.next c = .ended) : p.isComplete = true := by
  cases p with
  | zero | whole | fraction | exponent => rfl
  | sign | point | mark | markSign => simp only [Part.next] at h; split_ifs at h

theorem number_of_outcome {p : Part} {x : Option Tally}
    (h : { r with token := .number p x }.outcome b bs = .ok s) :
    ∃ ds q rest, bs = ds ++ rest ∧ p.through ds = some q ∧ q.isComplete = true ∧ q.Stops rest := by
  induction bs generalizing p x with
  | nil =>
    rw [outcome_nil] at h
    unfold finish at h
    dsimp only at h
    split_ifs at h with hp
    exact ⟨[], p, [], rfl, rfl, hp, nofun⟩
  | cons c cs ih =>
    obtain ⟨r', hr', h⟩ := outcome_cons_ok h
    change stepNumber b _ p x c = .ok r' at hr'
    unfold stepNumber at hr'
    cases hp : p.next c with
    | refused => rw [hp] at hr'; cases hr'
    | ended =>
      refine ⟨[], p, c :: cs, rfl, rfl, complete_of_ended hp, ?_⟩
      rintro d hd
      obtain rfl := Option.some.inj hd
      exact hp
    | part p' =>
      -- The rest of the bytes are those of the rest of the number, gathered or not.
      have hrest (x' : Option Tally)
          (hx : r' = { r with token := .number p' x' }) : ∃ ds q rest, c :: cs = ds ++ rest ∧
            p.through ds = some q ∧ q.isComplete = true ∧ q.Stops rest := by
        obtain ⟨ds, q, rest, rfl, hds, hq, hstop⟩ := ih (hx ▸ h)
        exact ⟨c :: ds, q, rest, rfl, by rw [Part.through, hp]; exact hds, hq, hstop⟩
      rw [hp] at hr'
      cases x with
      | none => cases hr'; exact hrest none rfl
      | some t =>
        dsimp only at hr'
        cases ht : t.add? p' c with
        | none => rw [ht] at hr'; cases hr'
        | some t' => rw [ht] at hr'; cases hr'; exact hrest (some t') rfl

theorem word_of_outcome {w : Word} {kept : Bool} {rest : List UInt8}
    (h : { r with token := .word rest w kept }.outcome b bs = .ok s) :
    ∃ bs', bs = rest ++ bs' := by
  induction rest generalizing bs with
  | nil => exact ⟨bs, rfl⟩
  | cons d rest ih =>
    cases bs with
    | nil => cases h
    | cons c cs =>
      obtain ⟨r', hr', h⟩ := outcome_cons_ok h
      change stepWord b _ (d :: rest) w kept c = .ok r' at hr'
      unfold stepWord at hr'
      dsimp only at hr'
      by_cases hc : c = d
      · subst hc
        by_cases hrest : rest = []
        · subst hrest; exact ⟨cs, rfl⟩
        · rw [if_neg (not_not_intro rfl), if_pos hrest] at hr'
          cases hr'
          obtain ⟨bs', rfl⟩ := ih h
          exact ⟨bs', rfl⟩
      · rw [if_pos hc] at hr'; cases hr'

variable {isKey : Bool} {escape : Escape} {g : Option Gathered}

theorem quoting_cons_ok (h : (r.quoting isKey escape g).outcome b (c :: cs) = .ok s) :
    ∃ escape' p, escape.step? c = some (escape', p) ∧
      (p = .close ∨ ∃ g', (r.quoting isKey escape' g').outcome b cs = .ok s) := by
  obtain ⟨r', hr', h⟩ := outcome_cons_ok h
  cases hstep : escape.step? c with
  | none =>
    change stepQuoted b _ isKey escape g c = .ok r' at hr'
    unfold stepQuoted at hr'
    rw [hstep] at hr'
    cases hr'
  | some next =>
    obtain ⟨escape', p⟩ := next
    refine ⟨escape', p, rfl, ?_⟩
    by_cases hp : p = .close
    · exact Or.inl hp
    · rw [step_quoting hstep hp] at hr'
      obtain ⟨g', -, rfl⟩ := map_eq_ok.1 hr'
      exact Or.inr ⟨g', h⟩

theorem unit_of_quoting (h : (r.quoting isKey (.digits 4 (some 0)) g).outcome b bs = .ok s) :
    ∃ x y z w u rest g', bs = x :: y :: z :: w :: rest ∧ codeUnit? x y z w = some u ∧
      (r.quoting isKey .none g').outcome b rest = .ok s := by
  match bs with
  | [] => cases h
  | [_] => rw [outcome_nothing rfl] at h; cases h
  | [_, _] => rw [outcome_nothing rfl, outcome_nothing rfl] at h; cases h
  | [_, _, _] => rw [outcome_nothing rfl, outcome_nothing rfl, outcome_nothing rfl] at h; cases h
  | x :: y :: z :: w :: rest =>
    rw [outcome_nothing rfl, outcome_nothing rfl, outcome_nothing rfl] at h
    obtain ⟨escape', p, hstep, hrest⟩ := quoting_cons_ok h
    obtain ⟨u, hu, hpair⟩ := Option.map_eq_some_iff.1 hstep
    cases hpair
    obtain ⟨g', hg'⟩ := hrest.resolve_left nofun
    refine ⟨x, y, z, w, u, rest, g', rfl, ?_, hg'⟩
    simp only [Option.bind_some, Option.bind_eq_some_iff, Option.map_eq_some_iff] at hu
    obtain ⟨_, ⟨_, ⟨_, ⟨x', hx, rfl⟩, y', hy, rfl⟩, z', hz, rfl⟩, w', hw, rfl⟩ := hu
    simp [codeUnit?, hx, hy, hz, hw]

/-- What is read between quotes starts with a fragment, or with the closing quote. -/
theorem fragment_of_quoting (h : (r.quoting isKey .none g).outcome b bs = .ok s) :
    (∃ rest, bs = byteOf '"' :: rest) ∨
      ∃ (f : Fragment) (rest : List UInt8) (g' : Option Gathered), bs = f.bytes ++ rest ∧
        (r.quoting isKey .none g').outcome b rest = .ok s := by
  cases bs with
  | nil => cases h
  | cons c cs =>
    by_cases hquote : c = byteOf '"'
    · exact Or.inl ⟨cs, by rw [hquote]⟩
    right
    by_cases hslash : c = byteOf '\\'
    · subst hslash
      rw [outcome_nothing rfl] at h
      cases cs with
      | nil => cases h
      | cons letter cs =>
        by_cases hu : letter = byteOf 'u'
        · subst hu
          rw [outcome_nothing rfl] at h
          obtain ⟨x, y, z, w, u, rest, g', rfl, hunit, hg'⟩ := unit_of_quoting h
          exact ⟨.unit x y z w u hunit, rest, g', rfl, hg'⟩
        · obtain ⟨escape', p, hstep, hrest⟩ := quoting_cons_ok h
          simp only [Escape.step?, if_neg hu, Option.map_eq_some_iff] at hstep
          obtain ⟨d, hd, hpair⟩ := hstep
          cases hpair
          obtain ⟨g', hg'⟩ := hrest.resolve_left (by simp)
          exact ⟨.escape letter d hd, cs, g', rfl, hg'⟩
    · obtain ⟨escape', p, hstep, hrest⟩ := quoting_cons_ok h
      simp only [Escape.step?, if_neg hquote, if_neg hslash] at hstep
      split_ifs at hstep with hcontrol
      cases hstep
      obtain ⟨g', hg'⟩ := hrest.resolve_left (by simp)
      exact ⟨.byte c ⟨hquote, hslash, hcontrol⟩, cs, g', rfl, hg'⟩

theorem Fragment.bytes_length_pos (f : Fragment) : 0 < f.bytes.length := by
  cases f <;> exact Nat.zero_lt_succ _

theorem quoted_of_quoting {bs : List UInt8} {g : Option Gathered}
    (h : (r.quoting isKey .none g).outcome b bs = .ok s) :
    ∃ (q : Quoted) (rest : List UInt8), bs = q.inner ++ byteOf '"' :: rest := by
  rcases fragment_of_quoting h with ⟨rest, rfl⟩ | ⟨f, rest, g', rfl, hrest⟩
  · exact ⟨[], rest, rfl⟩
  · obtain ⟨q, rest', rfl⟩ := quoted_of_quoting hrest
    exact ⟨f :: q, rest', by simp [Quoted.inner]⟩
termination_by bs.length
decreasing_by
  subst_vars
  have hpos := Fragment.bytes_length_pos f
  simp only [List.length_append]
  omega

/-! ## Lexemes -/

theorem startValue_ok (h : r.startValue b c = .ok r') : c = byteOf '[' ∨ c = byteOf '\x7b' ∨
    (c = byteOf '"' ∧ ∃ g, r' = r.quoting false .none g) ∨
      (∃ w kept, c = Word.head w ∧ r' = { r with token := .word w.tail w kept }) ∨
        ∃ p x, Part.start? c = some p ∧ r' = { r with token := .number p x } := by
  unfold startValue at h
  dsimp only at h
  split_ifs at h with hquote harray hobject
  · cases h; exact Or.inr (Or.inr (Or.inl ⟨hquote, _, rfl⟩))
  · exact Or.inl harray
  · exact Or.inr (Or.inl hobject)
  · split at h
    · rename_i w hw
      cases h
      exact Or.inr (Or.inr (Or.inr (Or.inl ⟨w, _, Word.start_eq_some hw, rfl⟩)))
    · rename_i p _ hp
      cases h
      exact Or.inr (Or.inr (Or.inr (Or.inr ⟨p, _, hp, rfl⟩)))
    · cases h

/-- Bytes that start with a lexeme, and go on where it stops. -/
def StartsLexeme (bs : List UInt8) : Prop :=
  ∃ (l : Lexeme) (rest : List UInt8), bs = l.bytes ++ rest ∧ l.Stops rest

theorem startsLexeme_sign (s : Sign) (cs : List UInt8) : StartsLexeme (s.byte :: cs) :=
  ⟨.sign s, cs, rfl, trivial⟩

theorem startsLexeme_text {g : Option Gathered}
    (h : (r.quoting isKey .none g).outcome b cs = .ok s) : StartsLexeme (byteOf '"' :: cs) := by
  obtain ⟨q, rest, rfl⟩ := quoted_of_quoting h
  exact ⟨.scalar (.text q), rest, by simp [Lexeme.bytes, Scalar.bytes, Quoted.bytes], trivial⟩

theorem startsLexeme_value (hstep : r.startValue b c = .ok r') (h : r'.outcome b cs = .ok s) :
    StartsLexeme (c :: cs) := by
  rcases startValue_ok hstep with rfl | rfl | ⟨rfl, g, rfl⟩ | ⟨w, kept, rfl, rfl⟩ | ⟨p, x, hp, rfl⟩
  · exact startsLexeme_sign .openArray cs
  · exact startsLexeme_sign .openObject cs
  · exact startsLexeme_text h
  · obtain ⟨rest, rfl⟩ := word_of_outcome h
    exact ⟨.scalar (.word w), rest, rfl, trivial⟩
  · obtain ⟨ds, q, rest, rfl, hds, hq, hstop⟩ := number_of_outcome h
    have hof : Part.of? (c :: ds) = some q := by rw [Part.of?, hp]; exact hds
    obtain ⟨n, hn⟩ := numeral_iff.2 ⟨q, hof, hq⟩
    refine ⟨.scalar (.number n), rest, by simp [Lexeme.bytes, Scalar.bytes, hn], ?_⟩
    rintro q' hq'
    rw [hn, hof] at hq'
    cases hq'
    exact hstop

/-- Where no white space is taken, there is a lexeme. -/
theorem startsLexeme_of_step {e : Expecting} (hspace : isSpace c = false)
    (hstep : r.stepBetween b e c = .ok r') (h : r'.outcome b cs = .ok s) :
    StartsLexeme (c :: cs) := by
  have hkey (hk : r.startKey c = .ok r') : StartsLexeme (c :: cs) := by
    unfold startKey at hk
    split_ifs at hk with hc
    subst hc
    cases hk
    exact startsLexeme_text h
  unfold stepBetween at hstep
  rw [if_neg (Bool.eq_false_iff.1 hspace)] at hstep
  cases e with
  | value => exact startsLexeme_value hstep h
  | firstElement =>
    dsimp only at hstep
    split_ifs at hstep with hc
    · subst hc; exact startsLexeme_sign .closeArray cs
    · exact startsLexeme_value hstep h
  | separator =>
    change r.separate b c = .ok r' at hstep
    unfold separate at hstep
    split at hstep
    · cases hstep
    · rename_i l ls _
      split_ifs at hstep with hcomma hclose
      · subst hcomma; exact startsLexeme_sign .comma cs
      · subst hclose
        cases l.bracket with
        | array => exact startsLexeme_sign .closeArray cs
        | object => exact startsLexeme_sign .closeObject cs
  | firstKey =>
    dsimp only at hstep
    split_ifs at hstep with hc
    · subst hc; exact startsLexeme_sign .closeObject cs
    · exact hkey hstep
  | key => exact hkey hstep
  | colon =>
    dsimp only at hstep
    split_ifs at hstep with hc
    subst hc
    exact startsLexeme_sign .colon cs
  | nothing => cases hstep

theorem Lexeme.bytes_length_pos (l : Lexeme) : 0 < l.bytes.length := by
  cases l with
  | sign s => exact Nat.zero_lt_one
  | scalar c =>
    obtain ⟨x, xs, hx, -⟩ := c.bytes_cons
    rw [Lexeme.bytes, hx]
    exact Nat.zero_lt_succ _

theorem blank_cons {ls : List Lexeme} (hc : isSpace c = true) (h : Written ls cs) :
    Written ls (c :: cs) := by
  cases h with
  | nil blank => exact .nil (List.forall_mem_cons.2 ⟨hc, blank⟩)
  | @cons l ls ws bs blank rest =>
    have hblank : Blank (c :: ws) := List.forall_mem_cons.2 ⟨hc, blank⟩
    exact .cons hblank rest

/-- **Bytes that a reader takes are lexemes** that it takes. -/
theorem lexemes_of_outcome {bs : List UInt8} {r : Reader σ} (hr : r.IsBetween)
    (h : r.outcome b bs = .ok s) :
    ∃ ls, Written ls bs ∧ ∃ r', r.takes b ls = .ok r' ∧ r'.whole = .ok s := by
  match bs with
  | [] => exact ⟨[], .nil nofun, r, rfl, hr.finish_eq (b := b) ▸ h⟩
  | c :: cs =>
    obtain ⟨r', hstep, hrest⟩ := outcome_cons_ok h
    rw [hr.step_eq] at hstep
    cases hspace : isSpace c with
    | true =>
      unfold stepBetween at hstep
      rw [if_pos hspace, hr.expect_eq] at hstep
      cases hstep
      obtain ⟨ls, hls, hwhole⟩ := lexemes_of_outcome hr hrest
      exact ⟨ls, blank_cons hspace hls, hwhole⟩
    | false =>
      -- The step only tells which lexeme starts here; the reader takes it in from `r` at once.
      obtain ⟨l, rest, hl, hstop⟩ := startsLexeme_of_step hspace hstep hrest
      rw [hl, outcome_lexeme hr l hstop] at h
      obtain ⟨r₁, hr₁, h⟩ := bind_eq_ok.1 h
      have htake := categorized_eq_ok.1 hr₁
      obtain ⟨ls, hls, r₂, htakes, hwhole⟩ := lexemes_of_outcome (isBetween_take htake) h
      refine ⟨l :: ls, ?_, r₂, ?_, hwhole⟩
      · have hnone : Blank [] := List.forall_mem_nil _
        rw [hl]
        exact .cons hnone hls
      · rw [takes, htake]
        exact htakes
termination_by bs.length
decreasing_by
  · rw [hl, List.length_append]
    have hpos := Lexeme.bytes_length_pos l
    omega
  · exact Nat.lt_succ_self _

end Reader

end NearestHost.Json
