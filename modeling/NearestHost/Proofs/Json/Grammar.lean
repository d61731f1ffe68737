/-
  What is read is JSON.

  * `Moves`: what a lexeme does to the open brackets and to what is expected.
  * `moves_of_take`: what a reader takes moves on so.
  * `Completes`: lexemes that complete what is open.
  * `written_of_read`: so a text that has a value is written in a value's lexemes.
-/
import NearestHost.Proofs.Json.Scanning
import NearestHost.Proofs.Json.Tree

namespace NearestHost.Json

variable {σ : Type} {b : Builder σ}

/-! ## The shape of lexemes -/

/-- What is expected after a value, below open brackets. -/
def afterValue (ks : List Bracket) : Expecting := if ks.isEmpty then .nothing else .separator

/-- What a lexeme does to the open brackets and to what is expected. -/
inductive Moves : List Bracket → Expecting → Lexeme → List Bracket → Expecting → Prop
  | scalar {ks : List Bracket} {e : Expecting} (c : Scalar) (place : e.TakesValue) :
      Moves ks e (.scalar c) ks (afterValue ks)
  | opener {ks : List Bracket} {e : Expecting} (k : Bracket) (place : e.TakesValue) :
      Moves ks e (.sign k.opener) (k :: ks) (k.part true)
  -- Right after an opening bracket the reader does not look at which bracket is innermost.
  | closeFirst {ks : List Bracket} (k innermost : Bracket) :
      Moves (innermost :: ks) (k.part true) (.sign k.closer) ks (afterValue ks)
  | close {ks : List Bracket} (k : Bracket) :
      Moves (k :: ks) .separator (.sign k.closer) ks (afterValue ks)
  | comma {ks : List Bracket} (k : Bracket) :
      Moves (k :: ks) .separator (.sign .comma) (k :: ks) (k.part false)
  | name {ks : List Bracket} (q : Quoted) (first : Bool) :
      Moves ks (Bracket.object.part first) (.scalar (.text q)) ks .colon
  | colon {ks : List Bracket} : Moves ks .colon (.sign .colon) ks .value

namespace Reader

/-- The open brackets. -/
def brackets (r : Reader σ) : List Bracket := r.levels.map Level.bracket

variable {r r' : Reader σ}

theorem moves_afterValue {levels : List Level} {t : Token} {s : σ} {ks : List Bracket}
    {e : Expecting} {l : Lexeme}
    (h : Moves ks e l (levels.map Level.bracket) (Json.afterValue (levels.map Level.bracket))) :
    Moves ks e l (Reader.mk levels t s).afterValue.brackets
      (Reader.mk levels t s).afterValue.expecting := by
  have he : (Reader.mk levels t s).afterValue.expecting =
      Json.afterValue (levels.map Level.bracket) := by
    cases levels <;> rfl
  rw [he]
  exact h

theorem moves_takeScalar {e : Expecting} {c : Scalar} (h : r.takeScalar b e c = .ok r') :
    Moves r.brackets e (.scalar c) r'.brackets r'.expecting := by
  have hvalue (he : e.TakesValue) (h : r.takeValue b c = .ok r') :
      Moves r.brackets e (.scalar c) r'.brackets r'.expecting := by
    unfold takeValue at h
    split at h
    · obtain ⟨s, rfl⟩ := endPassed_ok h
      exact moves_afterValue (.scalar _ he)
    · obtain ⟨ev, -, hev⟩ := bind_eq_ok.1 h
      obtain ⟨s, rfl⟩ := endKept_ok hev
      exact moves_afterValue (.scalar _ he)
  have hname (q : Quoted) (first : Bool) (h : r.takeName b q = .ok r') :
      Moves r.brackets (Bracket.object.part first) (.scalar (.text q)) r'.brackets
        r'.expecting := by
    unfold takeName at h
    split at h
    · cases h; exact .name q first
    · obtain ⟨k, -, hk⟩ := bind_eq_ok.1 h
      obtain ⟨r'', hr'', rfl⟩ := map_eq_ok.1 hk
      unfold emit at hr''
      split at hr''
      · cases hr''; exact .name q first
      · cases hr''
  unfold takeScalar at h
  split at h
  · exact hvalue (Or.inl rfl) h
  · exact hvalue (Or.inr rfl) h
  · exact hname _ false h
  · exact hname _ true h
  · cases h

theorem moves_enter {e : Expecting} {k : Bracket} (he : e.TakesValue) (h : r.enter b k = .ok r') :
    Moves r.brackets e (.sign k.opener) r'.brackets r'.expecting := by
  obtain ⟨levels, t, s⟩ := r
  cases hp : passesNext b ⟨levels, t, s⟩ with
  | true =>
    rw [enter_passed t k hp] at h
    cases h
    exact .opener k he
  | false =>
    rw [enter_kept t k hp] at h
    obtain ⟨s', -, h⟩ := bind_eq_ok.1 h
    split_ifs at h
    cases h
    exact .opener k he

theorem leave_ok (h : r.leave b = .ok r') : ∃ l ls t s, r.levels = l :: ls ∧
    r' = (Reader.mk ls t s).afterValue := by
  unfold leave at h
  split at h
  · cases h
  · rename_i l ls hlevels
    dsimp only at h
    split_ifs at h
    · obtain ⟨s, rfl⟩ := endPassed_ok h
      exact ⟨l, ls, _, s, hlevels, rfl⟩
    · obtain ⟨s, rfl⟩ := endKept_ok h
      exact ⟨l, ls, _, s, hlevels, rfl⟩

theorem moves_leave {e : Expecting} {l : Lexeme}
    (hl : ∀ k ks, r.brackets = k :: ks → Moves (k :: ks) e l ks (Json.afterValue ks))
    (h : r.leave b = .ok r') : Moves r.brackets e l r'.brackets r'.expecting := by
  obtain ⟨l, ls, t, s, hlevels, rfl⟩ := leave_ok h
  have hbrackets : r.brackets = l.bracket :: ls.map Level.bracket := by
    rw [brackets, hlevels]
    rfl
  rw [hbrackets]
  exact moves_afterValue (hl _ _ hbrackets)

theorem moves_separate {s : Sign} (h : r.separate b s.byte = .ok r') :
    Moves r.brackets .separator (.sign s) r'.brackets r'.expecting := by
  unfold separate at h
  split at h
  · cases h
  · rename_i l ls hlevels
    have hbrackets : r.brackets = l.bracket :: ls.map Level.bracket := by
      rw [brackets, hlevels]
      rfl
    split_ifs at h with hcomma hclose
    · have hs : s = .comma := by cases s <;> first | rfl | exact absurd hcomma (by decide)
      have hr' : r' = r.expect (l.bracket.part false) := by
        unfold next at h
        split at h
        · rename_i hb; cases h; rw [hb]; rfl
        · rename_i hb; split_ifs at h; cases h; rw [hb]; rfl
      subst hs hr'
      rw [hbrackets]
      change Moves _ _ _ r.brackets _
      rw [hbrackets]
      exact .comma _
    · have hs : s = l.bracket.closer := by
        cases hb : l.bracket <;> rw [hb] at hclose <;> cases s <;>
          first | rfl | exact absurd hclose (by decide)
      subst hs
      refine moves_leave ?_ h
      rintro k ks hks
      obtain ⟨rfl, rfl⟩ := List.cons.inj (hbrackets.symm.trans hks)
      exact .close _

/-- **What a reader takes moves on in the grammar.** -/
theorem moves_of_take {e : Expecting} {l : Lexeme} (h : r.take b e l = .ok r') :
    Moves r.brackets e l r'.brackets r'.expecting := by
  cases l with
  | scalar c => exact moves_takeScalar h
  | sign s =>
    rw [take, stepBetween_sign] at h
    split at h
    · exact moves_enter (k := .array) (Or.inl rfl) h
    · exact moves_enter (k := .array) (Or.inr rfl) h
    · exact moves_enter (k := .object) (Or.inl rfl) h
    · exact moves_enter (k := .object) (Or.inr rfl) h
    · exact moves_leave (fun k ks _ => .closeFirst .array k) h
    · exact moves_leave (fun k ks _ => .closeFirst .object k) h
    · exact moves_separate h
    · cases h; exact .colon
    · cases h

end Reader

/-! ## Values from lexemes -/

/-- Lexemes that close open brackets, after a value. -/
def Closes : List Bracket → List Lexeme → Prop
  | [], ls => ls = []
  | .array :: ks, ls => ∃ ts rest,
      ls = elementLexemes false ts ++ .sign .closeArray :: rest ∧ Closes ks rest
  | .object :: ks, ls => ∃ ms rest,
      ls = memberLexemes false ms ++ .sign .closeObject :: rest ∧ Closes ks rest

/-- Lexemes that complete what is open.  Inside an object that is expected to go on with a name,
    the innermost bracket is one of an object, and likewise for arrays. -/
def Completes (ks : List Bracket) (ls : List Lexeme) : Expecting → Prop
  | .value => ∃ t rest, ls = Tree.lexemes t ++ rest ∧ Closes ks rest
  | .firstElement => ∀ outer, ks = .array :: outer →
      ∃ ts rest, ls = elementLexemes true ts ++ .sign .closeArray :: rest ∧ Closes outer rest
  | .firstKey => ∀ outer, ks = .object :: outer →
      ∃ ms rest, ls = memberLexemes true ms ++ .sign .closeObject :: rest ∧ Closes outer rest
  | .key => ∀ outer, ks = .object :: outer → ∃ k v ms rest,
      ls = .scalar (.text k) :: .sign .colon :: (Tree.lexemes v ++
        (memberLexemes false ms ++ .sign .closeObject :: rest)) ∧ Closes outer rest
  | .colon => ∃ v rest, ls = .sign .colon :: (Tree.lexemes v ++ rest) ∧ Closes ks rest
  | .separator => ks ≠ [] → Closes ks ls
  | .nothing => ks = [] → ls = []

variable {ks ks' : List Bracket} {e e' : Expecting} {l : Lexeme} {ls : List Lexeme}

theorem completes_afterValue (h : Completes ks ls (afterValue ks)) : Closes ks ls := by
  cases ks with
  | nil => exact h rfl
  | cons k ks => exact h (List.cons_ne_nil k ks)

theorem completes_value (he : e.TakesValue) {t : Tree} {rest : List Lexeme} (h : Closes ks rest) :
    Completes ks (t.lexemes ++ rest) e := by
  rcases he with rfl | rfl
  · exact ⟨t, rest, rfl, h⟩
  · rintro outer rfl
    obtain ⟨ts, rest, rfl, hrest⟩ := h
    exact ⟨t :: ts, rest, by simp [elementLexemes, separator], hrest⟩

theorem completes_name {q : Quoted} (h : Completes ks ls .colon) (first : Bool) :
    Completes ks (.scalar (.text q) :: ls) (Bracket.object.part first) := by
  obtain ⟨v, rest, rfl, hrest⟩ := h
  cases first with
  | true =>
    rintro outer rfl
    obtain ⟨ms, rest, rfl, hrest⟩ := hrest
    exact ⟨(q, v) :: ms, rest, by simp [memberLexemes, separator], hrest⟩
  | false =>
    rintro outer rfl
    obtain ⟨ms, rest, rfl, hrest⟩ := hrest
    exact ⟨q, v, ms, rest, rfl, hrest⟩

theorem closes_comma {k : Bracket} (h : Completes (k :: ks) ls (k.part false)) :
    Closes (k :: ks) (.sign .comma :: ls) := by
  cases k with
  | array =>
    obtain ⟨t, rest, rfl, ts, rest, rfl, hrest⟩ := h
    exact ⟨t :: ts, rest, by simp [elementLexemes, separator], hrest⟩
  | object =>
    obtain ⟨q, v, ms, rest, rfl, hrest⟩ := h ks rfl
    exact ⟨(q, v) :: ms, rest, by simp [memberLexemes, separator], hrest⟩

/-- **One lexeme**: with it, what completes the brackets after it completes those before it. -/
theorem completes_of_moves (hm : Moves ks e l ks' e') (h : Completes ks' ls e') :
    Completes ks (l :: ls) e := by
  cases hm with
  | scalar c place => exact completes_value (t := .scalar c) place (completes_afterValue h)
  | opener k place =>
    cases k with
    | array =>
      obtain ⟨ts, rest, rfl, hrest⟩ := h ks rfl
      exact array_lexemes ts rest ▸ completes_value place hrest
    | object =>
      obtain ⟨ms, rest, rfl, hrest⟩ := h ks rfl
      exact object_lexemes ms rest ▸ completes_value place hrest
  | closeFirst k innermost =>
    have hrest := completes_afterValue h
    cases k with
    | array => rintro outer houter; cases houter; exact ⟨[], ls, rfl, hrest⟩
    | object => rintro outer houter; cases houter; exact ⟨[], ls, rfl, hrest⟩
  | close k =>
    have hrest := completes_afterValue h
    rintro -
    cases k with
    | array => exact ⟨[], ls, rfl, hrest⟩
    | object => exact ⟨[], ls, rfl, hrest⟩
  | comma k => exact fun _ => closes_comma h
  | name q first => exact completes_name h first
  | colon =>
    obtain ⟨v, rest, rfl, hrest⟩ := h
    exact ⟨v, rest, rfl, hrest⟩

/-- **Lexemes that a reader takes to the end** complete what is open. -/
theorem completes_of_takes {r r' : Reader σ} {s : σ} (hr : r.IsBetween)
    (h : r.takes b ls = .ok r') (hwhole : r'.whole = .ok s) :
    Completes r.brackets ls r.expecting := by
  -- From the last lexeme back: what completes the reader after a lexeme is known before it.
  induction ls generalizing r with
  | nil =>
    obtain rfl := Except.ok.inj h
    have he : r.expecting = .nothing := by
      unfold Reader.whole at hwhole
      split at hwhole
      · rename_i ht
        exact Token.between.inj (hr.symm.trans ht)
      · cases hwhole
    rw [he]
    exact fun _ => rfl
  | cons l ls ih =>
    obtain ⟨r₁, htake, htakes⟩ := bind_eq_ok.1 h
    exact completes_of_moves (Reader.moves_of_take htake) (ih (Reader.isBetween_take htake) htakes)

/-- **What is read is JSON**: a text that has a value is written in a value's lexemes. -/
theorem written_of_read {s s' : σ} {bs : List UInt8} (h : read b s ⟨bs, .complete⟩ = .ok s') :
    ∃ t : Tree, Written t.lexemes bs := by
  rw [read_complete] at h
  have hstart : (Reader.start s).IsBetween := rfl
  obtain ⟨ls, hls, r', htakes, hwhole⟩ := Reader.lexemes_of_outcome hstart h
  obtain ⟨t, rest, rfl, hrest⟩ := completes_of_takes hstart htakes hwhole
  have hnil : rest = [] := hrest
  rw [hnil, List.append_nil] at hls
  exact ⟨t, hls⟩

end NearestHost.Json
