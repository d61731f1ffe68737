/-
  Values that are written.

  * `Value.SpelledBy`: a tree that spells a value.
  * `exists_spelling`: every value is written in the lexemes of such a tree, in any
    layout of white space.
-/
import NearestHost.Proofs.Json.Layout
import NearestHost.Proofs.Json.Spelling

namespace NearestHost.Json

open Text (utf8 utf8_cons utf8_append)

namespace Value

mutual

/-- A tree that spells a value.  A double that is not finite is spelled as `null`. -/
inductive SpelledBy : Value → Tree → Prop
  | null : SpelledBy .null (.scalar (.word .null))
  | number {x : Float} {n : Numeral} (finite : Double.isFinite x = true) (writes : n.Writes x) :
      SpelledBy (.number x) (.scalar (.number n))
  | exceptional {x : Float} (infinite : Double.isFinite x = false) :
      SpelledBy (.number x) (.scalar (.word .null))
  | text {s : String} {q : Quoted} (content : q.text? = some s) :
      SpelledBy (.text s) (.scalar (.text q))
  | array {vs : List Value} {ts : List Tree} (elements : List.Forall₂ SpelledBy vs ts) :
      SpelledBy (.array vs) (.array ts)
  | object {ms : List (String × Value)} {ts : List (Quoted × Tree)}
      (members : List.Forall₂ MemberSpelledBy ms ts) : SpelledBy (.object ms) (.object ts)

/-- A name and a tree that spell a member of an object. -/
inductive MemberSpelledBy : String × Value → Quoted × Tree → Prop
  | mk {k : String} {v : Value} {q : Quoted} {t : Tree} (name : q.text? = some k)
      (value : SpelledBy v t) : MemberSpelledBy (k, v) (q, t)

end

variable {t : Tree}

theorem spelledBy_number {x : Float} (hx : Double.isFinite x = true)
    (h : (Value.number x).SpelledBy t) : ∃ n : Numeral, t = .scalar (.number n) ∧ n.Writes x := by
  cases h with
  | number _ hn => exact ⟨_, rfl, hn⟩
  | exceptional hinf =>
    rw [hx] at hinf
    cases hinf

theorem spelledBy_text {s : String} (h : (Value.text s).SpelledBy t) :
    ∃ q : Quoted, t = .scalar (.text q) ∧ q.text? = some s := by
  cases h with
  | text hq => exact ⟨_, rfl, hq⟩

end Value

/-! ## Lexemes of members -/

/-- The lexemes of a member. -/
def partLexemes (m : Quoted × Tree) : List Lexeme :=
  .scalar (.text m.1) :: .sign .colon :: m.2.lexemes

theorem memberLexemes_eq (first : Bool) (ms : List (Quoted × Tree)) :
    memberLexemes first ms = joined first (ms.map partLexemes) := by
  induction ms generalizing first with
  | nil => rfl
  | cons m ms ih => rw [memberLexemes, ih]; rfl

variable {l : Layout}

theorem lexed_member (hl : l.IsBlank) {k : String} {text : List Char} {q : Quoted} {t : Tree}
    (hq : q.bytes = utf8 (quoted k)) (ht : Lexed text t.lexemes) :
    Lexed (quoted k ++ ':' :: l.colon ++ text) (partLexemes (q, t)) := by
  have hcolon : utf8 (':' :: l.colon) = [byteOf ':'] ++ utf8 l.colon := utf8_cons _ _
  have hname := Written.lexeme (.scalar (.text q))
  have hvalue := Written.after (blank_utf8 hl.colon) ht
  have hpart := hname.append ((Written.lexeme (.sign .colon)).append hvalue)
  rw [Lexed, utf8_append, utf8_append, hcolon, ← hq, List.append_assoc, List.append_assoc]
  exact hpart

/-! ## Trees that spell values -/

mutual

/-- **A value is written in the lexemes of a tree that spells it**, in any layout of white space. -/
theorem exists_spelling (hl : l.IsBlank) (v : Value) (depth : Nat) :
    ∃ t, v.SpelledBy t ∧ Lexed (v.render l depth) t.lexemes :=
  match v with
  | .null => ⟨_, .null, .lexeme (.scalar (.word .null))⟩
  | .number x => by
    cases hx : Double.isFinite x with
    | false =>
      refine ⟨_, .exceptional hx, ?_⟩
      rw [Value.render, numberText, hx]
      exact .lexeme (.scalar (.word .null))
    | true =>
      obtain ⟨n, hbytes, hwrites⟩ := Numeral.exists_numeral hx
      refine ⟨_, .number hx hwrites, ?_⟩
      rw [Value.render, Lexed, ← hbytes]
      exact .lexeme (.scalar (.number n))
  | .text s => by
    obtain ⟨q, hbytes, hcontent⟩ := exists_quoted s
    refine ⟨_, .text hcontent, ?_⟩
    rw [Value.render, Lexed, ← hbytes]
    exact .lexeme (.scalar (.text q))
  | .array vs => by
    obtain ⟨ts, hspelled, hlexed⟩ := exists_elementSpellings hl vs (depth + 1)
    refine ⟨_, .array hspelled, ?_⟩
    rw [Value.render, Tree.lexemes, elementLexemes_eq]
    exact lexed_bracketed hl rfl rfl hlexed
  | .object ms => by
    obtain ⟨ts, hspelled, hlexed⟩ := exists_memberSpellings hl ms (depth + 1)
    refine ⟨_, .object hspelled, ?_⟩
    rw [Value.render, Tree.lexemes, memberLexemes_eq]
    exact lexed_bracketed hl rfl rfl hlexed

theorem exists_elementSpellings (hl : l.IsBlank) (vs : List Value) (depth : Nat) :
    ∃ ts, List.Forall₂ Value.SpelledBy vs ts ∧
      List.Forall₂ Lexed (renderElements l depth vs) (ts.map Tree.lexemes) :=
  match vs with
  | [] => ⟨[], .nil, .nil⟩
  | v :: vs => by
    obtain ⟨t, hspelled, hlexed⟩ := exists_spelling hl v depth
    obtain ⟨ts, hspelled', hlexed'⟩ := exists_elementSpellings hl vs depth
    exact ⟨t :: ts, .cons hspelled hspelled', .cons hlexed hlexed'⟩

theorem exists_memberSpellings (hl : l.IsBlank) (ms : List (String × Value)) (depth : Nat) :
    ∃ ts, List.Forall₂ Value.MemberSpelledBy ms ts ∧
      List.Forall₂ Lexed (renderMembers l depth ms) (ts.map partLexemes) :=
  match ms with
  | [] => ⟨[], .nil, .nil⟩
  | (k, v) :: ms => by
    obtain ⟨q, hbytes, hname⟩ := exists_quoted k
    obtain ⟨t, hspelled, hlexed⟩ := exists_spelling hl v depth
    obtain ⟨ts, hspelled', hlexed'⟩ := exists_memberSpellings hl ms depth
    exact ⟨(q, t) :: ts, .cons ⟨hname, hspelled⟩ hspelled',
      .cons (lexed_member hl hbytes hlexed) hlexed'⟩

end

end NearestHost.Json
