/-
  One field of a configuration, with the text around it.

  * `Place`: where a text gives a field, in an object or in an array.
  * `Place.draftOf_fill`: another value in that place changes what is given to the field, and
    nothing else.
  * `Place.Holds`: a text in which another one stands in that place, whatever the
    layout around it is.
-/
import NearestHost.Proofs.Configuration.Rearranged
import NearestHost.Proofs.Json.Rendered

namespace NearestHost.Configuration

open Json (Lexeme Lexed Quoted Tree Written joined partLexemes separator)
open Text (utf8)

/-- Where a text gives a field of a configuration: in a member of the object, between others, or in
    an array behind the fields in front of it. -/
inductive Place (f : Field)
  | member (before after : List (Quoted × Tree)) (key : Quoted) {name : String}
      (named : key.text? = some name) (known : Field.ofKey? name = some f)
  | element (before after : List Tree) (index : Field.ofIndex? before.length = some f)

variable {d e i : Draft} {f : Field} {g : Given} {v : Tree} {ts ts' : List Tree} {n : Nat}

/-- The value with another one in that place. -/
def Place.fill : Place f → Tree → Tree
  | .member before after key _ _, v => .object (before ++ (key, v) :: after)
  | .element before after _, v => .array (before ++ v :: after)

/-! ## Elements -/

/-- Elements that are given to later fields do not depend on what was given before. -/
theorem elements_give (hlater : ∀ j, n ≤ j → Field.ofIndex? j ≠ some g.field)
    (h : d.elements n ts = .ok e) : (d.give g).elements n ts = .ok (e.give g) := by
  induction ts generalizing d n with
  | nil => cases h; rfl
  | cons t ts ih =>
    rw [Draft.elements] at h ⊢
    split at h
    · cases h
    · rename_i f hf
      obtain ⟨g', hread, h⟩ := Json.bind_eq_ok.1 h
      have hne : g.field ≠ g'.field := by
        rw [read_field hread]
        rintro rfl
        exact hlater n le_rfl hf
      refine Json.bind_eq_ok.2 ⟨g', hread, ?_⟩
      rw [give_comm hne]
      exact ih (fun j hj => hlater j (Nat.le_of_succ_le hj)) h

theorem elements_append : d.elements n (ts ++ ts') =
    d.elements n ts >>= fun e => e.elements (n + ts.length) ts' := by
  induction ts generalizing d n with
  | nil => rfl
  | cons t ts ih =>
    rw [List.cons_append, Draft.elements, Draft.elements]
    split
    · rfl
    · rename_i f hf
      cases f.read t with
      | error k => rfl
      | ok g =>
        rw [Json.ok_bind, Json.ok_bind, ih, List.length_cons, Nat.add_right_comm]
        rfl

/-- No two elements are given to one field. -/
theorem ofIndex?_inj {m : Nat} (h : Field.ofIndex? n = some f) (h' : Field.ofIndex? m = some f) :
    n = m := by
  unfold Field.ofIndex? at h h'
  split at h <;> cases h <;> split at h' <;> first | rfl | cases h'

/-! ## Another value -/

/-- **Another value in a place** changes what is given to its field, and nothing else. -/
theorem Place.draftOf_fill (place : Place f) (h : draftOf (place.fill v) = .ok d) (v' : Tree) :
    draftOf (place.fill v') = (f.read v').map d.give := by
  cases place with
  | member before after key named known =>
    obtain ⟨i, hi, h⟩ := Json.foldlM_append_ok.1 h
    obtain ⟨j, hj, h⟩ := Json.foldlM_cons_ok.1 h
    obtain ⟨hhas, g, hg, rfl⟩ := (member_ok_of_known named known).1 hj
    have hmember : i.member (key, v') = (f.read v').map i.give := by
      rw [member_of_known named known, hhas]
      rfl
    change (before ++ (key, v') :: after).foldlM Draft.member .empty = _
    rw [List.foldlM_append, hi, Json.ok_bind, List.foldlM_cons, hmember]
    cases hg' : f.read v' with
    | error k => rfl
    | ok g' =>
      have hfield : g.field = g'.field := (read_field hg).trans (read_field hg').symm
      have hlate := members_give (has_give.2 (Or.inr hfield)) h
      rwa [give_give hfield] at hlate
  | element before after index =>
    change Draft.empty.elements 0 (before ++ v :: after) = .ok d at h
    change Draft.empty.elements 0 (before ++ v' :: after) = _
    rw [elements_append, Nat.zero_add] at h ⊢
    obtain ⟨i, hi, h⟩ := Json.bind_eq_ok.1 h
    rw [hi, Json.ok_bind, Draft.elements]
    rw [Draft.elements] at h
    simp only [index] at h ⊢
    obtain ⟨g, hg, h⟩ := Json.bind_eq_ok.1 h
    cases hg' : f.read v' with
    | error k => rfl
    | ok g' =>
      have hfield : g.field = g'.field := (read_field hg).trans (read_field hg').symm
      have hlate := elements_give (g := g') (fun j hj => by
        rw [read_field hg']
        intro hindex
        have := ofIndex?_inj index hindex
        omega) h
      rwa [give_give hfield] at hlate

/-! ## The text around a place -/

/-- What stands in front of the value in a place. -/
def Place.front : Place f → List Lexeme
  | .member before _ key _ _ => .sign .openObject :: (joined true (before.map partLexemes) ++
      (separator before.isEmpty ++ [.scalar (.text key), .sign .colon]))
  | .element before _ _ => .sign .openArray :: (joined true (before.map Tree.lexemes) ++
      separator before.isEmpty)

/-- What stands behind it. -/
def Place.back : Place f → List Lexeme
  | .member _ after _ _ _ => joined false (after.map partLexemes) ++ [.sign .closeObject]
  | .element _ after _ => joined false (after.map Tree.lexemes) ++ [.sign .closeArray]

theorem Place.lexemes_fill (place : Place f) (v : Tree) :
    (place.fill v).lexemes = place.front ++ (v.lexemes ++ place.back) := by
  cases place with
  | member before after key named known =>
    simp [Place.fill, Place.front, Place.back, Tree.lexemes, Json.memberLexemes_eq,
      Json.joined_append, partLexemes]
  | element before after index =>
    simp [Place.fill, Place.front, Place.back, Tree.lexemes, Json.elementLexemes_eq,
      Json.joined_append]

/-- A text in which another one stands in a place, in any layout of what is around it. -/
def Place.Holds (place : Place f) (text : List Char) (bs : List UInt8) : Prop :=
  ∃ pre post, Written place.front pre ∧ Written place.back post ∧ bs = pre ++ (utf8 text ++ post)

theorem Place.Holds.written {place : Place f} {text : List Char} {bs : List UInt8}
    (h : place.Holds text bs) (hv : Lexed text v.lexemes) : Written (place.fill v).lexemes bs := by
  obtain ⟨pre, post, hpre, hpost, rfl⟩ := h
  rw [lexemes_fill]
  exact hpre.append (Written.append hv hpost)

end NearestHost.Configuration
