/-
  JSON texts without their white space.

  * `bare`: a text without the white space outside its quotes.
  * `Strips`: whole tokens that are others without it.
  * `strips_quoted`, `strips_bracketed`: the white space between quotes stays, and
    that around the parts of arrays and objects goes.
  * `strips_render`: so a value has its compact text without it, in any layout
    of white space.
-/
import NearestHost.Proofs.Decimal.Written
import NearestHost.Proofs.Json.Layout

namespace NearestHost.Json

/-! ## White space outside quotes -/

/-- Where a character of a JSON text stands. -/
inductive Place
  | outside
  | /-- between quotes -/ inside
  | /-- between quotes, behind a backslash -/ escaped
  deriving DecidableEq

/-- Where the next character stands. -/
def Place.next : Place → Char → Place
  | .outside, c => if c = '"' then .inside else .outside
  | .inside, c => if c = '"' then .outside else if c = '\\' then .escaped else .inside
  | .escaped, _ => .inside

/-- Characters without the white space outside quotes, where the first one stands at a place. -/
def bare (p : Place) : List Char → List Char
  | [] => []
  | c :: cs => if p = .outside ∧ c ∈ blanks then bare p cs else c :: bare (p.next c) cs

/-- A text without the white space outside its quotes. -/
def withoutBlanks (s : String) : String := String.ofList (bare .outside s.toList)

/-- Whole tokens that are others without their white space. -/
def Strips (cs ds : List Char) : Prop :=
  ∀ rest, bare .outside (cs ++ rest) = ds ++ bare .outside rest

/-- Neither white space nor a quote. -/
abbrev Ordinary (c : Char) : Prop := c ≠ '"' ∧ c ∉ blanks

namespace Strips

variable {cs ds cs' ds' : List Char}

theorem append (h : Strips cs ds) (h' : Strips cs' ds') : Strips (cs ++ cs') (ds ++ ds') := by
  intro rest
  rw [List.append_assoc, h, h', List.append_assoc]

theorem blank (h : ∀ c ∈ cs, c ∈ blanks) : Strips cs [] := by
  induction cs with
  | nil => exact fun _ => rfl
  | cons c cs ih =>
    intro rest
    obtain ⟨hc, hcs⟩ := List.forall_mem_cons.1 h
    rw [List.cons_append, bare, if_pos ⟨rfl, hc⟩, ih hcs]

theorem ordinary (h : ∀ c ∈ cs, Ordinary c) : Strips cs cs := by
  induction cs with
  | nil => exact fun _ => rfl
  | cons c cs ih =>
    intro rest
    obtain ⟨⟨hquote, hblank⟩, hcs⟩ := List.forall_mem_cons.1 h
    rw [List.cons_append, bare, if_neg (fun h => hblank h.2), Place.next, if_neg hquote, ih hcs]
    rfl

theorem one {c : Char} (h : Ordinary c) : Strips [c] [c] :=
  ordinary (List.forall_mem_singleton.2 h)

end Strips

/-! ## Scalars -/

/-- A character behind which a text between quotes goes on as before. -/
def stays (c : Char) : Bool := c ≠ '"' ∧ c ≠ '\\'

theorem bare_inside {cs : List Char} (h : ∀ c ∈ cs, stays c = true) (rest : List Char) :
    bare .inside (cs ++ rest) = cs ++ bare .inside rest := by
  induction cs with
  | nil => rfl
  | cons c cs ih =>
    obtain ⟨hc, hcs⟩ := List.forall_mem_cons.1 h
    obtain ⟨hquote, hslash⟩ := of_decide_eq_true hc
    rw [List.cons_append, bare, if_neg (fun h => nomatch h.1), Place.next, if_neg hquote,
      if_neg hslash, ih hcs]
    rfl

theorem bare_escaped (c : Char) (rest : List Char) :
    bare .inside (escaped c ++ rest) = escaped c ++ bare .inside rest := by
  unfold escaped
  split_ifs with hquote hslash hb hf hn hr ht hcontrol
  · rfl
  · rfl
  · rfl
  · rfl
  · rfl
  · rfl
  · rfl
  · have hpair : ∀ n < 0x20, ('u' :: '0' :: '0' :: hexPair n).all stays = true := by decide
    exact congrArg ('\\' :: ·) (bare_inside (List.all_eq_true.1 (hpair _ hcontrol)) rest)
  · exact bare_inside (List.forall_mem_singleton.2 (by simp [stays, hquote, hslash])) rest

/-- White space between quotes stays. -/
theorem strips_quoted (s : String) : Strips (quoted s) (quoted s) := by
  intro rest
  have hinner (cs : List Char) (rest : List Char) :
      bare .inside (cs.flatMap escaped ++ rest) = cs.flatMap escaped ++ bare .inside rest := by
    induction cs with
    | nil => rfl
    | cons c cs ih =>
      rw [List.flatMap_cons, List.append_assoc, bare_escaped, ih, List.append_assoc]
  have hbare : bare .outside (quoted s ++ rest) =
      '"' :: bare .inside (s.toList.flatMap escaped ++ '"' :: rest) := by
    rw [quoted, List.cons_append, List.cons_append, List.append_assoc]
    rfl
  rw [hbare, hinner, quoted, List.cons_append, List.cons_append, List.append_assoc]
  rfl

theorem ordinary_of_isNumberChar {c : Char} (h : Decimal.isNumberChar c = true) :
    Ordinary c := by
  refine ⟨?_, fun hc => ?_⟩
  · rintro rfl
    cases h
  · rcases mem_blanks.1 hc with rfl | rfl | rfl | rfl <;> cases h

theorem strips_null : Strips ['n', 'u', 'l', 'l'] ['n', 'u', 'l', 'l'] :=
  .ordinary (by simp [Ordinary, blanks])

theorem strips_number (x : Float) : Strips (numberText x) (numberText x) := by
  unfold numberText
  split
  · exact .ordinary fun c hc =>
      ordinary_of_isNumberChar (Decimal.isNumberChar_write (List.all_eq_true.1 rfl) x c hc)
  · exact strips_null

/-! ## Layouts -/

variable {l : Layout}

theorem strips_further (hl : l.IsBlank) (depth depth' : Nat) {ps qs : List (List Char)}
    (h : List.Forall₂ Strips ps qs) :
    Strips (l.further depth ps) (Layout.compact.further depth' qs) := by
  induction h with
  | nil => exact fun _ => rfl
  | @cons p q ps qs hp hps ih =>
    have hcomma : Strips [','] [','] := .one (by decide)
    have hpart := (Strips.blank (hl.lead depth)).append hp
    rw [Layout.further, Layout.further, List.flatMap_cons, List.flatMap_cons]
    exact (hcomma.append hpart).append ih

/-- An array or object has no white space but around its parts and in them. -/
theorem strips_bracketed (hl : l.IsBlank) {left right : Char} (hleft : Strips [left] [left])
    (hright : Strips [right] [right]) {ps qs : List (List Char)} (h : List.Forall₂ Strips ps qs)
    (depth depth' : Nat) : Strips (l.bracketed depth left right ps)
      (Layout.compact.bracketed depth' left right qs) := by
  cases h with
  | nil => exact hleft.append hright
  | @cons p q ps qs hp hps =>
    rw [bracketed_cons, bracketed_cons]
    have hclose := (Strips.blank (hl.close depth)).append hright
    have hend := (strips_further hl depth depth' hps).append hclose
    exact hleft.append ((Strips.blank (hl.lead depth)).append (hp.append hend))

mutual

/-- **Without the white space outside its quotes** a value has its compact text, whatever the
    layout. -/
theorem strips_render (hl : l.IsBlank) (v : Value) (depth depth' : Nat) :
    Strips (v.render l depth) (v.render .compact depth') :=
  match v with
  | .null => strips_null
  | .number x => strips_number x
  | .text s => strips_quoted s
  | .array vs => by
    rw [Value.render, Value.render]
    exact strips_bracketed hl (.one (by decide)) (.one (by decide))
      (strips_elements hl vs _ _) _ _
  | .object ms => by
    rw [Value.render, Value.render]
    exact strips_bracketed hl (.one (by decide)) (.one (by decide))
      (strips_members hl ms _ _) _ _

theorem strips_elements (hl : l.IsBlank) (vs : List Value) (depth depth' : Nat) :
    List.Forall₂ Strips (renderElements l depth vs) (renderElements .compact depth' vs) :=
  match vs with
  | [] => .nil
  | v :: vs => .cons (strips_render hl v depth depth') (strips_elements hl vs depth depth')

theorem strips_members (hl : l.IsBlank) (ms : List (String × Value)) (depth depth' : Nat) :
    List.Forall₂ Strips (renderMembers l depth ms) (renderMembers .compact depth' ms) :=
  match ms with
  | [] => .nil
  | (k, v) :: ms => by
    have hcolon : Strips (':' :: l.colon) [':'] :=
      (Strips.one (by decide)).append (.blank hl.colon)
    exact .cons (((strips_quoted k).append hcolon).append (strips_render hl v depth depth'))
      (strips_members hl ms depth depth')

end

theorem withoutBlanks_pretty (v : Value) : withoutBlanks v.pretty = v.compact := by
  have hbare : bare .outside (v.render .pretty 0 ++ []) = v.render .compact 0 ++ [] :=
    strips_render isBlank_pretty v 0 0 []
  rw [List.append_nil, List.append_nil] at hbare
  rw [withoutBlanks, Value.pretty, String.toList_ofList, hbare, Value.compact]

end NearestHost.Json
