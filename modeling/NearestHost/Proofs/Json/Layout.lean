/-
  What the layouts of a value have in common.

  * `Layout.IsBlank`: a layout that only puts white space around the parts.
  * `lexed_bracketed`: the parts of arrays and objects are written between their
    brackets.
  * `Denotes`: a text that is the JSON of a datum.
  * `denotes_quoted`, `denotes_bracketed`: the texts of texts and of arrays are,
    in every such layout.
-/
import NearestHost.Proofs.Json.Datum
import NearestHost.Proofs.Json.Quoting
import NearestHost.Proofs.Json.Scanning
import Mathlib.Data.List.Forall2

namespace NearestHost.Json

open Text (utf8 utf8_cons utf8_append)

/-! ## White space -/

/-- The characters of white space. -/
def blanks : List Char := [' ', '\t', '\n', '\r']

theorem mem_blanks {c : Char} : c ∈ blanks ↔ c = ' ' ∨ c = '\t' ∨ c = '\n' ∨ c = '\r' := by
  simp [blanks]

/-- Only white space around the parts of arrays and objects. -/
structure Layout.IsBlank (l : Layout) : Prop where
  lead : ∀ depth, ∀ c ∈ l.lead depth, c ∈ blanks
  close : ∀ depth, ∀ c ∈ l.close depth, c ∈ blanks
  colon : ∀ c ∈ l.colon, c ∈ blanks

theorem isBlank_compact : Layout.compact.IsBlank := ⟨nofun, nofun, nofun⟩

theorem isBlank_pretty : Layout.pretty.IsBlank := by
  have hbreak (depth : Nat) : ∀ c ∈ Layout.lineBreak depth, c ∈ blanks := by
    intro c hc
    rcases List.mem_cons.1 hc with rfl | hc
    · decide
    · obtain rfl := List.eq_of_mem_replicate hc
      decide
  exact ⟨fun depth => hbreak (depth + 1), hbreak, List.forall_mem_singleton.2 (by decide)⟩

/-- White space in front of the parts of an array or object is white space in bytes. -/
theorem blank_utf8 {cs : List Char} (h : ∀ c ∈ cs, c ∈ blanks) : Blank (utf8 cs) := by
  have hone {c : Char} (hc : c ∈ blanks) : Blank (utf8 [c]) := by
    rcases mem_blanks.1 hc with rfl | rfl | rfl | rfl <;> exact List.forall_mem_singleton.2 rfl
  induction cs with
  | nil => exact List.forall_mem_nil _
  | cons c cs ih =>
    rw [utf8_cons]
    obtain ⟨hc, hcs⟩ := List.forall_mem_cons.1 h
    exact List.forall_mem_append.2 ⟨hone hc, ih hcs⟩

/-! ## Brackets -/

variable {l : Layout} {depth : Nat}

/-- The parts after the first one, each behind a comma. -/
def Layout.further (l : Layout) (depth : Nat) (parts : List (List Char)) : List Char :=
  parts.flatMap fun p => ',' :: (l.lead depth ++ p)

theorem bracketed_cons (left right : Char) (p : List Char) (ps : List (List Char)) :
    l.bracketed depth left right (p :: ps) =
      [left] ++ (l.lead depth ++ (p ++ (l.further depth ps ++ (l.close depth ++ [right])))) := by
  have hparts (p : List Char) (ps : List (List Char)) :
      (((p :: ps).map (l.lead depth ++ ·)).intersperse [',']).flatten =
        l.lead depth ++ (p ++ l.further depth ps) := by
    induction ps generalizing p with
    | nil => simp [Layout.further]
    | cons q ps ih =>
      rw [List.map_cons, List.map_cons, List.intersperse_cons_cons, List.flatten_cons,
        List.flatten_cons, ← List.map_cons, ih]
      simp [Layout.further]
  rw [Layout.bracketed, hparts]
  · simp
  · nofun

/-! ## Lexemes in a row -/

variable {ls ls' : List Lexeme} {bs bs' : List UInt8}

theorem written_nil : Written [] [] := .nil (List.forall_mem_nil _)

theorem Written.lexeme (l : Lexeme) : Written [l] l.bytes := by
  have h : Written [l] ([] ++ (l.bytes ++ [])) := .cons (List.forall_mem_nil _) written_nil
  rwa [List.nil_append, List.append_nil] at h

theorem Written.after {ws : List UInt8} (hws : Blank ws) (h : Written ls bs) :
    Written ls (ws ++ bs) := by
  induction ws with
  | nil => exact h
  | cons c ws ih =>
    obtain ⟨hc, hws⟩ := List.forall_mem_cons.1 hws
    exact Reader.blank_cons hc (ih hws)

theorem Written.append (h : Written ls bs) (h' : Written ls' bs') :
    Written (ls ++ ls') (bs ++ bs') := by
  induction h with
  | nil blank => exact h'.after blank
  | cons blank rest ih =>
    rw [List.append_assoc, List.append_assoc]
    exact .cons blank ih

/-- Lexemes of parts, each but the first behind a comma. -/
def joined (first : Bool) : List (List Lexeme) → List Lexeme
  | [] => []
  | ls :: lss => separator first ++ (ls ++ joined false lss)

theorem joined_append (first : Bool) (lss : List (List Lexeme)) (ls : List Lexeme)
    (lss' : List (List Lexeme)) : joined first (lss ++ ls :: lss') =
      joined first lss ++ (separator (first && lss.isEmpty) ++ (ls ++ joined false lss')) := by
  induction lss generalizing first with
  | nil => simp [joined]
  | cons ks lss ih => simp [joined, ih]

theorem elementLexemes_eq (first : Bool) (ts : List Tree) :
    elementLexemes first ts = joined first (ts.map Tree.lexemes) := by
  induction ts generalizing first with
  | nil => rfl
  | cons t ts ih => rw [elementLexemes, ih]; rfl

/-- A text that is written in lexemes. -/
def Lexed (text : List Char) (ls : List Lexeme) : Prop := Written ls (utf8 text)

theorem lexed_further (hl : l.IsBlank) {parts : List (List Char)} {lss : List (List Lexeme)}
    (h : List.Forall₂ Lexed parts lss) : Lexed (l.further depth parts) (joined false lss) := by
  induction h with
  | nil => exact written_nil
  | @cons p ls parts lss hp hparts ih =>
    have htext : utf8 (l.further depth (p :: parts)) = [byteOf ','] ++
        ((utf8 (l.lead depth) ++ utf8 p) ++ utf8 (l.further depth parts)) := by
      rw [Layout.further, List.flatMap_cons, List.cons_append, utf8_cons, utf8_append,
        utf8_append]
      rfl
    rw [Lexed, htext]
    have hblank := blank_utf8 (hl.lead depth)
    exact (Written.lexeme (.sign .comma)).append ((Written.after hblank hp).append ih)

/-- **The parts of an array or object** are written between its brackets, in any layout of white
    space. -/
theorem lexed_bracketed (hl : l.IsBlank) {opening closing : Sign} {left right : Char}
    (hleft : utf8 [left] = [opening.byte]) (hright : utf8 [right] = [closing.byte])
    {parts : List (List Char)} {lss : List (List Lexeme)} (h : List.Forall₂ Lexed parts lss) :
    Lexed (l.bracketed depth left right parts)
      (.sign opening :: (joined true lss ++ [.sign closing])) := by
  have hopen : Lexed [left] [.sign opening] := by
    rw [Lexed, hleft]
    exact Written.lexeme (.sign opening)
  have hclose : Lexed [right] [.sign closing] := by
    rw [Lexed, hright]
    exact Written.lexeme (.sign closing)
  cases h with
  | nil =>
    have htext : l.bracketed depth left right [] = [left] ++ [right] := rfl
    rw [Lexed, htext, utf8_append]
    exact hopen.append hclose
  | @cons p ls parts lss hp hparts =>
    have hlexemes : joined true (ls :: lss) ++ [.sign closing] =
        ls ++ (joined false lss ++ [.sign closing]) := by simp [joined, separator]
    rw [Lexed, bracketed_cons, hlexemes]
    simp only [utf8_append]
    -- white space stands in front of the first part and of the closing bracket
    have hend := Written.after (blank_utf8 (hl.close depth)) hclose
    have hfurther : Lexed (l.further depth parts) (joined false lss) := lexed_further hl hparts
    have hrest := Written.append hp (hfurther.append hend)
    exact hopen.append (hrest.after (blank_utf8 (hl.lead depth)))

/-! ## Texts that are JSON -/

/-- A text that is the JSON of a datum, with at most so many brackets open at once. -/
def Denotes (height : Nat) (text : List Char) (d : Datum) : Prop :=
  ∃ t : Tree, Written t.lexemes (utf8 text) ∧ t.datum? = some d ∧ t.height ≤ height

variable {height : Nat}

/-- **A text between quotes** is the JSON of the text. -/
theorem denotes_quoted (s : String) : Denotes height (quoted s) (.text s) := by
  obtain ⟨q, hbytes, htext⟩ := exists_quoted s
  refine ⟨.scalar (.text q), ?_, ?_, Nat.zero_le _⟩
  · rw [← hbytes]
    exact .lexeme (.scalar (.text q))
  · rw [Tree.datum?, Scalar.datum?, htext]
    rfl

/-- Texts that are JSON are those of the elements of an array. -/
theorem exists_elements {parts : List (List Char)} {data : List Datum}
    (h : List.Forall₂ (Denotes height) parts data) :
    ∃ ts : List Tree, List.Forall₂ Lexed parts (ts.map Tree.lexemes) ∧
      elementData? ts = some data ∧ elementHeight ts ≤ height := by
  induction h with
  | nil => exact ⟨[], .nil, rfl, Nat.zero_le _⟩
  | @cons p d parts data hp hparts ih =>
    obtain ⟨t, hwritten, hdatum, hheight⟩ := hp
    obtain ⟨ts, hlexed, hdata, hall⟩ := ih
    refine ⟨t :: ts, .cons hwritten hlexed, ?_, Nat.max_le.2 ⟨hheight, hall⟩⟩
    rw [elementData?, hdatum, hdata]
    rfl

/-- **An array of JSON texts**, in any layout of white space. -/
theorem denotes_bracketed (hl : l.IsBlank) {parts : List (List Char)} {data : List Datum}
    (h : List.Forall₂ (Denotes height) parts data) :
    Denotes (height + 1) (l.bracketed depth '[' ']' parts) (.array data) := by
  obtain ⟨ts, hlexed, hdata, hheight⟩ := exists_elements h
  refine ⟨.array ts, ?_, ?_, Nat.succ_le_succ hheight⟩
  · rw [Tree.lexemes, elementLexemes_eq]
    exact lexed_bracketed hl rfl rfl hlexed
  · rw [Tree.datum?, hdata]
    rfl

/-- A text that is the JSON of a datum is decoded to it. -/
theorem Denotes.decode_eq {text : List Char} {d : Datum} (h : Denotes height text d)
    (hheight : height ≤ maxDepth) : decode (.ofString (String.ofList text)) = .ok d := by
  obtain ⟨t, hwritten, hdatum, hle⟩ := h
  rw [source_ofList]
  exact decode_written hdatum (Nat.le_trans hle hheight) hwritten

end NearestHost.Json
