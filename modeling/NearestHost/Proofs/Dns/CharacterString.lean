/-
  The pieces of a text are the fewest that hold it.

  * `Cut`: characters divided into parts that fit into a piece.
  * `Full`: parts of which each but the last is followed by a character that it
    has no room for.
  * `Full.length_le`: no cut has fewer parts than a full one.
  * `pieces_fewest`: the pieces of a text are a full cut.
-/
import NearestHost.Dns.CharacterString

namespace NearestHost.Dns

/-! ## Sizes -/

/-- The bytes of characters in UTF-8. -/
def byteSize (cs : List Char) : Nat := (String.ofList cs).utf8ByteSize

@[simp] theorem byteSize_append (cs ds : List Char) :
    byteSize (cs ++ ds) = byteSize cs + byteSize ds := by
  rw [byteSize, String.ofList_append, String.utf8ByteSize_append]
  rfl

@[simp] theorem byteSize_singleton (c : Char) : byteSize [c] = c.utf8Size := by
  rw [byteSize, ← String.singleton_eq_ofList, String.utf8ByteSize_singleton]

theorem byteSize_cons (c : Char) (cs : List Char) : byteSize (c :: cs) = c.utf8Size + byteSize cs := by
  rw [← List.singleton_append, byteSize_append, byteSize_singleton]

/-! ## Cuts -/

/-- Characters divided into parts that fit into a piece. -/
structure Cut (cs : List Char) (parts : List (List Char)) : Prop where
  flatten : parts.flatten = cs
  fits : ∀ p ∈ parts, byteSize p ≤ maxPieceSize

theorem cut_cons {p cs : List Char} {parts : List (List Char)} :
    Cut cs (p :: parts) ↔ byteSize p ≤ maxPieceSize ∧ ∃ rest, cs = p ++ rest ∧ Cut rest parts := by
  constructor
  · rintro ⟨hflatten, hfits⟩
    obtain ⟨hp, hparts⟩ := List.forall_mem_cons.1 hfits
    exact ⟨hp, parts.flatten, hflatten.symm, rfl, hparts⟩
  · rintro ⟨hp, rest, rfl, hflatten, hparts⟩
    exact ⟨by rw [List.flatten_cons, hflatten], List.forall_mem_cons.2 ⟨hp, hparts⟩⟩

/-- The end of a text needs no more parts than the whole of it. -/
theorem Cut.suffix {u v : List Char} {parts : List (List Char)} (h : Cut (u ++ v) parts) :
    ∃ parts', Cut v parts' ∧ parts'.length ≤ parts.length := by
  induction parts generalizing u with
  | nil =>
    obtain ⟨-, rfl⟩ := List.append_eq_nil_iff.1 h.flatten.symm
    exact ⟨[], ⟨rfl, nofun⟩, Nat.le_refl _⟩
  | cons p parts ih =>
    obtain ⟨hp, rest, hsplit, hrest⟩ := cut_cons.1 h
    rcases List.append_eq_append_iff.1 hsplit with ⟨w, rfl, rfl⟩ | ⟨w, rfl, rfl⟩
    · -- The cut falls into the first part, which loses its start.
      have hw : byteSize w ≤ maxPieceSize := by rw [byteSize_append] at hp; omega
      exact ⟨w :: parts, cut_cons.2 ⟨hw, rest, rfl, hrest⟩, Nat.le_refl _⟩
    · obtain ⟨parts', hcut, hlength⟩ := ih hrest
      exact ⟨parts', hcut, Nat.le_succ_of_le hlength⟩

/-- Each part but the last is followed by a character that it has no room for. -/
inductive Full : List (List Char) → Prop
  | last (p : List Char) : Full [p]
  | next {p q : List Char} {c : Char} {parts : List (List Char)}
      (full : maxPieceSize < byteSize (p ++ [c])) (rest : Full ((c :: q) :: parts)) :
      Full (p :: (c :: q) :: parts)

/-- The first part of another cut ends inside the first full part, so what the full parts after
    it hold is left to the other parts after it. -/
theorem Cut.rest_of_full {p cs : List Char} {c : Char} {parts : List (List Char)}
    (full : maxPieceSize < byteSize (p ++ [c])) (h : Cut (p ++ c :: cs) parts) :
    ∃ parts', Cut (c :: cs) parts' ∧ parts'.length < parts.length := by
  cases parts with
  | nil => exact absurd h.flatten (by simp)
  | cons q parts =>
    obtain ⟨hq, rest, hsplit, hrest⟩ := cut_cons.1 h
    rcases List.append_eq_append_iff.1 hsplit with ⟨w, rfl, hw⟩ | ⟨w, rfl, rfl⟩
    · cases w with
      | nil =>
        obtain rfl : c :: cs = rest := hw
        exact ⟨parts, hrest, Nat.lt_succ_self _⟩
      | cons d w =>
        obtain ⟨rfl, -⟩ := List.cons.inj hw
        rw [byteSize_append, byteSize_singleton] at full
        rw [byteSize_append, byteSize_cons] at hq
        omega
    · obtain ⟨parts', hcut, hlength⟩ := hrest.suffix
      exact ⟨parts', hcut, Nat.lt_succ_of_le hlength⟩

/-- **No cut has fewer parts than full ones.** -/
theorem Full.length_le {parts others : List (List Char)} (h : Full parts)
    (hcut : Cut parts.flatten others) (hne : others ≠ []) : parts.length ≤ others.length := by
  induction h generalizing others with
  | last p => exact List.length_pos_iff.2 hne
  | @next p q c parts full rest ih =>
    obtain ⟨others', hcut', hlt⟩ := Cut.rest_of_full full hcut
    have hne' : others' ≠ [] := by
      rintro rfl
      exact absurd hcut'.flatten (by simp)
    exact Nat.le_trans (Nat.succ_le_succ (ih hcut' hne')) hlt

/-- What follows a part that is not the last starts with a character that it has no room for. -/
theorem Full.next_of_split {parts before after : List (List Char)} {p : List Char} (h : Full parts)
    (hsplit : parts = before ++ p :: after) (hafter : after ≠ []) :
    ∃ c cs, after.flatten = c :: cs ∧ maxPieceSize < byteSize (p ++ [c]) := by
  induction h generalizing before with
  | last q =>
    have hlength := congrArg List.length hsplit
    have hpos := List.length_pos_iff.2 hafter
    simp only [List.length_append, List.length_cons, List.length_nil] at hlength
    omega
  | @next q r c parts full rest ih =>
    cases before with
    | nil =>
      obtain ⟨rfl, rfl⟩ := List.cons.inj hsplit
      exact ⟨c, r ++ parts.flatten, rfl, full⟩
    | cons b before => exact ih (List.cons.inj hsplit).2

/-! ## Pieces -/

/-- The pieces hold the start that has been read and the rest of the text. -/
theorem flatten_piecesAfter (cs start : List Char) (size : Nat) :
    (piecesAfter start size cs).flatten = start ++ cs := by
  induction cs generalizing start size with
  | nil => simp [piecesAfter]
  | cons c r ih =>
    rw [piecesAfter]
    split
    · rw [List.flatten_cons, ih, List.singleton_append]
    · rw [ih, List.append_assoc, List.singleton_append]

theorem utf8Size_le_maxPieceSize (c : Char) : c.utf8Size ≤ maxPieceSize :=
  Nat.le_trans c.utf8Size_le_four (by decide)

/-- Pieces fit, where the start that has been read does. -/
theorem cut_piecesAfter (cs : List Char) {start : List Char} (h : byteSize start ≤ maxPieceSize) :
    Cut (start ++ cs) (piecesAfter start (byteSize start) cs) where
  flatten := flatten_piecesAfter cs start _
  fits := by
    induction cs generalizing start with
    | nil => exact List.forall_mem_singleton.2 h
    | cons c r ih =>
      rw [piecesAfter]
      split
      · have hc : byteSize [c] ≤ maxPieceSize := byteSize_singleton c ▸ utf8Size_le_maxPieceSize c
        exact List.forall_mem_cons.2 ⟨h, byteSize_singleton c ▸ ih hc⟩
      · rename_i hroom
        have hsize : byteSize start + c.utf8Size = byteSize (start ++ [c]) := by simp
        rw [hsize] at hroom ⊢
        exact ih (Nat.not_lt.1 hroom)

/-- The first piece starts with the start that has been read. -/
theorem piecesAfter_eq_cons (cs start : List Char) (size : Nat) :
    ∃ more parts, piecesAfter start size cs = (start ++ more) :: parts := by
  induction cs generalizing start size with
  | nil => exact ⟨[], [], by rw [piecesAfter, List.append_nil]⟩
  | cons c r ih =>
    rw [piecesAfter]
    split
    · exact ⟨[], piecesAfter [c] c.utf8Size r, by rw [List.append_nil]⟩
    · obtain ⟨more, parts, h⟩ := ih (start ++ [c]) (size + c.utf8Size)
      exact ⟨c :: more, parts, by rw [h, List.append_assoc, List.singleton_append]⟩

/-- **A piece ends only where the next character has no room.** -/
theorem full_piecesAfter (cs start : List Char) :
    Full (piecesAfter start (byteSize start) cs) := by
  induction cs generalizing start with
  | nil => exact .last start
  | cons c r ih =>
    have hsize : byteSize start + c.utf8Size = byteSize (start ++ [c]) := by simp
    rw [piecesAfter, hsize]
    split
    · rename_i hfull
      obtain ⟨more, parts, h⟩ := piecesAfter_eq_cons r [c] (byteSize [c])
      have hrest : Full ((c :: more) :: parts) := h ▸ ih [c]
      rw [← byteSize_singleton, h]
      exact .next hfull hrest
    · exact ih (start ++ [c])

theorem ne_nil_of_mem_piecesAfter {p start : List Char} (hstart : start ≠ []) (cs : List Char)
    (size : Nat) (h : p ∈ piecesAfter start size cs) : p ≠ [] := by
  induction cs generalizing start size with
  | nil => exact List.mem_singleton.1 h ▸ hstart
  | cons c r ih =>
    rw [piecesAfter] at h
    split at h
    · rcases List.mem_cons.1 h with rfl | h
      · exact hstart
      · exact ih (List.cons_ne_nil c []) _ h
    · exact ih (by simp) _ h

/-- Only the piece of the empty text is empty. -/
theorem eq_nil_of_nil_mem {cs : List Char} (h : [] ∈ piecesAfter [] 0 cs) : cs = [] := by
  cases cs with
  | nil => rfl
  | cons c r =>
    have hroom : ¬ maxPieceSize < 0 + c.utf8Size := by
      rw [Nat.zero_add]
      exact Nat.not_lt.2 (utf8Size_le_maxPieceSize c)
    rw [piecesAfter, if_neg hroom] at h
    exact absurd rfl (ne_nil_of_mem_piecesAfter (by simp) r _ h)

/-! ## Texts -/

/-- A text divided at its characters into at least one part, each of at most 255 bytes. -/
structure Division (s : String) (parts : List String) : Prop where
  ne_nil : parts ≠ []
  join : String.join parts = s
  fits : ∀ p ∈ parts, p.utf8ByteSize ≤ 255

theorem byteSize_toList (s : String) : byteSize s.toList = s.utf8ByteSize := by
  rw [byteSize, String.ofList_toList]

theorem Division.cut {s : String} {parts : List String} (h : Division s parts) :
    Cut s.toList (parts.map String.toList) where
  flatten := by rw [← h.join, String.toList_join, List.flatMap]
  fits := by
    intro p hp
    obtain ⟨q, hq, rfl⟩ := List.mem_map.1 hp
    exact byteSize_toList q ▸ h.fits q hq

theorem join_map_ofList (parts : List (List Char)) :
    String.join (parts.map String.ofList) = String.ofList parts.flatten := by
  induction parts with
  | nil => rfl
  | cons p parts ih => rw [List.map_cons, String.join_cons, ih, List.flatten_cons,
      String.ofList_append]

theorem cut_pieces (s : String) : Cut s.toList (piecesAfter [] 0 s.toList) := by
  have hempty : byteSize [] ≤ maxPieceSize := Nat.zero_le _
  exact cut_piecesAfter s.toList hempty

theorem full_pieces (s : String) : Full (piecesAfter [] 0 s.toList) := full_piecesAfter s.toList []

theorem division_pieces (s : String) : Division s (pieces s) where
  ne_nil := by
    obtain ⟨more, parts, h⟩ := piecesAfter_eq_cons s.toList [] 0
    rw [pieces, h]
    exact List.cons_ne_nil _ _
  join := by rw [pieces, join_map_ofList, (cut_pieces s).flatten, String.ofList_toList]
  fits := by
    intro p hp
    obtain ⟨q, hq, rfl⟩ := List.mem_map.1 hp
    exact (cut_pieces s).fits q hq

/-- **The pieces of a text are the fewest that hold it.**  They divide it into parts of at most 255
    bytes, none of them empty unless the text is; each but the last is followed by a character that
    it has no room for, and no other division has fewer parts. -/
theorem pieces_fewest (s : String) :
    Division s (pieces s) ∧ ("" ∈ pieces s → s = "") ∧ (s = "" → pieces s = [""]) ∧
      (∀ before p after, pieces s = before ++ p :: after → after ≠ [] → ∃ c rest,
        s = String.join before ++ p ++ String.ofList (c :: rest) ∧
          255 < (p.push c).utf8ByteSize) ∧
      (∀ parts, Division s parts → (pieces s).length ≤ parts.length) := by
  refine ⟨division_pieces s, fun hempty => ?_, ?_, fun before p after hsplit hafter => ?_,
    fun parts h => ?_⟩
  · obtain ⟨q, hq, hqs⟩ := List.mem_map.1 hempty
    obtain rfl : q = [] := String.ofList_injective hqs
    rw [← String.ofList_toList (s := s), eq_nil_of_nil_mem hq]
  · rintro rfl
    rfl
  · obtain ⟨before', rest, hparts, rfl, hrest⟩ := List.map_eq_append_iff.1 hsplit
    obtain ⟨q, after', rfl, rfl, rfl⟩ := List.map_eq_cons_iff.1 hrest
    have hne : after' ≠ [] := by rintro rfl; exact hafter rfl
    obtain ⟨c, cs, hflatten, hfull⟩ := (full_pieces s).next_of_split hparts hne
    refine ⟨c, cs, ?_, ?_⟩
    · rw [← (division_pieces s).join, hsplit, String.join_append, String.join_cons,
        ← hflatten, join_map_ofList after', String.append_assoc]
    · rwa [byteSize, String.ofList_append] at hfull
  · rw [pieces, List.length_map]
    have hlength := (full_pieces s).length_le ((cut_pieces s).flatten ▸ h.cut)
      (by simpa using h.ne_nil)
    rwa [List.length_map] at hlength

end NearestHost.Dns
