/-
  Texts without the blanks at their ends.

  * `Trimmed`: a text between blanks that has none at its own ends.
  * `trim_eq_iff`: this is what trimming gives.
-/
import NearestHost.Text.Blank
import Mathlib.Data.List.DropRight

namespace NearestHost.Text

/-- A text between blanks, with no blank at its own ends. -/
structure Trimmed (cs core : List Char) : Prop where
  split : ∃ before after, cs = before ++ core ++ after ∧ (∀ c ∈ before, isBlank c = true) ∧
    ∀ c ∈ after, isBlank c = true
  first : ∀ c, core.head? = some c → isBlank c = false
  last : ∀ c, core.getLast? = some c → isBlank c = false

variable {cs core : List Char}

theorem dropWhile_isBlank (h : ∀ c, cs.head? = some c → isBlank c = false) :
    cs.dropWhile isBlank = cs := by
  cases cs with
  | nil => rfl
  | cons c r => exact List.dropWhile_cons_of_neg (by rw [h c rfl]; exact Bool.false_ne_true)

theorem head_dropWhile_isBlank (cs : List Char) :
    ∀ c, (cs.dropWhile isBlank).head? = some c → isBlank c = false := by
  intro c hc
  have h := List.head?_dropWhile_not isBlank cs
  rw [hc] at h
  exact h

theorem trimmed_trim (cs : List Char) : Trimmed cs (trim cs) where
  split := by
    refine ⟨cs.takeWhile isBlank, (cs.dropWhile isBlank).rtakeWhile isBlank, ?_,
      fun c => List.mem_takeWhile_imp, fun c => List.mem_rtakeWhile_imp⟩
    have hback : trim cs ++ (cs.dropWhile isBlank).rtakeWhile isBlank = cs.dropWhile isBlank :=
      List.rdropWhile_append_rtakeWhile
    rw [List.append_assoc, hback, List.takeWhile_append_dropWhile]
  first c hc := by
    -- What is left of a text starts where the text starts.
    obtain ⟨rest, hrest⟩ : trim cs <+: cs.dropWhile isBlank := List.rdropWhile_prefix _ _
    refine head_dropWhile_isBlank cs c ?_
    rw [← hrest, List.head?_append, hc]
    rfl
  last c hc := by
    refine head_dropWhile_isBlank (cs.dropWhile isBlank).reverse c ?_
    rw [trim, List.getLast?_reverse] at hc
    exact hc

theorem Trimmed.trim_eq (h : Trimmed cs core) : trim cs = core := by
  obtain ⟨⟨before, after, rfl, hbefore, hafter⟩, hfirst, hlast⟩ := h
  rw [trim, List.append_assoc, List.dropWhile_append_of_pos hbefore]
  cases core with
  | nil => rw [List.nil_append, List.dropWhile_eq_nil_iff.2 hafter]; rfl
  | cons c r =>
    have hfront : (c :: r ++ after).dropWhile isBlank = c :: r ++ after := dropWhile_isBlank hfirst
    have hback : (c :: r).reverse.dropWhile isBlank = (c :: r).reverse :=
      dropWhile_isBlank fun d hd => hlast d (by rwa [List.head?_reverse] at hd)
    rw [hfront, List.reverse_append,
      List.dropWhile_append_of_pos fun d hd => hafter d (List.mem_reverse.1 hd), hback,
      List.reverse_reverse]

/-- **Trimming gives the text between the blanks at the ends.** -/
theorem trim_eq_iff : trim cs = core ↔ Trimmed cs core :=
  ⟨fun h => h ▸ trimmed_trim cs, Trimmed.trim_eq⟩

end NearestHost.Text
