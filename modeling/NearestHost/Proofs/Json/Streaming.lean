/-
  Sources that break off.

  A reader stops at the first fault, so a source that breaks off is told apart
  from a whole one only where there is none.

  * `Faulty`: bytes that hold a fault, wherever the source goes on or stops.
  * `read_of_faulty`, `read_broken`: what such sources give.
  * `read_eq_broken`: nothing else is told as a source that broke off.
-/
import NearestHost.Json.Reader

namespace NearestHost.Json

variable {σ : Type} {b : Builder σ} {s : σ} {p : List UInt8} {f : Fault}

theorem Fault.category_cases (f : Fault) : f.category = .grammar ∨ f.category = .data := by
  cases f
  · exact Or.inl rfl
  · exact Or.inr rfl

/-- Reading the bytes stops at a fault. -/
def Faulty (b : Builder σ) (s : σ) (p : List UInt8) (f : Fault) : Prop :=
  (Reader.start s).run b p = .error f

/-- Bytes hold a fault, or a reader takes them all. -/
theorem faulty_or_taken (b : Builder σ) (s : σ) (p : List UInt8) :
    (∃ f, Faulty b s p f) ∨ ∃ r, (Reader.start s).run b p = .ok r := by
  cases h : (Reader.start s).run b p with
  | error f => exact Or.inl ⟨f, h⟩
  | ok r => exact Or.inr ⟨r, rfl⟩

/-- What follows a fault does not matter. -/
theorem Faulty.append (h : Faulty b s p f) (rest : List UInt8) : Faulty b s (p ++ rest) f := by
  have hrun : (Reader.start s).run b p = .error f := h
  rw [Faulty, Reader.run_append, hrun]
  rfl

theorem not_faulty_nil : ¬ Faulty b s [] f := nofun

/-- A fault decides what a source gives, however it goes on and stops. -/
theorem read_of_faulty (h : Faulty b s p f) (rest : List UInt8) (ending : Ending) :
    read b s ⟨p ++ rest, ending⟩ = .error f.category := by
  have hrun : (Reader.start s).run b (p ++ rest) = .error f := h.append rest
  rw [read, hrun]

/-- **A source that breaks off has no value**: what it gives is the category of its fault, or else
    that it broke off. -/
theorem read_broken (b : Builder σ) (s : σ) (p : List UInt8) :
    (∃ f, Faulty b s p f ∧ read b s ⟨p, .broken⟩ = .error f.category) ∨
      (∀ f, ¬ Faulty b s p f) ∧ read b s ⟨p, .broken⟩ = .error .broken := by
  rcases faulty_or_taken b s p with ⟨f, h⟩ | ⟨r, hr⟩
  · refine Or.inl ⟨f, h, ?_⟩
    have hread := read_of_faulty h [] .broken
    rwa [List.append_nil] at hread
  · refine Or.inr ⟨fun f hf => absurd (hr.symm.trans hf) nofun, ?_⟩
    rw [read, hr]

/-! ## The category of a source that broke off -/

theorem Fault.category_ne_broken (f : Fault) : f.category ≠ .broken := by
  cases f <;> exact nofun

theorem Reader.whole_ne_broken (r : Reader σ) : r.whole ≠ .error .broken := by
  unfold Reader.whole
  split <;> exact nofun

/-- The end of a text is not where it breaks off. -/
theorem Reader.finish_ne_broken (b : Builder σ) (r : Reader σ) : r.finish b ≠ .error .broken := by
  unfold Reader.finish
  split
  · -- A number may end here: its last event may be refused, which is a fault.
    split
    · split
      · exact fun h => Fault.category_ne_broken _ (Except.error.inj h)
      · exact Reader.whole_ne_broken _
    · split <;> exact nofun
  · exact r.whole_ne_broken

/-- **A source is told to break off only if it does**, and before any fault. -/
theorem read_eq_broken {source : Source} : read b s source = .error .broken ↔
    source.ending = .broken ∧ ∀ f, ¬ Faulty b s source.bytes f := by
  obtain ⟨p, ending⟩ := source
  rcases faulty_or_taken b s p with ⟨f, hf⟩ | ⟨r, hr⟩
  · have hread := read_of_faulty hf [] ending
    rw [List.append_nil] at hread
    rw [hread]
    exact ⟨fun h => absurd (Except.error.inj h) f.category_ne_broken, fun h => absurd hf (h.2 f)⟩
  · have hno : ∀ f, ¬ Faulty b s p f := fun f hf => absurd (hr.symm.trans hf) nofun
    cases ending with
    | complete =>
      have hread : read b s ⟨p, .complete⟩ = r.finish b := by rw [read, hr]
      rw [hread]
      exact ⟨fun h => absurd h (r.finish_ne_broken b), fun h => nomatch h.1⟩
    | broken =>
      have hread : read b s ⟨p, .broken⟩ = .error .broken := by rw [read, hr]
      exact iff_of_true hread ⟨rfl, hno⟩

end NearestHost.Json
