/-
  Configurations from sources that break off.

  * `load_faulty`: a fault decides how loading fails, whatever follows it.
  * `load_broken`: a source that breaks off never gives a configuration, and says
    that it broke off wherever the whole text is a configuration or ends early.
  * `Unreadable`: a file that cannot be opened, or breaks off before any fault.
  * `loadFile_unreadable`: only the first of these is told as a file that cannot be
    opened; the second is told as invalid JSON.
-/
import NearestHost.Proofs.Configuration.Loading
import NearestHost.Proofs.Json.Streaming

namespace NearestHost.Configuration

open Json (Category Fault Faulty)

variable {now : Instant} {p : List UInt8} {f : Fault}

theorem load_of_read_error {source : Json.Source} {k : Category}
    (h : Json.read (builder now) .start source = .error k) :
    load now source = .error (.invalidJson k) := by
  refine load_of_error ?_
  rw [decode, h]
  rfl

/-- **A fault decides how loading fails**, however the source goes on and stops. -/
theorem load_faulty (h : Faulty (builder now) .start p f) (rest : List UInt8)
    (ending : Json.Ending) :
    load now ⟨p ++ rest, ending⟩ = .error (.invalidJson f.category) :=
  load_of_read_error (Json.read_of_faulty h rest ending)

/-- A source that breaks off fails with its fault, or else since it broke off. -/
theorem load_broken_cases (now : Instant) (p : List UInt8) :
    (∃ f, Faulty (builder now) .start p f ∧
        load now ⟨p, .broken⟩ = .error (.invalidJson f.category)) ∨
      (∀ f, ¬ Faulty (builder now) .start p f) ∧
        load now ⟨p, .broken⟩ = .error (.invalidJson .broken) := by
  rcases Json.read_broken (builder now) .start p with ⟨f, hf, hread⟩ | ⟨hno, hread⟩
  · exact Or.inl ⟨f, hf, load_of_read_error hread⟩
  · exact Or.inr ⟨hno, load_of_read_error hread⟩

theorem load_broken_of_not_faulty (h : ∀ f, ¬ Faulty (builder now) .start p f) :
    load now ⟨p, .broken⟩ = .error (.invalidJson .broken) := by
  rcases load_broken_cases now p with ⟨f, hf, -⟩ | ⟨-, hload⟩
  · exact absurd hf (h f)
  · exact hload

theorem load_complete_of_faulty (h : Faulty (builder now) .start p f) :
    load now ⟨p, .complete⟩ = .error (.invalidJson f.category) := by
  have hload := load_faulty h [] .complete
  rwa [List.append_nil] at hload

/-- **A source that breaks off never gives a configuration.**  It fails at once with a fault that
    no continuation repairs, or says that it broke off; and this it does wherever the whole text
    is a configuration, holds a host out of range or ends early. -/
theorem load_broken (now : Instant) (p : List UInt8) :
    (∃ k, load now ⟨p, .broken⟩ = .error (.invalidJson k) ∧
        (k = .broken ∨ k = .grammar ∨ k = .data)) ∧
      (∀ k, load now ⟨p, .broken⟩ = .error (.invalidJson k) → k = .grammar ∨ k = .data →
        ∀ rest, load now ⟨p ++ rest, .complete⟩ = .error (.invalidJson k) ∧
          load now ⟨p ++ rest, .broken⟩ = .error (.invalidJson k)) ∧
      ((∃ c, load now ⟨p, .complete⟩ = .ok c) ∨
          (∃ name cause, load now ⟨p, .complete⟩ = .error (.invalidHost name cause)) ∨
          load now ⟨p, .complete⟩ = .error (.invalidJson .unfinished) →
        load now ⟨p, .broken⟩ = .error (.invalidJson .broken)) := by
  refine ⟨?_, fun k hk hfault rest => ?_, fun hwhole => ?_⟩
  · rcases load_broken_cases now p with ⟨f, -, hload⟩ | ⟨-, hload⟩
    · exact ⟨_, hload, Or.inr (f.category_cases)⟩
    · exact ⟨_, hload, Or.inl rfl⟩
  · rcases load_broken_cases now p with ⟨f, hf, hload⟩ | ⟨-, hload⟩
    · rw [hload] at hk
      cases hk
      exact ⟨load_faulty hf rest .complete, load_faulty hf rest .broken⟩
    · rw [hload] at hk
      cases hk
      rcases hfault with h | h <;> cases h
  · refine load_broken_of_not_faulty fun f hf => ?_
    have hcomplete := load_complete_of_faulty hf
    rcases hwhole with ⟨c, hc⟩ | ⟨name, cause, hhost⟩ | hearly
    · rw [hcomplete] at hc; cases hc
    · rw [hcomplete] at hhost; cases hhost
    · rw [hcomplete] at hearly
      rcases f.category_cases with h | h <;> rw [h] at hearly <;> cases hearly

/-! ## Files -/

variable {source : Json.Source} {file : File}

theorem decode_eq_broken : decode now source = .error .broken ↔
    source.ending = .broken ∧ ∀ f, ¬ Faulty (builder now) .start source.bytes f := by
  rw [← Json.read_eq_broken, decode]
  cases hread : Json.read (builder now) .start source with
  | error k =>
    change (Except.error k : Except Category Configuration) = .error .broken ↔ _
    rw [Except.error.injEq, Except.error.injEq]
  | ok d =>
    -- What has been read to its end may not be a configuration, but it did not break off.
    have hresult : d.result ≠ .error .broken := by cases d <;> exact nofun
    exact iff_of_false hresult nofun

theorem load_eq_broken : load now source = .error (.invalidJson .broken) ↔
    source.ending = .broken ∧ ∀ f, ¬ Faulty (builder now) .start source.bytes f := by
  rw [← decode_eq_broken]
  refine ⟨fun hload => ?_, load_of_error⟩
  rcases load_error_cases hload with ⟨k, hk, hd⟩ | ⟨name, cause, hhost⟩
  · cases hk; exact hd
  · cases hhost

/-- A file that cannot be read: it cannot be opened, or it breaks off where its bytes hold no
    fault so far. -/
inductive Unreadable (now : Instant) : File → Prop
  | unopened (reason : String) : Unreadable now (.unopened reason)
  | broken (p : List UInt8) (h : ∀ f, ¬ Faulty (builder now) .start p f) :
      Unreadable now (.opened ⟨p, .broken⟩)

theorem unreadable_opened : Unreadable now (.opened source) ↔
    source.ending = .broken ∧ ∀ f, ¬ Faulty (builder now) .start source.bytes f := by
  obtain ⟨p, ending⟩ := source
  refine ⟨fun h => ?_, fun ⟨hending, hno⟩ => ?_⟩
  · cases h with
    | broken p hno => exact ⟨rfl, hno⟩
  · obtain rfl : ending = .broken := hending
    exact .broken p hno

theorem loadFile_eq_unopened {reason : String} :
    loadFile now file = .error (.unopened reason) ↔ file = .unopened reason := by
  cases file with
  | unopened other => simp [loadFile]
  | opened source =>
    constructor
    · -- What has been opened fails with its content only.
      intro hload
      rcases load_error_cases hload with ⟨k, hk, -⟩ | ⟨name, cause, hhost⟩
      · cases hk
      · cases hhost
    · intro h
      cases h

/-- Every beginning of the text of a configuration is without fault. -/
theorem not_faulty_of_load {rest : List UInt8} {c : Configuration}
    (h : load now ⟨p ++ rest, .complete⟩ = .ok c) : ¬ Faulty (builder now) .start p f := by
  intro hf
  rw [load_faulty hf rest .complete] at h
  cases h

/-- **Only a file that cannot be opened is told as one.**  A file that opens and then breaks off,
    inside the text of a configuration or wherever there is no fault so far, is told as invalid
    JSON. -/
theorem loadFile_unreadable (now : Instant) :
    (∀ file reason, loadFile now file = .error (.unopened reason) ↔ file = .unopened reason) ∧
      (∀ source, loadFile now (.opened source) = .error (.invalidJson .broken) ↔
        Unreadable now (.opened source)) ∧
      (∀ p rest c, load now ⟨p ++ rest, .complete⟩ = .ok c →
        Unreadable now (.opened ⟨p, .broken⟩)) := by
  refine ⟨fun file reason => loadFile_eq_unopened, fun source => ?_, fun p rest c hc => ?_⟩
  · exact load_eq_broken.trans unreadable_opened.symm
  · exact .broken p fun f => not_faulty_of_load hc

/-- A directory can be opened, but none of it can be read. -/
theorem not_unreadable_unopened : ¬ ∀ now file, Unreadable now file →
    ∃ reason, loadFile now file = .error (.unopened reason) := by
  intro h
  obtain ⟨reason, hload⟩ := h ⟨0, 0⟩ _ (.broken [] fun f => Json.not_faulty_nil)
  exact absurd (loadFile_eq_unopened.1 hload) nofun

end NearestHost.Configuration
