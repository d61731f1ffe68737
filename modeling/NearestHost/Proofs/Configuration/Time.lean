/-
  The time of a decoded configuration.

  * `Progress.Timed`: the time that has been read, if any, is one that some text
    gives.
  * `keeps_timed`: every event keeps this.
  * `generatedAt_of_decode`: so the time of a configuration is that of its
    reading, or one that a text gives.
-/
import NearestHost.Configuration.Reading
import NearestHost.Proofs.Json.Reader

namespace NearestHost.Configuration

open Json (Event Form)

/-- The time of a draft is one that some text gives. -/
def Draft.Timed (d : Draft) : Prop := ∀ t, d.generatedAt = some t → ∃ s, Rfc3339.read? s = some t

/-- The time that has been read is one that some text gives. -/
def Progress.Timed (now : Instant) : Progress → Prop
  | .start => True
  | .between _ d | .field d _ | .unknown d | .hosts _ d _ | .host _ d _ _ => d.Timed
  | .done c => c.generatedAt = now ∨ ∃ s, Rfc3339.read? s = some c.generatedAt

variable {now : Instant} {d : Draft} {p : Progress}

theorem timed_put (hd : d.Timed) {form : Form} {f : Field} {e : Event}
    (h : Progress.put? form d f e = some p) : p.Timed now := by
  unfold Progress.put? at h
  split at h
  · obtain ⟨n, -, rfl⟩ := Option.map_eq_some_iff.1 h; exact hd
  · cases h; exact hd
  · obtain ⟨t, ht, rfl⟩ := Option.map_eq_some_iff.1 h
    rintro t' ⟨⟩; exact ⟨_, ht⟩
  · cases h; exact hd
  · cases h

theorem timed_name (hd : d.Timed) {k : String} (h : Progress.name? d k = some p) : p.Timed now := by
  unfold Progress.name? at h
  split at h
  · cases h; exact hd
  · split_ifs at h; cases h; exact hd

theorem timed_done (hd : d.Timed) (h : (d.configuration? now).map .done = some p) :
    p.Timed now := by
  obtain ⟨c, hc, rfl⟩ := Option.map_eq_some_iff.1 h
  obtain ⟨name, -, rfl⟩ := Option.map_eq_some_iff.1 hc
  cases ht : d.generatedAt with
  | none => exact Or.inl rfl
  | some t => exact Or.inr (hd t ht)

theorem timed_afterHost (hd : d.Timed) (form : Form) (hs : List Host) (q : Host.Progress) :
    (Progress.afterHost form d hs q).Timed now := by
  cases q <;> exact hd

/-- **Every event keeps the time.** -/
theorem keeps_timed : (builder now).Keeps (Progress.Timed now) := by
  intro p e p' hp h
  change Progress.accept? now p e = some p' at h
  unfold Progress.accept? at h
  split at h
  · cases h; exact nofun
  · cases h; exact nofun
  · exact timed_name hp h
  · exact timed_done hp h
  · exact timed_done hp h
  · obtain ⟨f, -, h⟩ := Option.bind_eq_some_iff.1 h; exact timed_put hp h
  · exact timed_put hp h
  · cases h; exact hp
  · cases h; exact hp
  · obtain ⟨q, -, rfl⟩ := Option.map_eq_some_iff.1 h; exact timed_afterHost hp _ _ q
  · obtain ⟨q, -, rfl⟩ := Option.map_eq_some_iff.1 h; exact timed_afterHost hp _ _ q
  · cases h

/-- **The time of a configuration** is that of its reading, or one that a text gives. -/
theorem generatedAt_of_decode {source : Json.Source} {c : Configuration}
    (h : decode now source = .ok c) :
    c.generatedAt = now ∨ ∃ s, Rfc3339.read? s = some c.generatedAt := by
  unfold decode at h
  cases hr : Json.read (builder now) .start source with
  | error k => rw [hr] at h; cases h
  | ok p =>
    have hstart : Progress.start.Timed now := trivial
    have hp : p.Timed now := Json.read_keeps keeps_timed hstart hr
    rw [hr] at h
    cases p with
    | done c' => cases h; exact hp
    | _ => cases h

end NearestHost.Configuration
