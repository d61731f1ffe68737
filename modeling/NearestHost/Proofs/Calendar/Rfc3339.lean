/-
  The instants that timestamps give.

  * `fields_bounds`, `offset_le`: a timestamp has no negative year, and is ahead of
    UTC by less than a day.
  * `firstShown_le_of_read`: so its instant is not too early to be shown.
-/
import NearestHost.Calendar.Rfc3339
import NearestHost.Proofs.Calendar.Year

namespace NearestHost.Rfc3339

open Calendar

theorem shift_bounds {cs : List Char} {o : Int} (h : shift? cs = some o) : 0 ≤ o ∧ o ≤ 86340 := by
  simp only [shift?, Option.bind_eq_bind, Option.bind_eq_some_iff] at h
  obtain ⟨⟨hours, r⟩, -, r', -, ⟨minutes, r''⟩, -, h⟩ := h
  dsimp only at h
  split_ifs at h with hle
  cases h
  omega

theorem offset_le {cs : List Char} {o : Int} (h : offset? cs = some o) : o ≤ 86340 := by
  unfold offset? at h
  split at h
  · cases h; decide
  · cases h; decide
  · exact (shift_bounds h).2
  · obtain ⟨o', ho', rfl⟩ := Option.map_eq_some_iff.1 h
    have := shift_bounds ho'
    omega
  · cases h

theorem fields_bounds {cs : List Char} {t : DateTime} (h : fields? cs = some t) :
    0 ≤ t.date.year ∧ t.offset ≤ 86340 := by
  unfold fields? at h
  -- a field or a divider at a time; only the year and the offset matter
  obtain ⟨⟨year, _⟩, -, h⟩ := Option.bind_eq_some_iff.1 h
  obtain ⟨_, -, h⟩ := Option.bind_eq_some_iff.1 h
  obtain ⟨⟨month, _⟩, -, h⟩ := Option.bind_eq_some_iff.1 h
  obtain ⟨_, -, h⟩ := Option.bind_eq_some_iff.1 h
  obtain ⟨⟨day, _⟩, -, h⟩ := Option.bind_eq_some_iff.1 h
  obtain ⟨_, -, h⟩ := Option.bind_eq_some_iff.1 h
  obtain ⟨⟨hour, _⟩, -, h⟩ := Option.bind_eq_some_iff.1 h
  obtain ⟨_, -, h⟩ := Option.bind_eq_some_iff.1 h
  obtain ⟨⟨minute, _⟩, -, h⟩ := Option.bind_eq_some_iff.1 h
  obtain ⟨_, -, h⟩ := Option.bind_eq_some_iff.1 h
  obtain ⟨⟨second, _⟩, -, h⟩ := Option.bind_eq_some_iff.1 h
  obtain ⟨⟨nanosecond, _⟩, -, h⟩ := Option.bind_eq_some_iff.1 h
  obtain ⟨offset, ho, h⟩ := Option.bind_eq_some_iff.1 h
  cases h
  exact ⟨Int.natCast_nonneg year, offset_le ho⟩

/-- An instant is no earlier than the start of its year, less the offset. -/
theorem firstShown_le_instant {t : DateTime} (hy : 0 ≤ t.date.year) (ho : t.offset ≤ 86340) :
    Instant.firstShown.seconds ≤ t.instant.seconds := by
  have hfirst : Instant.firstShown.seconds = -377705116800 := by decide
  have hday : -epochDay ≤ t.date.dayNumber := by
    unfold Date.dayNumber daysBeforeYear; omega
  rw [hfirst, DateTime.instant]
  unfold epochDay at hday
  dsimp only
  omega

theorem firstShown_le_of_read {s : String} {t : Instant} (h : read? s = some t) :
    Instant.firstShown.seconds ≤ t.seconds := by
  obtain ⟨d, hd, h⟩ := Option.bind_eq_some_iff.1 h
  obtain ⟨hy, ho⟩ := fields_bounds hd
  unfold instant? at h
  split_ifs at h with h₁ h₂
  · cases h; exact firstShown_le_instant hy ho
  · dsimp only at h
    split_ifs at h
    cases h; exact firstShown_le_instant hy ho

end NearestHost.Rfc3339
