/-
  Queries without an answer.

  The time of a configuration may have an offset, and the answer shows it in UTC.

  * `result_eq_none_iff`: an answer is missing where a host is chosen and the
    time cannot be shown.
  * `unanswered_iff_late`: for a loaded configuration, where the time is in the
    year 10000 or later in UTC.
  * `late_unanswered`: such a configuration loads.
-/
import NearestHost.Proofs.Calendar.Rfc3339
import NearestHost.Proofs.Configuration.Time
import NearestHost.Proofs.Service.Selection

namespace NearestHost.Service

section

variable {s : Service} {query : Point}

theorem result_eq_none_iff : (s.answer query).result = none ↔
    (s.select query).isSome ∧ s.configuration.generatedAt.text? = none := by
  cases hs : s.select query with
  | none => simp [result_of_none hs]
  | some c => simp [result_of_some hs]

theorem resultDns_eq_none_iff :
    (s.answerDns query).result = none ↔ (s.answer query).result = none := by
  simp only [answerDns, Option.map_eq_none_iff]

end

/-- The time of a loaded configuration is not too early to be shown. -/
theorem firstShown_le_of_load {now : Instant} {source : Json.Source} {c : Configuration}
    (hnow : Instant.showable now.utcDate.year) (hc : Configuration.load now source = .ok c) :
    Instant.firstShown.seconds ≤ c.generatedAt.seconds := by
  rcases Configuration.generatedAt_of_decode (Configuration.load_eq_ok.1 hc).1 with h | ⟨s, h⟩
  · rw [h]; exact ((Instant.showable_iff now).1 hnow).1
  · exact Rfc3339.firstShown_le_of_read h

/-- **A query to a loaded configuration has no answer** where a host is chosen and the time of the
    configuration lies in the year 10000 or later in UTC. -/
theorem unanswered_iff_late {now : Instant} (hnow : Instant.showable now.utcDate.year)
    {file : Configuration.File} {c : Configuration} (hc : Configuration.loadFile now file = .ok c)
    (metric : Metric) (query : Point) :
    let s : Service := ⟨metric, c⟩
    ((s.answer query).result = none ↔
        (s.select query).isSome ∧ Instant.tooLate.seconds ≤ c.generatedAt.seconds) ∧
      ((s.answerDns query).result = none ↔
        (s.select query).isSome ∧ Instant.tooLate.seconds ≤ c.generatedAt.seconds) := by
  intro s
  obtain ⟨source, -, hload⟩ := Configuration.loadFile_eq_ok.1 hc
  have hfirst := firstShown_le_of_load hnow hload
  have hnone : (s.answer query).result = none ↔
      (s.select query).isSome ∧ Instant.tooLate.seconds ≤ c.generatedAt.seconds := by
    rw [result_eq_none_iff, Instant.text_eq_none_iff]
    refine and_congr_right fun _ => ?_
    change c.generatedAt.seconds < _ ∨ _ ≤ c.generatedAt.seconds ↔ _
    omega
  exact ⟨hnone, resultDns_eq_none_iff.trans hnone⟩

/-- The last second of the year 9999, an hour behind UTC. -/
def late : Json.Source :=
  ⟨("\x7b\"name\":\"a.example\",\"generated_at\":\"9999-12-31T23:59:59-01:00\",\"hosts\":" ++
    "[\x7b\"name\":\"h\",\"latitude\":0,\"longitude\":0,\"ip\":\"1.2.3.4\"\x7d]\x7d").toList.map
      Json.byteOf, .complete⟩

/-- It loads, its host is chosen for a query, and its time is too late to be shown. -/
theorem late_loaded : ∃ c, Configuration.loadFile ⟨0, 0⟩ (.opened late) = .ok c ∧
    (select ⟨greatCircle .native, c⟩ ⟨0, 0⟩).isSome ∧
      Instant.tooLate.seconds ≤ c.generatedAt.seconds := by
  have hc : (match Configuration.loadFile ⟨0, 0⟩ (.opened late) with
    | .ok c => (select ⟨greatCircle .native, c⟩ ⟨0, 0⟩).isSome &&
        decide (Instant.tooLate.seconds ≤ c.generatedAt.seconds)
    | .error _ => false) = true := by decide +kernel
  cases h : Configuration.loadFile ⟨0, 0⟩ (.opened late) with
  | error e => rw [h] at hc; cases hc
  | ok c =>
    simp only [h, Bool.and_eq_true, decide_eq_true_iff] at hc
    exact ⟨c, rfl, hc⟩

/-- A query to it has no answer. -/
theorem late_unanswered : Instant.showable (Instant.mk 0 0).utcDate.year ∧ ∃ c,
    Configuration.loadFile ⟨0, 0⟩ (.opened late) = .ok c ∧
      (answer ⟨greatCircle .native, c⟩ ⟨0, 0⟩).result = none ∧
      (answerDns ⟨greatCircle .native, c⟩ ⟨0, 0⟩).result = none := by
  have hnow : Instant.showable (Instant.mk 0 0).utcDate.year := by decide
  obtain ⟨c, hc, hlate⟩ := late_loaded
  obtain ⟨hanswer, hdns⟩ := unanswered_iff_late hnow hc (greatCircle .native) ⟨0, 0⟩
  exact ⟨hnow, c, hc, hanswer.2 hlate, hdns.2 hlate⟩

/-- So not every configuration that loads can be served. -/
theorem not_always_answered : ¬ ∀ now file c, Configuration.loadFile now file = .ok c →
    ∀ query, (answer ⟨greatCircle .native, c⟩ query).result ≠ none := by
  intro h
  obtain ⟨c, hc, hsome, hlate⟩ := late_loaded
  exact h ⟨0, 0⟩ (.opened late) c hc ⟨0, 0⟩
    (result_eq_none_iff.2 ⟨hsome, (Instant.text_eq_none_iff _).2 (Or.inr hlate)⟩)

end NearestHost.Service
