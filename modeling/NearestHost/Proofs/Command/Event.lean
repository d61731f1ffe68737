/-
  What a query logs, and what it answers.

  * `does_answering`: a query logs one event, also where its answer cannot be given.
  * `isFinite_of_select`: the distance of a chosen host is finite.
  * `event_agrees`: the event and the answer of a query are about the same host.
-/
import NearestHost.Proofs.Calendar.Year
import NearestHost.Proofs.Command.Log
import NearestHost.Proofs.Decimal.Fixed
import NearestHost.Proofs.Globe.Overflow
import NearestHost.Proofs.Service.Selection

namespace NearestHost.Command

open Double

/-! ## Events -/

/-- The result of a query: it stops where there is none. -/
def resultOf {α : Type} : Option α → Except Halt α
  | none => .error .stopped
  | some a => .ok a

section

variable {s : Service} {q : Point}

theorem event_of_none (h : s.select q = none) : (s.answer q).event =
    ⟨.warn, Log.serviceTarget, "no hosts configured, failing query"⟩ := by
  rw [Service.answer, h]
  rfl

theorem event_of_some {chosen : Selection} (h : s.select q = some chosen) :
    (s.answer q).event = ⟨.debug, Log.serviceTarget, Service.chosenMessage q chosen⟩ := by
  rw [Service.answer, h]
  rfl

end

theorem target_event (s : Service) (q : Point) : (s.answer q).event.target = Log.serviceTarget := by
  cases h : s.select q with
  | none => rw [event_of_none h]
  | some chosen => rw [event_of_some h]

/-- A query logs its event and nothing else, also where it stops. -/
theorem does_answering (s : Service) (q : Point) :
    (answering s q).Does [(s.answer q).event] "" (resultOf (s.answer q).result) := by
  cases h : (s.answer q).result with
  | none => exact does_answering_none h
  | some a => exact does_answering_some h

theorem does_answeringDns (s : Service) (q : Point) :
    (answeringDns s q).Does [(s.answer q).event] "" (resultOf (s.answerDns q).result) := by
  rw [answeringDns, Service.answerDns]
  cases h : (s.answer q).result with
  | none => exact (does_answering_none h).bind_error
  | some a => exact (does_answering_some h).bind (does_pure (s.toDns a))

/-! ## Distances -/

/-- The distance of a chosen host is finite, whatever the coordinates are. -/
theorem isFinite_of_select {t : Trigonometry} (ht : ∀ x, ¬ t.acos x < 0) {q : Point}
    {hosts : List Host} {chosen : Selection}
    (h : Host.select (greatCircle t) q hosts = some chosen) : isFinite chosen.distance = true := by
  have hfirst := Host.select_eq_some.1 h
  refine isFinite_of_below ?_ hfirst.below
  rw [hfirst.distance]
  exact Globe.not_neg_greatCircle ht q chosen.host.location

/-- So it is written rounded to one decimal place. -/
theorem rounded_of_select {t : Trigonometry} (ht : ∀ x, ¬ t.acos x < 0) {q : Point}
    {hosts : List Host} {chosen : Selection}
    (h : Host.select (greatCircle t) q hosts = some chosen) :
    Decimal.Rounded (Decimal.oneDecimal chosen.distance)
      (greatCircle t q chosen.host.location) := by
  rw [← (Host.select_eq_some.1 h).distance]
  exact Decimal.rounded_oneDecimal (isFinite_of_select ht h)

/-! ## Events and answers -/

/-- **A query logs one event, and it agrees with the answer**, also where the answer cannot be
    given.  It warns where no host is chosen.  Where one is chosen, the event and the answer have its
    name, its address and the coordinates of the query, and the distance in the event is rounded to
    one decimal place. -/
theorem event_agrees {t : Trigonometry} (ht : ∀ x, ¬ t.acos x < 0) (c : Configuration) (q : Point) :
    let s : Service := ⟨greatCircle t, c⟩
    let chosen := Host.nearest? (greatCircle t) q c.hosts
    let result := (s.answer q).result
    result = Answer.build? q chosen c.generatedAt ∧
      ∃ e : Log.Event, e.target = "geocrab::resolver" ∧
        (answering s q).Does [e] "" (resultOf result) ∧
        (answeringDns s q).Does [e] "" (resultOf (result.map s.toDns)) ∧
        (chosen = none → e.level = .warn ∧ e.message = "no hosts configured, failing query" ∧
          result = some [.fail]) ∧
        ∀ h, chosen = some h → e.level = .debug ∧
          (∃ kilometres, Decimal.Rounded kilometres (greatCircle t q h.location) ∧
            e.message = "chose \"" ++ h.name ++ "\" (" ++ h.address.toString ++ ") at " ++
              kilometres ++ "km for " ++ Answer.pointText q) ∧
          ∀ a, result = some a → ∃ time,
            a = [.address h.address, .text ("GeoScaling config last auto-updated: " ++ time),
              .text ("Chosen closest host is " ++ h.name),
              .text ("Request originated from " ++ Answer.pointText q)] := by
  intro s chosen result
  refine ⟨rfl, (s.answer q).event, target_event s q, does_answering s q, does_answeringDns s q, ?_⟩
  cases hs : s.select q with
  | none =>
    have hnone : chosen = none := congrArg (Option.map Selection.host) hs
    refine ⟨fun _ => ?_, fun h hh => ?_⟩
    · rw [event_of_none hs]
      exact ⟨rfl, rfl, Service.result_of_none hs⟩
    · cases hnone.symm.trans hh
  | some selected =>
    have hsome : chosen = some selected.host := congrArg (Option.map Selection.host) hs
    refine ⟨fun hnone => ?_, fun h hh => ?_⟩
    · cases hsome.symm.trans hnone
    · obtain rfl : selected.host = h := Option.some.inj (hsome.symm.trans hh)
      rw [event_of_some hs]
      refine ⟨rfl, ⟨_, rounded_of_select ht hs, rfl⟩, fun a ha => ?_⟩
      have hanswer := (Service.result_of_some hs).symm.trans ha
      obtain ⟨time, -, rfl⟩ := Option.map_eq_some_iff.1 hanswer
      exact ⟨time, rfl⟩

theorem nearest?_singleton {metric : Metric} {q : Point} {h : Host}
    (hbelow : metric q h.location < ofMagnitude false infinity) :
    Host.nearest? metric q [h] = some h :=
  congrArg (Option.map Selection.host) (if_pos hbelow)

/-- One host, at the longitude 180. -/
def opposite (time : Instant) : Configuration :=
  ⟨⟨[], true⟩, 60, time, [⟨"h", ⟨0, 180⟩, .v4 ⟨1, 2, 3, 4⟩⟩]⟩

theorem nearest?_opposite (time : Instant) :
    Host.nearest? (greatCircle Service.halfTurns) ⟨0, 0⟩ (opposite time).hosts =
      some ⟨"h", ⟨0, 180⟩, .v4 ⟨1, 2, 3, 4⟩⟩ := by
  have hbelow : greatCircle Service.halfTurns ⟨0, 0⟩ ⟨0, 180⟩ < ofMagnitude false infinity := by
    decide +kernel
  exact nearest?_singleton hbelow

/-- The event about this host, once without an answer, at a time that is too late to be shown, and
    once with an answer about the same host. -/
theorem event_agrees_opposite : (∀ x, ¬ Service.halfTurns.acos x < 0) ∧
    (∃ e kilometres,
      (answering ⟨greatCircle Service.halfTurns, opposite Instant.tooLate⟩ ⟨0, 0⟩).Does [e] ""
        (.error .stopped) ∧
      (answeringDns ⟨greatCircle Service.halfTurns, opposite Instant.tooLate⟩ ⟨0, 0⟩).Does [e] ""
        (.error .stopped) ∧
      e.level = .debug ∧
      e.message = "chose \"h\" (1.2.3.4) at " ++ kilometres ++ "km for [0,0]" ∧
      Decimal.Rounded kilometres (greatCircle Service.halfTurns ⟨0, 0⟩ ⟨0, 180⟩)) ∧
    ∃ e time,
      (answering ⟨greatCircle Service.halfTurns, opposite ⟨0, 0⟩⟩ ⟨0, 0⟩).Does [e] ""
        (.ok [.address (.v4 ⟨1, 2, 3, 4⟩), .text ("GeoScaling config last auto-updated: " ++ time),
          .text "Chosen closest host is h", .text "Request originated from [0,0]"]) ∧
      e.level = .debug := by
  have hquery : Answer.pointText ⟨0, 0⟩ = "[0,0]" := by decide +kernel
  refine ⟨Service.not_neg_acos_halfTurns, ?_, ?_⟩
  · have hlate : (opposite Instant.tooLate).generatedAt.text? = none :=
      (Instant.text_eq_none_iff _).2 (Or.inr le_rfl)
    obtain ⟨hresult, e, -, hanswering, hdns, -, hchosen⟩ :=
      event_agrees Service.not_neg_acos_halfTurns (opposite Instant.tooLate) ⟨0, 0⟩
    obtain ⟨hlevel, ⟨kilometres, hrounded, hmessage⟩, -⟩ := hchosen _ (nearest?_opposite _)
    have hnone : (Service.answer ⟨greatCircle Service.halfTurns, opposite Instant.tooLate⟩
        ⟨0, 0⟩).result = none := by
      rw [hresult, nearest?_opposite, Answer.build?, hlate]
      rfl
    have haddress : (Address.v4 ⟨1, 2, 3, 4⟩).toString = "1.2.3.4" := by decide +kernel
    have hchose : "chose \"" ++ "h" ++ "\" (" ++ "1.2.3.4" ++ ") at " =
        "chose \"h\" (1.2.3.4) at " := by decide
    have hfor : "km for " ++ "[0,0]" = "km for [0,0]" := by decide
    rw [hnone] at hanswering hdns
    rw [hquery, haddress, String.append_assoc, hfor, hchose] at hmessage
    exact ⟨e, kilometres, hanswering, hdns, hlevel, hmessage, hrounded⟩
  · obtain ⟨hresult, e, -, hanswering, -, -, hchosen⟩ :=
      event_agrees Service.not_neg_acos_halfTurns (opposite ⟨0, 0⟩) ⟨0, 0⟩
    obtain ⟨hlevel, -, hrecords⟩ := hchosen _ (nearest?_opposite _)
    obtain ⟨a, ha⟩ : ∃ a, (Service.answer ⟨greatCircle Service.halfTurns, opposite ⟨0, 0⟩⟩
        ⟨0, 0⟩).result = some a := by
      rw [hresult, nearest?_opposite]
      exact Option.isSome_iff_exists.1 (by decide +kernel)
    obtain ⟨time, hanswer⟩ := hrecords a ha
    have hchosenText : "Chosen closest host is " ++ "h" = "Chosen closest host is h" := by decide
    have horigin : "Request originated from " ++ "[0,0]" = "Request originated from [0,0]" := by
      decide
    rw [hquery, hchosenText, horigin] at hanswer
    rw [ha, hanswer] at hanswering
    exact ⟨e, time, hanswering, hlevel⟩

end NearestHost.Command
