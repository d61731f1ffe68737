/-
  The host that a service chooses, and what it answers.

  * `select_first_nearest`: the chosen host is the first at the least distance,
    and the answer is about this host.
  * `select_of_loaded`: of the hosts of a loaded configuration one is chosen for
    every query, at a distance of at most half a turn.
-/
import NearestHost.Proofs.Configuration.Loading
import NearestHost.Proofs.Globe.Distance
import NearestHost.Proofs.Host.Nearest
import NearestHost.Service

namespace NearestHost.Service

open Double

/-! ## Any measure of distances -/

section

variable {s : Service} {query : Point}

/-- The records about a chosen host, with the time of the configuration. -/
def chosenAnswer (query : Point) (h : Host) (time : String) : Answer :=
  [.address h.address, .text ("GeoScaling config last auto-updated: " ++ time),
    .text ("Chosen closest host is " ++ h.name),
    .text ("Request originated from " ++ ("[" ++ Decimal.display query.latitude ++ "," ++
      Decimal.display query.longitude ++ "]"))]

theorem result_of_none (h : s.select query = none) : (s.answer query).result = some [.fail] := by
  simp only [answer, h]; rfl

theorem result_of_some {c : Selection} (h : s.select query = some c) :
    (s.answer query).result =
      s.configuration.generatedAt.text?.map (chosenAnswer query c.host) := by
  simp only [answer, h]; rfl

/-- An answer is a failure where no host is chosen. -/
theorem result_eq_fail_iff : (s.answer query).result = some [.fail] ↔ s.select query = none := by
  refine ⟨fun h => ?_, result_of_none⟩
  cases hs : s.select query with
  | none => rfl
  | some c =>
    rw [result_of_some hs, Option.map_eq_some_iff] at h
    obtain ⟨time, -, h⟩ := h
    cases h

/-- There are no records where no host is chosen. -/
theorem resultDns_eq_nil_iff :
    (s.answerDns query).result = some [] ↔ s.select query = none := by
  simp only [answerDns, Option.map_eq_some_iff]
  constructor
  · rintro ⟨a, ha, hnil⟩
    cases hs : s.select query with
    | none => rfl
    | some c =>
      rw [result_of_some hs, Option.map_eq_some_iff] at ha
      obtain ⟨time, -, rfl⟩ := ha
      exact absurd hnil (by simp [toDns, Dns.records, chosenAnswer, Dns.Data.ofAnswer?])
  · intro h
    exact ⟨_, result_of_none h, rfl⟩

end

/-- **The first host at the least distance is chosen**, and the answer has its address and its
    name. -/
theorem select_first_nearest (s : Service) (query : Point) :
    (∀ c, s.select query = some c ↔
        Host.FirstNearest s.metric query s.configuration.hosts c) ∧
      ((s.select query).isSome ↔ ∃ h ∈ s.configuration.hosts,
        s.metric query h.location < ofMagnitude false infinity) ∧
      (s.select query = none ↔ ∀ h ∈ s.configuration.hosts, isNaN (s.metric query h.location) ∨
        s.metric query h.location = ofMagnitude false infinity) ∧
      Host.nearest? s.metric query s.configuration.hosts = (s.select query).map Selection.host ∧
      (∀ c, s.select query = some c → (s.answer query).result =
        s.configuration.generatedAt.text?.map fun time =>
          [.address c.host.address, .text ("GeoScaling config last auto-updated: " ++ time),
            .text ("Chosen closest host is " ++ c.host.name),
            .text ("Request originated from " ++ ("[" ++ Decimal.display query.latitude ++ "," ++
              Decimal.display query.longitude ++ "]"))]) := by
  refine ⟨fun c => Host.select_eq_some, ?_, ?_, rfl, fun c => result_of_some⟩
  · rw [Option.isSome_iff_ne_none, Ne, select, Host.select_eq_none]
    push Not
    rfl
  · simp only [select, Host.select_eq_none, not_lt_infinity]

/-! ## Distances over the globe -/

section

variable {t : Trigonometry} {c : Configuration} {query : Point}

/-- Every host of a configuration has a distance. -/
theorem select_eq_none_iff (ht : t.Sound) (hc : ∀ h ∈ c.hosts, h.location.InRange)
    (hlat : isFinite query.latitude) (hlon : isFinite query.longitude) :
    select ⟨greatCircle t, c⟩ query = none ↔ c.hosts = [] := by
  rw [select, Host.select_eq_none]
  constructor
  · intro hnone
    refine List.eq_nil_iff_forall_not_mem.2 fun h hh => hnone h hh ?_
    exact lt_infinity (Globe.greatCircle_inRange ht hlat hlon (hc h hh)).1
  · intro hnil h hh
    rw [hnil] at hh; exact absurd hh List.not_mem_nil

end

/-- **For every query one of the hosts of a loaded configuration is chosen**, at a distance from
    zero to half a turn. -/
theorem select_of_loaded {t : Trigonometry} (ht : t.Sound) {now : Instant}
    {file : Configuration.File} {c : Configuration} (hc : Configuration.loadFile now file = .ok c)
    {query : Point} (hlat : isFinite query.latitude) (hlon : isFinite query.longitude) :
    let s : Service := ⟨greatCircle t, c⟩
    (s.select query = none ↔ c.hosts = []) ∧
      ((s.answer query).result = some [.fail] ↔ c.hosts = []) ∧
      ((s.answerDns query).result = some [] ↔ c.hosts = []) ∧
      ∀ chosen, s.select query = some chosen → isFinite chosen.distance ∧ 0 ≤ chosen.distance ∧
        chosen.distance ≤ Globe.earthRadius * t.acos (-1) := by
  intro s
  obtain ⟨source, -, hload⟩ := Configuration.loadFile_eq_ok.1 hc
  have hrange := (Configuration.load_eq_ok.1 hload).2
  have hnone : s.select query = none ↔ c.hosts = [] := select_eq_none_iff ht hrange hlat hlon
  refine ⟨hnone, result_eq_fail_iff.trans hnone, resultDns_eq_nil_iff.trans hnone, ?_⟩
  intro chosen hs
  have hfirst := Host.select_eq_some.1 hs
  rw [hfirst.distance]
  exact Globe.greatCircle_inRange ht hlat hlon (hrange _ (List.mem_of_getElem? hfirst.host))

/-- Functions of angles that are right at no turn and at half a turn, and coarse elsewhere. -/
def halfTurns : Trigonometry where
  sin _ := 0
  cos x := if x == 0 then 1 else -1
  acos x := if x == 1 then 0 else Globe.pi

theorem halfTurns_sound : halfTurns.Sound where
  sin {x} _ := by
    have h : -1 ≤ (0 : Float) ∧ (0 : Float) ≤ 1 := ⟨by decide, by decide⟩
    exact h
  cos {x} _ := by
    simp only [halfTurns]
    split <;> exact ⟨by decide, by decide⟩
  acos {x} _ _ := by
    have hneg : halfTurns.acos (-1) = Globe.pi := by decide
    rw [hneg]
    simp only [halfTurns]
    split <;> exact ⟨by decide, by decide⟩
  halfTurn := by decide

theorem not_neg_acos_halfTurns (x : Float) : ¬ halfTurns.acos x < 0 := by
  simp only [halfTurns]
  split <;> decide

/-- A configuration written as an array, with one host at the longitude 180. -/
def antipode : Json.Source :=
  ⟨("[\"a\",1,\"1970-01-01T00:00:00Z\",[\x7b\"name\":\"h\",\"latitude\":0," ++
    "\"longitude\":180,\"ip\":\"1.2.3.4\"\x7d]]").toList.map Json.byteOf, .complete⟩

theorem antipode_loads : ∃ c, Configuration.loadFile ⟨0, 0⟩ (.opened antipode) = .ok c ∧
    c.hosts.length = 1 := by
  have hlen : (match Configuration.loadFile ⟨0, 0⟩ (.opened antipode) with
    | .ok c => c.hosts.length
    | .error _ => 0) = 1 := by decide +kernel
  cases h : Configuration.loadFile ⟨0, 0⟩ (.opened antipode) with
  | error e => rw [h] at hlen; cases hlen
  | ok c => rw [h] at hlen; exact ⟨c, rfl, hlen⟩

/-- The host opposite to the query is chosen. -/
theorem select_of_loaded_antipode : halfTurns.Sound ∧ ∃ c,
    Configuration.loadFile ⟨0, 0⟩ (.opened antipode) = .ok c ∧ ∃ chosen,
      select ⟨greatCircle halfTurns, c⟩ ⟨0, 0⟩ = some chosen ∧ isFinite chosen.distance ∧
        0 ≤ chosen.distance ∧ chosen.distance ≤ Globe.earthRadius * halfTurns.acos (-1) := by
  refine ⟨halfTurns_sound, ?_⟩
  obtain ⟨c, hc, hlen⟩ := antipode_loads
  obtain ⟨hnone, -, -, hchosen⟩ := select_of_loaded halfTurns_sound hc
    (show isFinite (Point.mk 0 0).latitude by decide)
    (show isFinite (Point.mk 0 0).longitude by decide)
  refine ⟨c, hc, ?_⟩
  cases hs : select ⟨greatCircle halfTurns, c⟩ ⟨0, 0⟩ with
  | none => rw [hnone.1 hs] at hlen; cases hlen
  | some chosen => exact ⟨chosen, rfl, hchosen chosen hs⟩

end NearestHost.Service
