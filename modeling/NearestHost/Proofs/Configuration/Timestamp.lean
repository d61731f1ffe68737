/-
  The time of a configuration, however it is written.

  * `TimePlace`: where a text gives the time, in an object or in an array.
  * `draftOf_fill`: another value in that place changes the time that is read, and
    nothing else.
  * `answer_of_sameSecond`: answers show the second of the time in UTC.
  * `load_of_timestamp`: so a timestamp in range gives its instant, one out of range is
    refused, and two that denote one instant give the same answers.
-/
import NearestHost.Proofs.Calendar.Timestamp
import NearestHost.Proofs.Configuration.Place
import NearestHost.Service

namespace NearestHost.Configuration

open Json (Quoted Tree Written orData categorized)
open Rfc3339 (Timestamp)

/-! ## Another value for the time -/

/-- Where a text gives the time of a configuration: in a member of the object, between others, or
    after the name and the time to live in an array. -/
inductive TimePlace
  | member (before after : List (Quoted × Tree)) (key : Quoted)
      (name : key.text? = some "generated_at")
  | element (name ttl : Tree) (after : List Tree)

/-- The value with another one in that place. -/
def TimePlace.fill : TimePlace → Tree → Tree
  | member before after key _, v => .object (before ++ (key, v) :: after)
  | element name ttl after, v => .array (name :: ttl :: v :: after)

variable {d : Draft} {place : TimePlace} {v : Tree}

/-- **Another value for the time** changes what is given to this field, and nothing else. -/
theorem draftOf_fill (h : draftOf (place.fill v) = .ok d) (v' : Tree) :
    draftOf (place.fill v') = (Field.generatedAt.read v').map d.give := by
  cases place with
  | member before after key name =>
    exact Place.draftOf_fill (.member before after key name rfl) h v'
  | element name ttl after =>
    exact Place.draftOf_fill (.element [name, ttl] after rfl) h v'

/-! ## Loading -/

variable {now : Instant} {bs bs' : List UInt8} {c : Configuration} {x : String}

/-- A text with a string for the time, in any layout and with any escapes. -/
def TimePlace.Holds (place : TimePlace) (x : String) (bs : List UInt8) : Prop :=
  ∃ q : Quoted, q.text? = some x ∧ Written (place.fill (.scalar (.text q))).lexemes bs

theorem configuration_give (now now' t : Instant) (d : Draft) :
    (d.give (.generatedAt t)).configuration? now' =
      (d.configuration? now).map fun c => { c with generatedAt := t } := by
  obtain ⟨name, _, _, _⟩ := d
  cases name <;> rfl

theorem read_text {q : Quoted} (h : q.text? = some x) :
    Field.generatedAt.read (.scalar (.text q)) = (orData (Rfc3339.read? x)).map .generatedAt :=
  read_quoted h

/-- **A string in the place of the time** is read as an instant, or refused. -/
theorem decode_text (hbs : Written (place.fill v).lexemes bs)
    (h : decode now ⟨bs, .complete⟩ = .ok c) (hx : place.Holds x bs') (now' : Instant) :
    decode now' ⟨bs', .complete⟩ =
      categorized (orData ((Rfc3339.read? x).map fun t => { c with generatedAt := t })) := by
  obtain ⟨q, hq, hbs'⟩ := hx
  rw [decode_tree hbs] at h
  obtain ⟨d, hd, hconfiguration⟩ := Json.bind_eq_ok.1 (Json.categorized_eq_ok.1 h)
  have hc := Json.orData_eq_ok.1 hconfiguration
  rw [decode_tree hbs', configurationOf, draftOf_fill hd, read_text hq]
  cases Rfc3339.read? x with
  | none => rfl
  | some t =>
    change categorized (orData ((d.give (.generatedAt t)).configuration? now')) = _
    rw [configuration_give now, hc]
    rfl

theorem load_of_read (hbs : Written (place.fill v).lexemes bs)
    (h : load now ⟨bs, .complete⟩ = .ok c) (hx : place.Holds x bs') {t : Instant}
    (ht : Rfc3339.read? x = some t) (now' : Instant) :
    load now' ⟨bs', .complete⟩ = .ok { c with generatedAt := t } := by
  obtain ⟨hdecode, hall⟩ := load_eq_ok.1 h
  refine load_of_inRange ?_ hall
  rw [decode_text hbs hdecode hx now', ht]
  rfl

theorem load_of_unread (hbs : Written (place.fill v).lexemes bs)
    (h : load now ⟨bs, .complete⟩ = .ok c) (hx : place.Holds x bs')
    (ht : Rfc3339.read? x = none) (now' : Instant) :
    load now' ⟨bs', .complete⟩ = .error (.invalidJson .data) := by
  refine load_of_error ?_
  rw [decode_text hbs (load_eq_ok.1 h).1 hx now', ht]
  rfl

/-! ## Answers -/

/-- **Answers show the second** of the time, and nothing else of it. -/
theorem answer_of_sameSecond {t t' : Instant} (h : t.seconds = t'.seconds) (c : Configuration)
    (metric : Metric) (query : Point) :
    Service.answer ⟨metric, { c with generatedAt := t }⟩ query =
        Service.answer ⟨metric, { c with generatedAt := t' }⟩ query ∧
      Service.answerDns ⟨metric, { c with generatedAt := t }⟩ query =
        Service.answerDns ⟨metric, { c with generatedAt := t' }⟩ query := by
  have hanswer : Service.answer ⟨metric, { c with generatedAt := t }⟩ query =
      Service.answer ⟨metric, { c with generatedAt := t' }⟩ query := by
    simp only [Service.answer, Service.select, Answer.build?, Instant.text_congr h]
  refine ⟨hanswer, ?_⟩
  rw [Service.answerDns, hanswer]
  rfl

/-- **The time of a configuration denotes its instant, however it is written.**  In a text that
    loads with any value for the time, a timestamp in range is read as its local time less the
    offset, and one with a date, an hour, a minute or an offset out of range is refused.  Timestamps
    of one second, and all the more those of one instant, give the same answers. -/
theorem load_of_timestamp (hbs : Written (place.fill v).lexemes bs)
    (hc : load now ⟨bs, .complete⟩ = .ok c) :
    (∀ (s : Timestamp) (bs' : List UInt8) (now' : Instant), place.Holds s.text bs' →
      (s.InRange →
        load now' ⟨bs', .complete⟩ = .ok { c with generatedAt := s.dateTime.instant } ∧
          s.dateTime.instant.utc.IsUtc s.dateTime) ∧
      (s.OutOfRange → load now' ⟨bs', .complete⟩ = .error (.invalidJson .data))) ∧
    ∀ (s s' : Timestamp) (bs₁ bs₂ : List UInt8) (now₁ now₂ : Instant),
      place.Holds s.text bs₁ → place.Holds s'.text bs₂ → s.InRange → s'.InRange →
        s.dateTime.instant.seconds = s'.dateTime.instant.seconds →
          ∃ c₁ c₂, load now₁ ⟨bs₁, .complete⟩ = .ok c₁ ∧ load now₂ ⟨bs₂, .complete⟩ = .ok c₂ ∧
            ∀ metric query, Service.answer ⟨metric, c₁⟩ query = Service.answer ⟨metric, c₂⟩ query ∧
              Service.answerDns ⟨metric, c₁⟩ query = Service.answerDns ⟨metric, c₂⟩ query := by
  constructor
  · intro s bs' now' hs
    constructor
    · intro hrange
      exact ⟨load_of_read hbs hc hs (Timestamp.read?_of_inRange hrange) now',
        (DateTime.isUtc_iff hrange.proper).2 rfl⟩
    · intro hrange
      exact load_of_unread hbs hc hs (Timestamp.read?_of_outOfRange hrange) now'
  · intro s s' bs₁ bs₂ now₁ now₂ hs hs' hrange hrange' hsecond
    exact ⟨_, _, load_of_read hbs hc hs (Timestamp.read?_of_inRange hrange) now₁,
      load_of_read hbs hc hs' (Timestamp.read?_of_inRange hrange') now₂,
      answer_of_sameSecond hsecond c⟩

/-! ## The leap day -/

/-- The time in the sample, between its name and its hosts. -/
def samplePlace : TimePlace :=
  .member [(plain "name", textTree "a")] [(plain "hosts", .array [sampleHost []])]
    (plain "generated_at") (by decide +kernel)

/-- The sample with a string for the time. -/
def sampleWith (x : String) : List UInt8 := spaced [] (samplePlace.fill (textTree x)).lexemes

theorem holds_sampleWith {x : String} (h : (plain x).text? = some x) :
    samplePlace.Holds x (sampleWith x) :=
  ⟨plain x, h, written_spaced (List.forall_mem_nil _) _⟩

/-- The evening of a leap day, two hours behind UTC, with ten digits in the fraction. -/
def leapDay : Timestamp where
  year := 2024
  month := 2
  day := 29
  divider := 'T'
  hour := 23
  minute := 30
  second := 5
  fraction := ['1', '2', '3', '4', '5', '6', '7', '8', '9', '9']
  zone := .shift true 2 0
  divider_ascii := by decide
  digits := List.all_eq_true.1 (by decide)

/-- The same second in UTC. -/
def afterLeapDay : Timestamp :=
  { leapDay with
    month := 3
    day := 1
    hour := 1
    fraction := []
    zone := .zulu false
    digits := List.forall_mem_nil _ }

/-- A leap day of another year. -/
def noLeapDay : Timestamp := { leapDay with year := 2023 }

theorem inRange_leapDay : leapDay.InRange :=
  ⟨⟨by decide, by decide, by decide, by decide⟩, by decide, by decide⟩

theorem inRange_afterLeapDay : afterLeapDay.InRange :=
  ⟨⟨by decide, by decide, by decide, by decide⟩, trivial⟩

theorem outOfRange_noLeapDay : noLeapDay.OutOfRange := .date (by decide)

/-- The leap day is read to the nanosecond, and answers do not tell it from its second in UTC. -/
theorem load_of_timestamp_leapDay : ∃ c, load ⟨0, 0⟩ ⟨sample [], .complete⟩ = .ok c ∧
    load ⟨7, 0⟩ ⟨sampleWith "2024-02-29T23:30:05.1234567899-02:00", .complete⟩ =
      .ok { c with generatedAt := ⟨1709256605, 123456789⟩ } ∧
    load ⟨7, 0⟩ ⟨sampleWith "2023-02-29T23:30:05.1234567899-02:00", .complete⟩ =
      .error (.invalidJson .data) ∧
    ∃ c₁ c₂,
      load ⟨7, 0⟩ ⟨sampleWith "2024-02-29T23:30:05.1234567899-02:00", .complete⟩ = .ok c₁ ∧
        load ⟨8, 0⟩ ⟨sampleWith "2024-03-01T01:30:05Z", .complete⟩ = .ok c₂ ∧
          ∀ metric query, Service.answer ⟨metric, c₁⟩ query = Service.answer ⟨metric, c₂⟩ query ∧
            Service.answerDns ⟨metric, c₁⟩ query = Service.answerDns ⟨metric, c₂⟩ query := by
  obtain ⟨c, hc⟩ := sample_loads
  have hbs : Written (samplePlace.fill (textTree "1970-01-01T00:00:00Z")).lexemes (sample []) :=
    written_sample []
  obtain ⟨hload, hanswers⟩ := load_of_timestamp hbs hc
  have htext : leapDay.text = "2024-02-29T23:30:05.1234567899-02:00" := by decide +kernel
  have htextNo : noLeapDay.text = "2023-02-29T23:30:05.1234567899-02:00" := by decide +kernel
  have htextAfter : afterLeapDay.text = "2024-03-01T01:30:05Z" := by decide +kernel
  have hleap : samplePlace.Holds leapDay.text (sampleWith leapDay.text) :=
    holds_sampleWith (by decide +kernel)
  have hno : samplePlace.Holds noLeapDay.text (sampleWith noLeapDay.text) :=
    holds_sampleWith (by decide +kernel)
  have hafter : samplePlace.Holds afterLeapDay.text (sampleWith afterLeapDay.text) :=
    holds_sampleWith (by decide +kernel)
  have hinstant : leapDay.dateTime.instant = ⟨1709256605, 123456789⟩ := by decide +kernel
  have hsecond : leapDay.dateTime.instant.seconds = afterLeapDay.dateTime.instant.seconds := by
    decide +kernel
  rw [← htext, ← htextNo, ← htextAfter, ← hinstant]
  exact ⟨c, hc, ((hload _ _ ⟨7, 0⟩ hleap).1 inRange_leapDay).1,
    (hload _ _ ⟨7, 0⟩ hno).2 outOfRange_noLeapDay,
    hanswers _ _ _ _ ⟨7, 0⟩ ⟨8, 0⟩ hleap hafter inRange_leapDay inRange_afterLeapDay hsecond⟩

end NearestHost.Configuration
