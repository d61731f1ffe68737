/-
  The query that an answer repeats.

  * `Echoes`: a text that stands for a double, with the fewest digits.
  * `echoes_display`: the texts of the coordinates do.
  * `printed_chosen`: what a run prints repeats its query.
  * `run_again`: the same query gives the same answer at any time.
  * `echo_identifies`: so a run with the repeated coordinates prints the same.
-/
import NearestHost.Proofs.Command.Run
import NearestHost.Proofs.Configuration.Rearranged
import NearestHost.Proofs.Decimal.Reading

namespace NearestHost.Command

/-- A text without an exponent that denotes a double as an argument of the command, and has the
    fewest digits of the texts that are read as it. -/
structure Echoes (text : String) (x : Float) : Prop where
  plain : Decimal.Plain text.toList
  denotes : Denotes text x
  fewest : ∀ other : String, Decimal.read? other = some x →
    Decimal.significantDigits text.toList ≤ Decimal.significantDigits other.toList

/-- The text about a query, with the texts of its coordinates. -/
def echoText (x y : String) : String :=
  "Request originated from " ++ ("[" ++ x ++ "," ++ y ++ "]")

/-! ## Texts without blanks -/

theorem not_isBlank_of_digit {c : Char} (h : c.isDigit = true) : Text.isBlank c = false := by
  have hrange := Char.isDigit_iff_toNat.1 h
  have hzero : '0'.toNat = 48 := rfl
  have hnine : '9'.toNat = 57 := rfl
  simp only [Text.isBlank, Text.inRanges, Text.blankRanges, List.any_cons, List.any_nil,
    Bool.or_eq_false_iff, Bool.and_eq_false_iff, decide_eq_false_iff_not, and_true]
  refine ⟨?_, ?_, ?_, ?_, ?_, ?_, ?_, ?_, ?_, ?_⟩ <;> omega

theorem not_isBlank_of_plain {cs : List Char} (h : Decimal.Plain cs) :
    ∀ c ∈ cs, Text.isBlank c = false := by
  obtain ⟨negative, text, whole, fraction, rfl, hpos⟩ := h
  have hdigits := hpos.digits_of
  have hsign : ∀ c ∈ if negative then ['-'] else [], Text.isBlank c = false := by
    cases negative with
    | true => exact List.forall_mem_singleton.2 (by decide)
    | false => exact List.forall_mem_nil _
  refine List.forall_mem_append.2 ⟨hsign, ?_⟩
  cases hpos with
  | whole _ digits => exact fun c hc => not_isBlank_of_digit (digits c hc)
  | pointed _ digits _ more =>
    refine List.forall_mem_append.2 ⟨fun c hc => not_isBlank_of_digit (digits c hc), ?_⟩
    exact List.forall_mem_cons.2 ⟨by decide, fun c hc => not_isBlank_of_digit (more c hc)⟩

theorem trimmed_self {cs : List Char} (h : ∀ c ∈ cs, Text.isBlank c = false) :
    Text.Trimmed cs cs where
  split := ⟨[], [], by rw [List.nil_append, List.append_nil], nofun, nofun⟩
  first c hc := h c (List.mem_of_mem_head? hc)
  last c hc := h c (List.mem_of_getLast? hc)

/-- **The text of a double stands for it.** -/
theorem echoes_display {x : Float} (hx : Double.isFinite x) : Echoes (Decimal.display x) x where
  plain := Decimal.plain_display hx
  denotes := by
    refine ⟨(Decimal.display x).toList,
      trimmed_self (not_isBlank_of_plain (Decimal.plain_display hx)), ?_⟩
    rw [String.ofList_toList, Decimal.read?_display hx]
  fewest _ h := Decimal.significantDigits_display_le hx h

theorem requestText_eq (q : Point) : Answer.requestText q =
    echoText (Decimal.display q.latitude) (Decimal.display q.longitude) := rfl

/-! ## Runs -/

section

variable {s : Setting} {args : List String} {c : Configuration} {q : Point}

/-- Arguments that are accepted are so at any time, where the configuration gives its own. -/
theorem loadFile_now {now now' : Instant} {file : Configuration.File} {bs : List UInt8}
    {tree : Json.Tree} (hfile : file = .opened ⟨bs, .complete⟩)
    (hw : Json.Written tree.lexemes bs) (htime : Configuration.GivesTime tree)
    (h : Configuration.loadFile now file = .ok c) : Configuration.loadFile now' file = .ok c := by
  obtain ⟨source, hsource, hload⟩ := Configuration.loadFile_eq_ok.1 h
  rw [hfile] at hsource
  cases hsource
  obtain ⟨hdecode, hall⟩ := Configuration.load_eq_ok.1 hload
  have hsame : Configuration.decode now' _ = .ok c :=
    Configuration.decode_rearranged hw htime .refl hw hdecode
  exact Configuration.loadFile_eq_ok.2 ⟨_, hfile, Configuration.load_eq_ok.2 ⟨hsame, hall⟩⟩

/-- What a run prints that ends well, where there are hosts. -/
theorem printed_chosen {t : Trigonometry} (ht : t.Sound) (hm : s.metric = greatCircle t)
    (h : Accepted s args c q) (hhosts : c.hosts ≠ []) (hexit : (run s args).exitCode = 0) :
    ∃ a, (Service.answer ⟨s.metric, c⟩ q).result = some a ∧
      (run s args).ending = .printed (output s.terminal a) ∧
      Answer.Record.text (echoText (Decimal.display q.latitude) (Decimal.display q.longitude)) ∈
        a := by
  obtain ⟨a, ha, hending⟩ := printed_of_accepted h (not_stopped hexit)
  refine ⟨a, ha, hending, ?_⟩
  cases hselect : Service.select ⟨s.metric, c⟩ q with
  | none =>
    have hfail := Service.result_of_none hselect
    rw [ha] at hfail
    exact absurd ((fail_iff_of_accepted ht hm h ha).1 (Option.some.inj hfail)) hhosts
  | some chosen =>
    rw [Service.result_of_some hselect] at ha
    obtain ⟨time, -, rfl⟩ := Option.map_eq_some_iff.1 ha
    exact .tail _ (.tail _ (.tail _ (.head _)))

/-- The same query gives the same answer at any time. -/
theorem run_again {path x y : String} {rest : List String} (s' : Setting)
    (hm : s'.metric = s.metric) (hterminal : s'.terminal = s.terminal)
    (h : Accepted s' (path :: x :: y :: rest) c q) {a : Answer}
    (ha : (Service.answer ⟨s.metric, c⟩ q).result = some a) :
    (run s' (path :: x :: y :: rest)).ending = .printed (output s.terminal a) := by
  rw [ending_of_accepted h, hm, ha, hterminal]

end

/-- **The coordinates of an answer identify its query.**  The text about the query repeats both
    coordinates, and a run with these prints the same again. -/
theorem echo_identifies :
    (∀ q : Point, Double.isFinite q.latitude → Double.isFinite q.longitude →
      ∀ (host : Host) (time : Instant) (a : Answer), Answer.build? q (some host) time = some a →
        ∃ x y, Answer.Record.text (echoText x y) ∈ a ∧
          Echoes x q.latitude ∧ Echoes y q.longitude) ∧
    ∀ (t : Trigonometry) (s : Setting) (path latitude longitude : String) (rest : List String)
      (bs : List UInt8) (tree : Json.Tree), t.Sound → s.metric = greatCircle t →
      s.files path = .opened ⟨bs, .complete⟩ → Json.Written tree.lexemes bs →
      Configuration.GivesTime tree →
      (∀ c, Configuration.loadFile s.now (s.files path) = .ok c → c.hosts ≠ []) →
      (run s (path :: latitude :: longitude :: rest)).exitCode = 0 →
        ∃ c q a x y, Accepted s (path :: latitude :: longitude :: rest) c q ∧
          (run s (path :: latitude :: longitude :: rest)).stdout = output s.terminal a ∧
          Answer.Record.text (echoText x y) ∈ a ∧ Echoes x q.latitude ∧ Echoes y q.longitude ∧
          ∀ (program : String) (now : Instant) (rest' : List String),
            let again := run { s with program := program, now := now } (path :: x :: y :: rest')
            again.exitCode = 0 ∧
              again.stdout = (run s (path :: latitude :: longitude :: rest)).stdout := by
  constructor
  · intro q hlat hlon host time a ha
    obtain ⟨text, -, rfl⟩ := Option.map_eq_some_iff.1 ha
    refine ⟨_, _, ?_, echoes_display hlat, echoes_display hlon⟩
    simp only [requestText_eq, List.mem_cons, true_or, or_true]
  · intro t s path latitude longitude rest bs tree ht hm hfile hw htime hhosts hexit
    obtain ⟨c, q, h⟩ := accepted_of_exitCode hexit
    have hsame := h
    obtain ⟨hload, hlat, hlon, hq⟩ := hsame
    obtain ⟨hfinlat, hfinlon⟩ := Globe.isFinite_of_inRange hq
    obtain ⟨a, ha, hending, hmem⟩ := printed_chosen ht hm h (hhosts c hload) hexit
    have hstdout : (run s (path :: latitude :: longitude :: rest)).stdout =
        output s.terminal a := by rw [Outcome.stdout, hending]
    have hlatitude := echoes_display hfinlat
    have hlongitude := echoes_display hfinlon
    refine ⟨c, q, a, _, _, h, hstdout, hmem, hlatitude, hlongitude, ?_⟩
    intro program now rest' again
    have haccepted : Accepted { s with program := program, now := now }
        (path :: Decimal.display q.latitude :: Decimal.display q.longitude :: rest') c q :=
      .mk (loadFile_now hfile hw htime hload) hlatitude.denotes hlongitude.denotes hq
    have hagain : again.ending = .printed (output s.terminal a) := run_again _ rfl rfl haccepted ha
    exact ⟨by rw [Outcome.exitCode, hagain], by rw [hstdout, Outcome.stdout, hagain]⟩

/-- A configuration that gives its time, for an output that is no terminal. -/
def echoSetting : Setting :=
  ⟨"geocrab", greatCircle Service.halfTurns,
    fun _ => .opened ⟨Configuration.sample [], .complete⟩, ⟨0, 0⟩, false⟩

/-- A zero with its sign, and the point opposite to the host. -/
def echoArguments : List String := ["hosts.json", "-0.0", "18e1"]

theorem echoSetting_hosts (c : Configuration)
    (h : Configuration.loadFile echoSetting.now (echoSetting.files "hosts.json") = .ok c) :
    c.hosts ≠ [] := by
  have hlen : (match Configuration.loadFile ⟨0, 0⟩
      (.opened ⟨Configuration.sample [], .complete⟩) with
    | .ok c => c.hosts.length
    | .error _ => 0) = 1 := by decide +kernel
  have hload : Configuration.loadFile ⟨0, 0⟩ (.opened ⟨Configuration.sample [], .complete⟩) =
      .ok c := h
  simp only [hload] at hlen
  exact List.ne_nil_of_length_pos (by rw [hlen]; exact Nat.one_pos)

/-- The coordinates `-0.0` and `18e1` come back as texts of the same doubles, and these are answered
    alike at any time. -/
theorem echo_identifies_sample : (run echoSetting echoArguments).exitCode = 0 ∧
    (∃ a x y, Answer.build? ⟨-0, 180⟩ (some ⟨"h", ⟨0, 0⟩, .v4 ⟨1, 2, 3, 4⟩⟩) ⟨0, 0⟩ = some a ∧
      Answer.Record.text (echoText x y) ∈ a ∧ Echoes x (-0) ∧ Echoes y 180) ∧
    ∃ c q x y, Accepted echoSetting echoArguments c q ∧ Echoes x q.latitude ∧
      Echoes y q.longitude ∧ ∀ now,
        (run { echoSetting with now := now } ["hosts.json", x, y]).stdout =
          (run echoSetting echoArguments).stdout := by
  have hexit : (run echoSetting echoArguments).exitCode = 0 := by decide +kernel
  obtain ⟨hecho, hagain⟩ := echo_identifies
  refine ⟨hexit, ?_, ?_⟩
  · obtain ⟨a, ha⟩ : ∃ a, Answer.build? ⟨-0, 180⟩ (some ⟨"h", ⟨0, 0⟩, .v4 ⟨1, 2, 3, 4⟩⟩) ⟨0, 0⟩ =
        some a := Option.isSome_iff_exists.1 (by decide +kernel)
    obtain ⟨x, y, hmem, hx, hy⟩ := hecho ⟨-0, 180⟩ (by decide) (by decide) _ _ a ha
    exact ⟨a, x, y, ha, hmem, hx, hy⟩
  · obtain ⟨c, q, a, x, y, haccepted, -, -, hx, hy, hsame⟩ :=
      hagain Service.halfTurns echoSetting "hosts.json" "-0.0" "18e1" []
        (Configuration.sample []) _ Service.halfTurns_sound rfl rfl
        (Configuration.written_sample []) Configuration.givesTime_sample echoSetting_hosts hexit
    exact ⟨c, q, x, y, haccepted, hx, hy, fun now => (hsame "geocrab" now []).2⟩

end NearestHost.Command
