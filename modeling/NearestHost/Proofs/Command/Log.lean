/-
  The log of a run has no influence on the run.

  * `Step.Does`: the events, the output and the result of a part of a run, the
    same under every filter of the log.
  * `steps_does`: what a whole run does.
  * `execute_eq`: so what happens is what `run` says.
  * `Choice`: the settings of the log, and what each admits.
  * `log_without_influence`: runs with different settings leave the same but for
    the lines of the log, and of these each shows what its setting admits.
-/
import NearestHost.Command.Execution

namespace NearestHost.Command

/-! ## Parts of a run -/

/-- A part of a run with the given events, output and result, under every filter. -/
def Step.Does {α : Type} (m : Step α) (events : List Log.Event) (out : String)
    (r : Except Halt α) : Prop :=
  ∀ f w, m f w = (r, ⟨w.stdout ++ out, w.stderr ++ f.lines events⟩)

theorem lines_nil (f : Log.Filter) : f.lines [] = "" := rfl

theorem lines_cons (f : Log.Filter) (e : Log.Event) (es : List Log.Event) :
    f.lines (e :: es) = (if f.admits e then e.line else "") ++ f.lines es := by
  by_cases h : f.admits e = true
  · rw [if_pos h, Log.Filter.lines, List.filter_cons_of_pos h, List.map_cons, String.join_cons]
    rfl
  · rw [if_neg h, Log.Filter.lines, List.filter_cons_of_neg h, String.empty_append]
    rfl

theorem lines_append (f : Log.Filter) (es es' : List Log.Event) :
    f.lines (es ++ es') = f.lines es ++ f.lines es' := by
  rw [Log.Filter.lines, List.filter_append, List.map_append, String.join_append]
  rfl

section

variable {α β : Type} {m : Step α} {k : α → Step β} {es es' : List Log.Event} {out : String}

theorem does_pure (a : α) : (pure a : Step α).Does [] "" (.ok a) := by
  intro f w
  rw [lines_nil, String.append_empty, String.append_empty]
  rfl

theorem does_throw (h : Halt) : (throw h : Step α).Does [] "" (.error h) := by
  intro f w
  rw [lines_nil, String.append_empty, String.append_empty]
  rfl

theorem does_print (text : String) : (print text).Does [] text (.ok ()) := by
  intro f w
  rw [lines_nil, String.append_empty]
  rfl

theorem does_log (e : Log.Event) : (log e).Does [e] "" (.ok ()) := by
  intro f w
  have hlog : log e f w =
      if f.admits e then (.ok (), { w with stderr := w.stderr ++ e.line }) else (.ok (), w) := by
    change (if f.admits e = true then _ else _ : Step Unit) f w = _
    split <;> rfl
  rw [hlog, lines_cons, lines_nil, String.append_empty, String.append_empty]
  split
  · rfl
  · rw [String.append_empty]

/-- What follows a part of a run that goes on. -/
theorem Step.Does.bind {a : α} {r : Except Halt β} (hm : m.Does es "" (.ok a))
    (hk : (k a).Does es' out r) : (m >>= k).Does (es ++ es') out r := by
  intro f w
  have hbind : (m >>= k) f w = k a f ⟨w.stdout ++ "", w.stderr ++ f.lines es⟩ := by
    simp only [Bind.bind, ReaderT.bind, ExceptT.bind, ExceptT.mk, StateT.bind, hm f w]
    rfl
  rw [hbind, hk, lines_append, String.append_empty, String.append_assoc]

/-- Nothing follows a part of a run that halts. -/
theorem Step.Does.bind_error {h : Halt} (hm : m.Does es out (.error h)) :
    (m >>= k).Does es out (.error h) := by
  intro f w
  simp only [Bind.bind, ReaderT.bind, ExceptT.bind, ExceptT.mk, StateT.bind, hm f w]
  rfl

theorem does_records (rs : List Dns.Record) :
    Step.Does (rs.forM fun r => log (recordEvent r)) (rs.map recordEvent) "" (.ok ()) := by
  induction rs with
  | nil => exact does_pure ()
  | cons r rs ih => exact (does_log (recordEvent r)).bind ih

end

/-! ## Runs -/

/-- The result of a run, by its ending. -/
def Ending.result : Ending → Except Halt Unit
  | .printed _ => .ok ()
  | .failed e => .error (.failed e)
  | .stopped => .error .stopped

section

variable {s : Setting} {path latitude longitude : String} {service : Service} {c : Configuration}
  {q : Point} {a : Answer}

theorem does_loading_error {e : Configuration.LoadError}
    (h : Configuration.loadFile s.now (s.files path) = .error e) :
    (loading s path).Does [] "" (.error (.failed (.load e))) := by
  simp only [loading, h]
  exact does_throw (.failed (.load e))

theorem does_loading_ok (h : Configuration.loadFile s.now (s.files path) = .ok c) :
    (loading s path).Does [loadedEvent path c] "" (.ok c) := by
  simp only [loading, h]
  exact (does_log (loadedEvent path c)).bind (does_pure c)

theorem does_reading_error {e : Error} (h : query latitude longitude = .error e) :
    (reading latitude longitude).Does [] "" (.error (.failed e)) := by
  unfold reading
  simp only [h]
  exact does_throw (.failed e)

theorem does_reading_ok (h : query latitude longitude = .ok q) :
    (reading latitude longitude).Does [] "" (.ok q) := by
  unfold reading
  simp only [h]
  exact does_pure q

theorem does_answering_none (h : (service.answer q).result = none) :
    (answering service q).Does [(service.answer q).event] "" (.error .stopped) := by
  rw [answering]
  simp only [h]
  exact (does_log (service.answer q).event).bind (does_throw .stopped)

theorem does_answering_some (h : (service.answer q).result = some a) :
    (answering service q).Does [(service.answer q).event] "" (.ok a) := by
  rw [answering]
  simp only [h]
  exact (does_log (service.answer q).event).bind (does_pure a)

theorem does_telling (terminal : Bool) : (telling terminal service a).Does
    ((service.toDns a).map recordEvent) (output terminal a) (.ok ()) := by
  have hrecords := (does_records (service.toDns a)).bind
    (k := fun _ => print (output terminal a)) (does_print (output terminal a))
  rwa [List.append_nil] at hrecords

end

/-- **What a run does**, under every filter of the log. -/
theorem steps_does (s : Setting) (args : List String) :
    (steps s args).Does (run s args).events (run s args).stdout (run s args).ending.result := by
  match args with
  | [] | [_] | [_, _] => exact does_throw (.failed (.usage s.program))
  | path :: latitude :: longitude :: rest =>
    simp only [steps, run, runWith]
    cases hload : Configuration.loadFile s.now (s.files path) with
    | error e => exact (does_loading_error hload).bind_error
    | ok c =>
      cases hquery : query latitude longitude with
      | error e => exact (does_loading_ok hload).bind (does_reading_error hquery).bind_error
      | ok q =>
        have hread := does_reading_ok hquery
        cases hresult : (Service.answer ⟨s.metric, c⟩ q).result with
        | none =>
          simp only [ask, hresult]
          exact (does_loading_ok hload).bind (hread.bind (does_answering_none hresult).bind_error)
        | some a =>
          simp only [ask, hresult]
          exact (does_loading_ok hload).bind (hread.bind ((does_answering_some hresult).bind
            (does_telling s.terminal)))

/-- What is left by a run that happens is what `run` says. -/
theorem execute_eq (f : Log.Filter) (s : Setting) (args : List String) : execute f s args =
    ⟨(run s args).exitCode, ⟨(run s args).stdout, (run s args).stderr f⟩⟩ := by
  rw [execute, steps_does, String.empty_append, String.empty_append]
  simp only [Outcome.stderr, Outcome.report, Outcome.exitCode]
  cases (run s args).ending with
  | printed text => simp only [Ending.result, Trace.ofResult, String.append_empty]
  | failed e => rfl
  | stopped => simp only [Ending.result, Trace.ofResult, String.append_empty]

/-! ## Settings -/

/-- The settings of the log. -/
inductive Choice
  | unset
  | off
  | warn
  | info
  | debug
  | /-- what the part that answers queries tells -/ service
  deriving DecidableEq

/-- The text of a setting. -/
def Choice.text : Choice → Option String
  | .unset => none
  | .off => some "off"
  | .warn => some "geocrab=warn"
  | .info => some "geocrab=info"
  | .debug => some "geocrab=debug"
  | .service => some "geocrab::resolver=debug"

/-- Whether a setting admits an event, by its level and its target. -/
def Choice.admits (c : Choice) (e : Log.Event) : Bool :=
  match c with
  | .off => false
  | .warn => e.level = .warn
  | .unset | .info => e.level = .warn ∨ e.level = .info
  | .debug => true
  | .service => e.target = Log.serviceTarget

theorem ofSetting_text (c : Choice) : Log.Filter.ofSetting c.text = match c with
    | .off => .nothing
    | .warn => .ofTarget Log.programTarget.toList .warn
    | .unset | .info => .ofTarget Log.programTarget.toList .info
    | .debug => .ofTarget Log.programTarget.toList .debug
    | .service => .ofTarget Log.serviceTarget.toList .debug := by
  cases c <;> rfl

section

variable {e : Log.Event}

theorem isPrefixOf_program (h : e.target = Log.programTarget ∨ e.target = Log.serviceTarget) :
    Log.programTarget.toList.isPrefixOf e.target.toList = true := by
  rcases h with h | h <;> rw [h] <;> decide

theorem isPrefixOf_service (h : e.target = Log.programTarget ∨ e.target = Log.serviceTarget) :
    Log.serviceTarget.toList.isPrefixOf e.target.toList =
      decide (e.target = Log.serviceTarget) := by
  rcases h with h | h <;> rw [h] <;> decide

/-- The filter of a setting shows the events of the program that the setting admits. -/
theorem admits_eq (c : Choice)
    (h : e.target = Log.programTarget ∨ e.target = Log.serviceTarget) :
    (Log.Filter.ofSetting c.text).admits e = c.admits e := by
  rw [ofSetting_text]
  cases c with
  | off => rfl
  | unset | warn | info | debug =>
    simp only [Log.Filter.admits, isPrefixOf_program h, Bool.true_and, Choice.admits]
    cases e.level <;> rfl
  | service =>
    simp only [Log.Filter.admits, isPrefixOf_service h, Choice.admits]
    cases e.level <;> exact Bool.and_true _

end

/-- The target of an event is that of the program or of the part that answers queries. -/
theorem target_of_run (s : Setting) (args : List String) :
    ∀ e ∈ (run s args).events, e.target = Log.programTarget ∨ e.target = Log.serviceTarget := by
  intro e he
  match args with
  | [] | [_] | [_, _] => exact absurd he List.not_mem_nil
  | path :: latitude :: longitude :: rest =>
    simp only [run, runWith] at he
    cases hload : Configuration.loadFile s.now (s.files path) with
    | error e => rw [hload] at he; exact absurd he List.not_mem_nil
    | ok c =>
      cases hquery : query latitude longitude with
      | error e =>
        simp only [hload, hquery, List.mem_singleton] at he
        exact he ▸ .inl rfl
      | ok q =>
        have hevent : (Service.answer ⟨s.metric, c⟩ q).event.target = Log.serviceTarget := by
          simp only [Service.answer]
          cases Service.select ⟨s.metric, c⟩ q <;> rfl
        cases hresult : (Service.answer ⟨s.metric, c⟩ q).result with
        | none =>
          simp only [hload, hquery, ask, hresult, List.mem_append, List.mem_singleton] at he
          rcases he with rfl | rfl
          · exact .inl rfl
          · exact .inr hevent
        | some a =>
          simp only [hload, hquery, ask, hresult, List.mem_append, List.mem_singleton,
            List.mem_map] at he
          rcases he with (rfl | rfl) | ⟨r, -, rfl⟩
          · exact .inl rfl
          · exact .inr hevent
          · exact .inl rfl

theorem lines_eq (c : Choice) (s : Setting) (args : List String) :
    (Log.Filter.ofSetting c.text).lines (run s args).events =
      String.join (((run s args).events.filter c.admits).map Log.Event.line) := by
  rw [Log.Filter.lines, List.filter_congr fun e he => admits_eq c (target_of_run s args e he)]

/-- **The setting of the log has no influence on the answer.**  A run leaves the same exit code,
    the same output and the same report as the run with every line, and of the lines of that run
    it shows those that its setting admits. -/
theorem log_without_influence (s : Setting) (args : List String) (c : Choice) :
    let trace := execute (.ofSetting c.text) s args
    let full := execute (.ofSetting Choice.debug.text) s args
    let events := (run s args).events
    let report := (run s args).report
    trace.exitCode = full.exitCode ∧
      trace.streams.stdout = full.streams.stdout ∧
      full.streams.stderr = String.join (events.map Log.Event.line) ++ report ∧
      trace.streams.stderr =
        String.join ((events.filter c.admits).map Log.Event.line) ++ report := by
  intro trace full events report
  have hfull : events.filter Choice.debug.admits = events :=
    List.filter_eq_self.2 fun _ _ => rfl
  simp only [trace, full, execute_eq, Outcome.stderr, lines_eq, true_and]
  exact ⟨by rw [hfull], rfl⟩

end NearestHost.Command
