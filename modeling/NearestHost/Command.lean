/-
  The command.

  It takes the path of a configuration and two coordinates, and prints the
  answer to that query as JSON.

  * `Command.Error`: why a run fails, with its report.
  * `Command.Setting`: what a run depends on besides its arguments.
  * `Command.run`: the outcome of a run: its events and how it ends.
  * `Outcome.stdout`, `Outcome.stderr`, `Outcome.exitCode`: what a run leaves.
-/
import NearestHost.Configuration.Reading
import NearestHost.Decimal.Reading
import NearestHost.Service
import NearestHost.Text.Blank

namespace NearestHost.Command

/-- Why a run fails. -/
inductive Error
  | /-- arguments are missing -/ usage (program : String)
  | load (e : Configuration.LoadError)
  | /-- an argument is no number -/ coordinate (argument : String)
  | outOfRange (e : Point.OutOfRange)

namespace Error

/-- The report of an error. -/
def message : Error → String
  | .usage program => "usage: " ++ program ++ " /path/to/config.json <latitude> <longitude>"
  | .load e => e.message
  | .coordinate argument => "invalid coordinate argument: \"" ++ argument ++ "\""
  | .outOfRange e => e.message

/-- The report of what an error comes from. -/
def cause : Error → Option String
  | .load e => e.cause
  | _ => none

/-- The whole report, but for the sentence on the fault of a text that is no configuration, which
    would follow as what the error comes from. -/
def report (e : Error) : String :=
  "Error: " ++ e.message ++ "\n" ++
    match e.cause with
    | none => ""
    | some c => "\nCaused by:\n    " ++ c ++ "\n"

end Error

/-- What a run depends on besides its arguments. -/
structure Setting where
  /-- The name of the program. -/
  program : String
  metric : Metric
  /-- What the paths lead to. -/
  files : String → Configuration.File
  now : Instant
  /-- Whether the output goes to a terminal. -/
  terminal : Bool

/-- How a run ends. -/
inductive Ending
  | /-- with a text on the output -/ printed (text : String)
  | failed (e : Error)
  | /-- at a time that cannot be shown -/ stopped

/-- What a run logs, and how it ends. -/
structure Outcome where
  events : List Log.Event
  ending : Ending

/-- The number that an argument is, with blanks around it. -/
def coordinate (argument : String) : Except Error Float :=
  match Decimal.read? (String.ofList (Text.trim argument.toList)) with
  | some x => .ok x
  | none => .error (.coordinate argument)

/-- The point of two arguments. -/
def query (latitude longitude : String) : Except Error Point := do
  let x ← coordinate latitude
  let y ← coordinate longitude
  match Point.make? x y with
  | .ok p => .ok p
  | .error e => .error (.outOfRange e)

/-- The event of a configuration that has been loaded. -/
def loadedEvent (path : String) (c : Configuration) : Log.Event :=
  ⟨.info, Log.programTarget,
    "loaded " ++ toString c.hosts.length ++ " hosts from " ++ path⟩

/-- The event of a DNS record of the answer. -/
def recordEvent (r : Dns.Record) : Log.Event := ⟨.debug, Log.programTarget, r.logText⟩

/-- The text of an answer. -/
def output (terminal : Bool) (a : Answer) : String :=
  (if terminal then a.toValue.pretty else a.toValue.compact) ++ "\n"

/-- A query to a service, after some events. -/
def ask (s : Setting) (events : List Log.Event) (service : Service) (q : Point) : Outcome :=
  let resolution := service.answer q
  let events := events ++ [resolution.event]
  match resolution.result with
  | none => ⟨events, .stopped⟩
  | some a => ⟨events ++ (service.toDns a).map recordEvent, .printed (output s.terminal a)⟩

/-- A run with a path and two coordinates. -/
def runWith (s : Setting) (path latitude longitude : String) : Outcome :=
  match Configuration.loadFile s.now (s.files path) with
  | .error e => ⟨[], .failed (.load e)⟩
  | .ok c =>
    let events := [loadedEvent path c]
    match query latitude longitude with
    | .error e => ⟨events, .failed e⟩
    | .ok q => ask s events ⟨s.metric, c⟩ q

/-- A run with any arguments; those after the third do not matter. -/
def run (s : Setting) : List String → Outcome
  | path :: latitude :: longitude :: _ => runWith s path latitude longitude
  | _ => ⟨[], .failed (.usage s.program)⟩

namespace Outcome

/-- What a run prints. -/
def stdout (o : Outcome) : String :=
  match o.ending with
  | .printed text => text
  | _ => ""

/-- The report at the end of a run. -/
def report (o : Outcome) : String :=
  match o.ending with
  | .failed e => e.report
  | _ => ""

/-- The lines of the log that are shown, and the report. -/
def stderr (f : Log.Filter) (o : Outcome) : String := f.lines o.events ++ o.report

/-- The exit code of a run. -/
def exitCode (o : Outcome) : UInt32 :=
  match o.ending with
  | .printed _ => 0
  | .failed _ => 1
  | .stopped => 101

end Outcome

end NearestHost.Command
