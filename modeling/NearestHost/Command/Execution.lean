/-
  A run as it happens.

  A run writes the lines of its log while it goes on, as far as the filter of
  the log shows them.  It ends with a text on the output, with the report of an
  error, or early at a time that cannot be shown.

  * `Streams`: what has been written.
  * `Step`: a part of a run.  It knows the filter, writes, and goes on or halts.
  * `steps`: the parts of a run in their order.
  * `execute`: what a run leaves.
-/
import NearestHost.Command

namespace NearestHost.Command

/-- What has been written. -/
structure Streams where
  stdout : String
  stderr : String
  deriving DecidableEq

/-- Why a run halts before it has printed an answer. -/
inductive Halt
  | failed (e : Error)
  | /-- at a time that cannot be shown -/ stopped

/-- A part of a run. -/
abbrev Step (α : Type) := ReaderT Log.Filter (ExceptT Halt (StateM Streams)) α

/-- Writes the line of an event, if it is shown. -/
def log (e : Log.Event) : Step Unit := do
  if (← read).admits e then
    modify fun w => { w with stderr := w.stderr ++ e.line }

/-- Writes a text to the output. -/
def print (text : String) : Step Unit := modify fun w => { w with stdout := w.stdout ++ text }

/-- Loads the configuration of a path. -/
def loading (s : Setting) (path : String) : Step Configuration :=
  match Configuration.loadFile s.now (s.files path) with
  | .error e => throw (.failed (.load e))
  | .ok c => do
    log (loadedEvent path c)
    return c

/-- Reads the point of two arguments. -/
def reading (latitude longitude : String) : Step Point :=
  match query latitude longitude with
  | .error e => throw (.failed e)
  | .ok q => return q

/-- Asks a service. -/
def answering (service : Service) (q : Point) : Step Answer := do
  let resolution := service.answer q
  log resolution.event
  match resolution.result with
  | none => throw .stopped
  | some a => return a

/-- Asks a service for DNS records. -/
def answeringDns (service : Service) (q : Point) : Step (List Dns.Record) := do
  let a ← answering service q
  return service.toDns a

/-- Logs the DNS records of an answer, and prints it. -/
def telling (terminal : Bool) (service : Service) (a : Answer) : Step Unit := do
  (service.toDns a).forM fun r => log (recordEvent r)
  print (output terminal a)

/-- The parts of a run in their order. -/
def steps (s : Setting) : List String → Step Unit
  | path :: latitude :: longitude :: _ => do
    let c ← loading s path
    let q ← reading latitude longitude
    let service : Service := ⟨s.metric, c⟩
    let a ← answering service q
    telling s.terminal service a
  | _ => throw (.failed (.usage s.program))

/-- What a run leaves. -/
structure Trace where
  exitCode : UInt32
  streams : Streams
  deriving DecidableEq

/-- The end of a run. -/
def Trace.ofResult : Except Halt Unit × Streams → Trace
  | (.ok (), w) => ⟨0, w⟩
  | (.error (.failed e), w) => ⟨1, { w with stderr := w.stderr ++ e.report }⟩
  | (.error .stopped, w) => ⟨101, w⟩

/-- A run with a filter of the log. -/
def execute (f : Log.Filter) (s : Setting) (args : List String) : Trace :=
  .ofResult (steps s args f ⟨"", ""⟩)

end NearestHost.Command
