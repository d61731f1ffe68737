/-
  The program: files, clock, terminal and log around `Command.execute`.
-/
import NearestHost.Command.Execution
import Std.Time.DateTime.Timestamp

open NearestHost

/-- The reason why a file cannot be opened. -/
def openingReason : IO.Error → String
  | .noFileOrDirectory _ code _ => s!"No such file or directory (os error {code})"
  | .permissionDenied _ code _ => s!"Permission denied (os error {code})"
  | e => e.toString

/-- The bytes of an open file up to its end, or up to the first failure to read it. -/
partial def readSource (h : IO.FS.Handle) (bytes : List UInt8) : IO Json.Source := do
  match ← (h.read 65536).toBaseIO with
  | .error _ => return ⟨bytes, .broken⟩
  | .ok more =>
    if more.isEmpty then return ⟨bytes, .complete⟩
    else readSource h (bytes ++ more.toList)

/-- What a path leads to. -/
def readFile (path : String) : IO Configuration.File := do
  match ← (IO.FS.Handle.mk path .read).toBaseIO with
  | .error e => return .unopened (openingReason e)
  | .ok h => return .opened (← readSource h [])

/-- The current time. -/
def currentInstant : IO Instant := do
  let t ← Std.Time.Timestamp.now
  return ⟨t.val.second.val, t.val.nano.val.toNat⟩

def main (args : List String) : IO UInt32 := do
  let file ← match args with
    | path :: _ :: _ :: _ => readFile path
    | _ => pure (.unopened "")
  let stdout ← IO.getStdout
  let setting : Command.Setting :=
    ⟨Log.programTarget, greatCircle .native, fun _ => file, ← currentInstant, ← stdout.isTty⟩
  let filter := Log.Filter.ofSetting (← IO.getEnv "RUST_LOG")
  let trace := Command.execute filter setting args
  (← IO.getStderr).putStr trace.streams.stderr
  stdout.putStr trace.streams.stdout
  return trace.exitCode
