/-
  Configurations.

  * `Configuration`: a DNS name with the time to live of its records, the time of the
    configuration, and hosts.
  * `Configuration.LoadError`: why a configuration cannot be loaded.
  * `Configuration.checkHosts`: the first host whose location is out of range.
-/
import NearestHost.Calendar.Instant
import NearestHost.Dns.Name
import NearestHost.Host.Basic
import NearestHost.Json.Reader

namespace NearestHost

/-- What queries are answered from. -/
structure Configuration where
  name : Dns.Name
  /-- The time to live of records, in seconds. -/
  ttl : Nat
  generatedAt : Instant
  hosts : List Host

namespace Configuration

/-- Why a configuration cannot be loaded. -/
inductive LoadError
  | /-- the file cannot be opened -/ unopened (reason : String)
  | invalidJson (category : Json.Category)
  | /-- a host is out of range -/ invalidHost (name : String) (cause : Point.OutOfRange)

/-- The report of an error. -/
def LoadError.message : LoadError → String
  | .unopened _ => "an IO error occurred"
  | .invalidJson _ => "invalid JSON"
  | .invalidHost name _ => "host \"" ++ name ++ "\" has an invalid location"

/-- The report of what an error comes from, where it has one of its own.  For a text that is no
    configuration, the sentence of the reader on the kind and the place of the fault is left out; the
    category stands for it. -/
def LoadError.cause : LoadError → Option String
  | .unopened reason => some reason
  | .invalidJson _ => none
  | .invalidHost _ cause => some cause.message

/-- The first host that is out of range. -/
def checkHosts : List Host → Except LoadError Unit
  | [] => .ok ()
  | h :: r =>
    match h.location.check with
    | .error e => .error (.invalidHost h.name e)
    | .ok () => checkHosts r

end Configuration

end NearestHost
