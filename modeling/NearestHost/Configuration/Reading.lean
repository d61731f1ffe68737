/-
  Configurations read from JSON.

  A configuration is an object of known members, in any order and once each, or
  the array of their values in the order `name`, `record_ttl`, `generated_at`,
  `hosts`.  Only the name has to be there.  Other members are passed over.

  * `Configuration.Progress`: how much of a configuration has been read.
  * `Configuration.builder`: how a configuration takes in the events of its text.
  * `Configuration.decode`: the configuration that a source holds, with hosts in any
    place.
  * `Configuration.load`, `Configuration.loadFile`: the same, with all hosts in range.
-/
import NearestHost.Calendar.Rfc3339
import NearestHost.Configuration.Basic
import NearestHost.Host.Reading

namespace NearestHost.Configuration

open Json (Event Form Builder Source Category)

/-- The fields of a configuration. -/
inductive Field
  | name
  | ttl
  | generatedAt
  | hosts
  deriving Repr, DecidableEq

/-- The field that a member gives. -/
def Field.ofKey? (k : String) : Option Field :=
  if k = "name" then some .name
  else if k = "record_ttl" then some .ttl
  else if k = "generated_at" then some .generatedAt
  else if k = "hosts" then some .hosts
  else none

/-- The field that an element of an array gives. -/
def Field.ofIndex? : Nat → Option Field
  | 0 => some .name
  | 1 => some .ttl
  | 2 => some .generatedAt
  | 3 => some .hosts
  | _ => none

/-- The fields that have been read. -/
structure Draft where
  name : Option Dns.Name
  ttl : Option Nat
  generatedAt : Option Instant
  hosts : Option (List Host)

/-- The time to live where none is given. -/
def defaultTtl : Nat := 60

namespace Draft

/-- Nothing yet. -/
def empty : Draft := ⟨none, none, none, none⟩

/-- Whether a field has been read. -/
def has (d : Draft) : Field → Bool
  | .name => d.name.isSome
  | .ttl => d.ttl.isSome
  | .generatedAt => d.generatedAt.isSome
  | .hosts => d.hosts.isSome

/-- The configuration, at the time that it takes if it does not give one. -/
def configuration? (now : Instant) (d : Draft) : Option Configuration :=
  d.name.map fun name =>
    ⟨name, d.ttl.getD defaultTtl, d.generatedAt.getD now, d.hosts.getD []⟩

end Draft

/-- How much of a configuration has been read. -/
inductive Progress
  | start
  | /-- between two fields -/ between (form : Form) (d : Draft)
  | /-- before the value of a field -/ field (d : Draft) (f : Field)
  | /-- before the value of another member -/ unknown (d : Draft)
  | /-- between two hosts -/ hosts (form : Form) (d : Draft) (hs : List Host)
  | /-- inside a host -/ host (form : Form) (d : Draft) (hs : List Host) (p : Host.Progress)
  | done (c : Configuration)

namespace Progress

/-- Takes in the value of a field, or the start of it. -/
def put? (form : Form) (d : Draft) : Field → Event → Option Progress
  | .name, .text s =>
    (Dns.Name.ofString? s).map fun n => .between form.advance { d with name := some n }
  | .ttl, .number (.natural n) => some (.between form.advance { d with ttl := some n })
  | .generatedAt, .text s =>
    (Rfc3339.read? s).map fun t => .between form.advance { d with generatedAt := some t }
  | .hosts, .openArray => some (.hosts form d [])
  | _, _ => none

/-- Takes in the name of a member, which no earlier member has. -/
def name? (d : Draft) (k : String) : Option Progress :=
  match Field.ofKey? k with
  | none => some (.unknown d)
  | some f => if d.has f then none else some (.field d f)

/-- Goes on after an event inside a host. -/
def afterHost (form : Form) (d : Draft) (hs : List Host) : Host.Progress → Progress
  | .done h => .hosts form d (hs ++ [h])
  | p => .host form d hs p

/-- Takes in an event. -/
def accept? (now : Instant) : Progress → Event → Option Progress
  | .start, .openObject => some (.between .members .empty)
  | .start, .openArray => some (.between (.elements 0) .empty)
  | .between .members d, .key k => name? d k
  | .between .members d, .closeObject => (d.configuration? now).map .done
  | .between (.elements _) d, .closeArray => (d.configuration? now).map .done
  | .between (.elements i) d, e => (Field.ofIndex? i).bind fun f => put? (.elements i) d f e
  | .field d f, e => put? .members d f e
  | .unknown d, .passed => some (.between .members d)
  | .hosts form d hs, .closeArray => some (.between form.advance { d with hosts := some hs })
  | .hosts form d hs, e => (Host.Progress.accept? .start e).map (afterHost form d hs)
  | .host form d hs p, e => (p.accept? e).map (afterHost form d hs)
  | _, _ => none

/-- Whether the next value is passed over. -/
def passes : Progress → Bool
  | .unknown _ => true
  | _ => false

/-- Whether the array has all its elements. -/
def isFull : Progress → Bool
  | .between (.elements i) _ => (Field.ofIndex? i).isNone
  | _ => false

/-- The configuration, once it has been read. -/
def result : Progress → Except Category Configuration
  | .done c => .ok c
  | _ => .error .data

end Progress

/-- How a configuration takes in the events of its text. -/
def builder (now : Instant) : Builder Progress :=
  ⟨Progress.passes, Progress.isFull, Progress.accept? now⟩

/-- The configuration that a source holds, read at the time `now`. -/
def decode (now : Instant) (source : Source) : Except Category Configuration := do
  (← Json.read (builder now) .start source).result

/-! ## Loading -/

/-- The configuration that a source holds, with all hosts in range. -/
def load (now : Instant) (source : Source) : Except LoadError Configuration :=
  match decode now source with
  | .error category => .error (.invalidJson category)
  | .ok c =>
    match checkHosts c.hosts with
    | .error e => .error e
    | .ok () => .ok c

/-- What a path leads to: nothing that can be opened, or something that can be read. -/
inductive File
  | unopened (reason : String)
  | opened (source : Source)

/-- The configuration that a file holds, with all hosts in range. -/
def loadFile (now : Instant) : File → Except LoadError Configuration
  | .unopened reason => .error (.unopened reason)
  | .opened source => load now source

end NearestHost.Configuration
