/-
  Hosts read from JSON.

  A host is an object with the texts `name` and `ip`, once each.  Its location
  is taken from its other members once all of them have been read: `latitude`
  and `longitude` have to be there once each and be numbers.

  * `Host.Progress`: how much of a host has been read.
  * `Host.builder`: how a host takes in the events of its text.
  * `Host.read`: the host that a source holds.
-/
import NearestHost.Address.Parser
import NearestHost.Host.Basic
import NearestHost.Json.Reader

namespace NearestHost.Host

open Json (Event Builder Source Category)

/-- The members of a host. -/
inductive Field
  | name
  | address
  | other (key : String)
  deriving Repr, DecidableEq

/-- The member of a name. -/
def Field.ofKey (k : String) : Field :=
  if k = "name" then .name else if k = "ip" then .address else .other k

/-- The members that have been read. -/
structure Draft where
  name : Option String
  address : Option Address
  /-- The other members in their order, each with its number if it is one. -/
  others : List (String × Option Float)

namespace Draft

/-- Nothing yet. -/
def empty : Draft := ⟨none, none, []⟩

/-- Whether a member has been read that may only be there once. -/
def has (d : Draft) : Field → Bool
  | .name => d.name.isSome
  | .address => d.address.isSome
  | .other _ => false

/-- The draft with one more of the other members. -/
def addOther (d : Draft) (k : String) (x : Option Float) : Draft :=
  { d with others := d.others ++ [(k, x)] }

/-- The number of the only other member of a name. -/
def number? (d : Draft) (k : String) : Option Float :=
  match d.others.filter (·.1 == k) with
  | [(_, x)] => x
  | _ => none

/-- The host, once all its members have been read. -/
def host? (d : Draft) : Option Host := do
  let name ← d.name
  let address ← d.address
  let latitude ← d.number? "latitude"
  let longitude ← d.number? "longitude"
  return ⟨name, ⟨latitude, longitude⟩, address⟩

end Draft

/-- How much of a host has been read. -/
inductive Progress
  | start
  | /-- between two members -/ between (d : Draft)
  | /-- before the value of a member -/ field (d : Draft) (f : Field)
  | /-- inside another member, below `depth` more brackets -/
    nested (d : Draft) (key : String) (depth : Nat)
  | done (h : Host)

namespace Progress

/-- Takes in the value of a member, or the start of it. -/
def put? (d : Draft) : Field → Event → Option Progress
  | .name, .text s => some (.between { d with name := some s })
  | .address, .text s =>
    (Address.ofString? s).map fun a => .between { d with address := some a }
  | .other k, .number n => some (.between (d.addOther k (some n.toFloat)))
  | .other k, .text _ => some (.between (d.addOther k none))
  | .other k, .word _ => some (.between (d.addOther k none))
  | .other k, .openArray => some (.nested d k 0)
  | .other k, .openObject => some (.nested d k 0)
  | _, _ => none

/-- Takes in what is inside another member. -/
def inside (d : Draft) (k : String) (depth : Nat) : Event → Progress
  | .openArray | .openObject => .nested d k (depth + 1)
  | .closeArray | .closeObject =>
    match depth with
    | 0 => .between (d.addOther k none)
    | n + 1 => .nested d k n
  | _ => .nested d k depth

/-- Takes in an event. -/
def accept? : Progress → Event → Option Progress
  | .start, .openObject => some (.between .empty)
  | .between d, .key k =>
    if d.has (Field.ofKey k) then none else some (.field d (Field.ofKey k))
  | .between d, .closeObject => d.host?.map .done
  | .field d f, e => put? d f e
  | .nested d k depth, e => some (inside d k depth e)
  | _, _ => none

/-- The host, once it has been read. -/
def result : Progress → Except Category Host
  | .done h => .ok h
  | _ => .error .data

end Progress

/-- How a host takes in the events of its text.  No value is passed over. -/
def builder : Builder Progress := ⟨fun _ => false, fun _ => false, Progress.accept?⟩

/-- The host that a source holds. -/
def read (source : Source) : Except Category Host := do (← Json.read builder .start source).result

end NearestHost.Host
