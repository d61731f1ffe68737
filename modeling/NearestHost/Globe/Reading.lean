/-
  Points read from JSON.

  A point is an object with the members `latitude` and `longitude`, in any
  order and once each, or the array of the two.  Other members are passed over.

  * `Point.Progress`: how much of a point has been read.
  * `Point.builder`: how a point takes in the events of its text.
  * `Point.read`: the point that a source holds.
-/
import NearestHost.Globe.Point
import NearestHost.Json.Reader

namespace NearestHost.Point

open Json (Event Form Builder Source Category)

/-- The fields of a point. -/
inductive Field
  | latitude
  | longitude
  deriving Repr, DecidableEq

/-- The field that a member gives. -/
def Field.ofKey? (k : String) : Option Field :=
  if k = "latitude" then some .latitude
  else if k = "longitude" then some .longitude
  else none

/-- The field that an element of an array gives. -/
def Field.ofIndex? : Nat → Option Field
  | 0 => some .latitude
  | 1 => some .longitude
  | _ => none

/-- The fields that have been read. -/
structure Draft where
  latitude : Option Float
  longitude : Option Float

namespace Draft

/-- Nothing yet. -/
def empty : Draft := ⟨none, none⟩

/-- Whether a field has been read. -/
def has (d : Draft) : Field → Bool
  | .latitude => d.latitude.isSome
  | .longitude => d.longitude.isSome

/-- The draft with one more field. -/
def set (d : Draft) (f : Field) (x : Float) : Draft :=
  match f with
  | .latitude => { d with latitude := some x }
  | .longitude => { d with longitude := some x }

/-- The point, once both fields have been read. -/
def point? (d : Draft) : Option Point := do
  let latitude ← d.latitude
  let longitude ← d.longitude
  return ⟨latitude, longitude⟩

end Draft

/-- How much of a point has been read. -/
inductive Progress
  | start
  | /-- between two fields -/ between (form : Form) (d : Draft)
  | /-- before the value of a field -/ field (d : Draft) (f : Field)
  | /-- before the value of another member -/ unknown (d : Draft)
  | done (p : Point)

namespace Progress

/-- Takes in the value of a field. -/
def put? (form : Form) (d : Draft) (f : Field) : Event → Option Progress
  | .number n => some (.between form.advance (d.set f n.toFloat))
  | _ => none

/-- Takes in the name of a member, which no earlier member has. -/
def name? (d : Draft) (k : String) : Option Progress :=
  match Field.ofKey? k with
  | none => some (.unknown d)
  | some f => if d.has f then none else some (.field d f)

/-- Takes in an event. -/
def accept? : Progress → Event → Option Progress
  | .start, .openObject => some (.between .members .empty)
  | .start, .openArray => some (.between (.elements 0) .empty)
  | .between .members d, .key k => name? d k
  | .between .members d, .closeObject => d.point?.map .done
  | .between (.elements _) d, .closeArray => d.point?.map .done
  | .between (.elements i) d, e => (Field.ofIndex? i).bind fun f => put? (.elements i) d f e
  | .field d f, e => put? .members d f e
  | .unknown d, .passed => some (.between .members d)
  | _, _ => none

/-- Whether the next value is passed over. -/
def passes : Progress → Bool
  | .unknown _ => true
  | _ => false

/-- Whether the array has both its elements. -/
def isFull : Progress → Bool
  | .between (.elements i) _ => (Field.ofIndex? i).isNone
  | _ => false

/-- The point, once it has been read. -/
def result : Progress → Except Category Point
  | .done p => .ok p
  | _ => .error .data

end Progress

/-- How a point takes in the events of its text. -/
def builder : Builder Progress := ⟨Progress.passes, Progress.isFull, Progress.accept?⟩

/-- The point that a source holds. -/
def read (source : Source) : Except Category Point := do (← Json.read builder .start source).result

end NearestHost.Point
