/-
  The host nearest to a query.

  * `Selection`: a chosen host, its place in the list and its distance.
  * `Host.select`: the first of the hosts at the least distance below infinity.
    A host whose distance is NaN is never chosen.
  * `Host.nearest?`: the chosen host alone.
-/
import NearestHost.Globe.Distance
import NearestHost.Host.Basic

namespace NearestHost

/-- A chosen host. -/
structure Selection where
  /-- Its place in the list of hosts. -/
  index : Nat
  host : Host
  /-- How far it is from the query, in kilometres. -/
  distance : Float

namespace Host

/-- The distance that a nearer host has to stay below. -/
def bound : Option Selection → Float
  | none => Double.ofMagnitude false Double.infinity
  | some s => s.distance

/-- The better of the best choice so far and a further host. -/
def nearer (metric : Metric) (query : Point) (best : Option Selection) (h : Host × Nat) :
    Option Selection :=
  let d := metric query h.1.location
  if d < bound best then some ⟨h.2, h.1, d⟩ else best

/-- The first of the hosts that are nearest to a query. -/
def select (metric : Metric) (query : Point) (hosts : List Host) : Option Selection :=
  hosts.zipIdx.foldl (nearer metric query) none

/-- The nearest host, without its place and its distance. -/
def nearest? (metric : Metric) (query : Point) (hosts : List Host) : Option Host :=
  (select metric query hosts).map Selection.host

end Host

end NearestHost
