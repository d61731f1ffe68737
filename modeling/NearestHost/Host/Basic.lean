/-
  Hosts and the JSON they are written in.

  * `Host`: a name, a place and an address.
  * `Point.toValue`, `Host.toValue`: the JSON objects of a point and a host.
-/
import NearestHost.Address.Text
import NearestHost.Globe.Point
import NearestHost.Json.Value

namespace NearestHost

/-- A host that queries may be sent to. -/
structure Host where
  name : String
  location : Point
  address : Address

/-- The members of a point. -/
def Point.members (p : Point) : List (String × Json.Value) :=
  [("latitude", .number p.latitude), ("longitude", .number p.longitude)]

/-- The JSON object of a point. -/
def Point.toValue (p : Point) : Json.Value := .object p.members

/-- The JSON object of a host, with the members of its location among its own. -/
def Host.toValue (h : Host) : Json.Value :=
  .object (("name", .text h.name) :: h.location.members ++ [("ip", .text h.address.toString)])

end NearestHost
