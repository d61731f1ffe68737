/-
  Points on the globe.

  * `Point`: a latitude and a longitude in degrees, of any size.
  * `Point.check`: the first coordinate of a point that is outside of its
    range.  NaN is outside of every range.
  * `Point.make?`: a point, provided that it is in range.
-/
import NearestHost.Decimal.Written

namespace NearestHost

/-- A latitude and a longitude in degrees. -/
structure Point where
  latitude : Float
  longitude : Float

namespace Point

/-- Why a point is not a place on the globe. -/
inductive OutOfRange
  | latitude (x : Float)
  | longitude (x : Float)

/-- The report of a coordinate that is out of range. -/
def OutOfRange.message : OutOfRange → String
  | .latitude x => "latitude " ++ Decimal.display x ++ " is outside of [-90, 90]"
  | .longitude x => "longitude " ++ Decimal.display x ++ " is outside of [-180, 180]"

/-- Equality of the coordinates as numbers: the zeros are equal, and NaN differs from itself. -/
def same (p q : Point) : Bool := p.latitude == q.latitude && p.longitude == q.longitude

/-- Whether a number lies between two others, ends included. -/
def within (least greatest x : Float) : Bool := least ≤ x && x ≤ greatest

/-- The latitude is checked first. -/
def check (p : Point) : Except OutOfRange Unit :=
  if !within (-90) 90 p.latitude then .error (.latitude p.latitude)
  else if !within (-180) 180 p.longitude then .error (.longitude p.longitude)
  else .ok ()

/-- The point of two coordinates that are in range. -/
def make? (latitude longitude : Float) : Except OutOfRange Point := do
  let p : Point := ⟨latitude, longitude⟩
  p.check
  return p

end Point

end NearestHost
