/-
  Great-circle distance by the spherical law of cosines.

  * `Trigonometry`: the sine, cosine and arc cosine that a distance is
    computed with, and `Trigonometry.native` those of the machine.
  * `Metric`: any way to measure two points.
  * `greatCircle`: the distance over a sphere of radius `earthRadius`.
-/
import NearestHost.Globe.Point

namespace NearestHost

/-- The functions of angles that a distance is computed with. -/
structure Trigonometry where
  sin : Float → Float
  cos : Float → Float
  acos : Float → Float

/-- The functions of the machine. -/
def Trigonometry.native : Trigonometry := ⟨Float.sin, Float.cos, Float.acos⟩

/-- A measure of how far two points are apart. -/
abbrev Metric := Point → Point → Float

namespace Globe

/-- The radius of the sphere in kilometres. -/
def earthRadius : Float := 6372.8

/-- The double nearest to the number π. -/
def pi : Float := 3.141592653589793

/-- Degrees to radians, by one factor. -/
def radians (degrees : Float) : Float := degrees * (pi / 180)

/-- The number of an interval nearest to `x`; NaN stays NaN. -/
def clamp (least greatest x : Float) : Float :=
  if x < least then least else if greatest < x then greatest else x

/-- The cosine of the angle between two points, seen from the centre of the sphere. -/
def centralCosine (t : Trigonometry) (p q : Point) : Float :=
  let φ := radians p.latitude
  let ψ := radians q.latitude
  let δ := radians (p.longitude - q.longitude).abs
  t.sin φ * t.sin ψ + t.cos φ * t.cos ψ * t.cos δ

end Globe

open Globe in
/-- The distance of two points in kilometres.  It is zero where the points are the same, and
    rounding never takes the cosine out of the domain of the arc cosine. -/
def greatCircle (t : Trigonometry) : Metric := fun p q =>
  if p.same q then 0 else earthRadius * t.acos (clamp (-1) 1 (centralCosine t p q))

end NearestHost
