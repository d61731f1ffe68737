/-
  The distance of two points in either order.

  Nothing is assumed of the functions of angles, and the coordinates may be of any
  size, infinite or NaN.

  * `centralCosine_swap`: each of the three products, and the difference of the
    longitudes, is the same double in either order.
  * `greatCircle_symmetric`: so is the distance, and it is zero where the points are
    the same.
-/
import NearestHost.Globe.Distance
import NearestHost.Proofs.Double.Exchange

namespace NearestHost

open Double

theorem Point.same_swap (p q : Point) : p.same q = q.same p := by
  rw [same, same, beq_swap p.latitude, beq_swap p.longitude]

namespace Globe

theorem centralCosine_swap (t : Trigonometry) (p q : Point) :
    centralCosine t p q = centralCosine t q p := by
  have hsin := mul_swap (t.sin (radians p.latitude)) (t.sin (radians q.latitude))
  have hcos := mul_swap (t.cos (radians p.latitude)) (t.cos (radians q.latitude))
  have hδ := abs_sub_swap p.longitude q.longitude
  unfold centralCosine
  dsimp only
  rw [hsin, hcos, hδ]

/-- **A distance is the same in either order**, to the last bit, and that of a point to itself is
    zero. -/
theorem greatCircle_symmetric (t : Trigonometry) (p q : Point) :
    greatCircle t p q = greatCircle t q p ∧ (p.same q = true → greatCircle t p q = 0) := by
  constructor
  · unfold greatCircle
    rw [Point.same_swap p q, centralCosine_swap t p q]
  · intro h
    unfold greatCircle
    exact if_pos h

/-- The zeros are the same coordinate. -/
theorem greatCircle_symmetric_zeros : (Point.mk (-0) 180).same ⟨0, 180⟩ = true ∧
    greatCircle .native ⟨-0, 180⟩ ⟨0, 180⟩ = 0 := by
  have hsame : (Point.mk (-0) 180).same ⟨0, 180⟩ = true := by decide
  exact ⟨hsame, (greatCircle_symmetric .native ⟨-0, 180⟩ ⟨0, 180⟩).2 hsame⟩

end Globe

end NearestHost
