import NonconformingQuad.Basis.Affine
import NonconformingQuad.Run
import NonconformingQuad.Tolerances

/-! The shape functions of one cell. Each is affine on the physical cell: along the two
midlines it runs between `1/2` and `-1/2` about its value at the centroid of the edge
midpoints, which is `1/4`. A cell whose midlines are parallel has no such functions. -/
namespace NonconformingQuad

open Scalar

variable {K : Type} [Scalar K]

namespace Corner

/-- Slope of the corner's function along the midline from right to left. -/
def signX : Corner → K
  | bottomLeft | topLeft => half
  | bottomRight | topRight => -half

/-- Slope of the corner's function along the midline from top to bottom. -/
def signY : Corner → K
  | bottomLeft | bottomRight => half
  | topLeft | topRight => -half

end Corner

namespace Quad

def midlineScale (V : Quad K) : K := V.midlineX.norm * V.midlineY.norm

/-- Sine of the angle between the midlines. There is none when a midline has no length, and
when the determinant or the scale is not finite. -/
def midlineSine? (V : Quad K) : Option K :=
  let det := V.midlineDeterminant
  let scale := V.midlineScale
  if IsZero scale ∨ !Scalar.isFinite det ∨ !Scalar.isFinite scale then none
  else some (det / scale)

/-- Sine of the angle between the midlines, zero where there is none. -/
def midlineSine (V : Quad K) : K := V.midlineSine?.getD 0

/-- The shape functions by Cramer's rule for the two midline slopes. -/
def coefficients (V : Quad K) : ShapeTable K := fun k =>
  let d := V.midlineX
  let e := V.midlineY
  let det := V.midlineDeterminant
  let center := V.centroid
  let a := (e.y * k.signX - d.y * k.signY) / det
  let b := (-e.x * k.signX + d.x * k.signY) / det
  ⟨a, b, quarter - center.x * a - center.y * b⟩

/-- The shape functions of a cell that is not degenerate; a nearly degenerate cell is
reported. Coefficients that are not finite are refused last. -/
def shapeTable (tol : Tolerances (Bound K)) (threshold? : Option (Bound K)) (V : Quad K) :
    Run K (ShapeTable K) := do
  let det := V.midlineDeterminant
  let sine := V.midlineSine
  if ← .ofMisuse ((threshold?.getD tol.degeneracy).admits V.midlineSine?) then
    .fail (.degenerateCell det sine V)
  else
    let N := V.coefficients
    let near ← .ofMisuse (tol.warning.admits V.midlineSine?)
    { notices := if near then [.nearlyDegenerate sine] else []
      outcome := if N.isFinite then .ok N else .error (.notRepresentable det V) }

end Quad
end NonconformingQuad
