import NonconformingQuad.Geometry.Reference

/-! Derivative of the map of the reference square onto a quadrilateral, and its determinant. -/
namespace NonconformingQuad

/-- Derivatives of the physical point in the two reference directions. -/
structure Jacobian (K : Type) where
  dx : Point K
  dy : Point K

namespace Reference

open Scalar

variable {K : Type} [Scalar K]

def mapPoint (V : Quad K) (p : Point K) : Point K :=
  ⟨Corner.sum fun k => shape p k * (V k).x, Corner.sum fun k => shape p k * (V k).y⟩

def jacobian (V : Quad K) (p : Point K) : Jacobian K :=
  { dx := ⟨Corner.sum fun k => (grad p k).x * (V k).x, Corner.sum fun k => (grad p k).x * (V k).y⟩
    dy := ⟨Corner.sum fun k => (grad p k).y * (V k).x, Corner.sum fun k => (grad p k).y * (V k).y⟩ }

end Reference

namespace Jacobian

open Scalar

variable {K : Type} [Scalar K]

/-- Determinant of the upper triangular matrix with diagonal `p`, `q`. Magnitudes are
multiplied by adding their logarithms. -/
def triangular (p q : K) : K :=
  if IsZero q then 0
  else
    let magnitude := exp (log (abs p) + log (abs q))
    let negative := xor (decide (p < 0)) (decide (q < 0))
    if negative then -magnitude else magnitude

/-- What is left of the second entry of a row once its first entry is cleared by the pivot
row. A pivot whose reciprocal vanishes clears nothing. -/
def remainder (pivot row : Point K) : K :=
  let reciprocal := 1 / pivot.x
  let factor := if IsZero reciprocal then 0 else row.x * reciprocal
  row.y - factor * pivot.y

/-- Elimination with a given pivot row and the other row. When the pivot is too small to be
divided by, the first column stays as it is and its second entry serves as the factor. -/
def eliminate (J : Jacobian K) (pivot row : Point K) : K :=
  if IsZero pivot.x then 0
  else if isDivisor pivot.x then triangular pivot.x (remainder pivot row)
  else triangular J.dx.x (row.y - J.dy.x * pivot.y)

/-- Determinant by elimination. The row with the larger first entry is the pivot row; an
exchange of the rows turns the sign. -/
def determinant (J : Jacobian K) : K :=
  if abs J.dx.x < abs J.dy.x then -(J.eliminate J.dy J.dx) else J.eliminate J.dx J.dy

def along (t : Point K) (J : Jacobian K) : Point K :=
  ⟨t.x * J.dx.x + t.y * J.dy.x, t.x * J.dx.y + t.y * J.dy.y⟩

end Jacobian

namespace Face

variable {K : Type} [Scalar K]

/-- Direction of the face on the reference square, from its first vertex. -/
def tangent : Face → Point K
  | left | right => ⟨0, 1⟩
  | bottom | top => ⟨1, 0⟩

/-- Quarter turn from the tangent to the outward normal: `1` against the clock, `-1` with it. -/
def turn : Face → K
  | left | top => 1
  | right | bottom => -1

end Face
end NonconformingQuad
