import NonconformingQuad.Basis.Solver
import NonconformingQuad.Geometry.PointInput
import NonconformingQuad.Tensor.Product

/-! Values of affine functions at points, for coefficients that are given as an array: one
function in each row, its two slopes first and then its constant. -/
namespace NonconformingQuad.Affine

variable {K : Type} [Scalar K]

/-- Values of the functions at points in rows: one row of values for each function. Arrays
that are too narrow are combined as far as their shapes agree. -/
def evaluate (coefficients points : Tensor K) : Except (Fault K) (Tensor K) := do
  let differ := Except.error (Fault.misuse Misuse.shapesDiffer)
  let rows ← points.pairs?.elim differ .ok
  match coefficients.columns? 0 2, coefficients.columns? 2 3 with
  | some slopes, some constants =>
    let linear ← (slopes.matmul? rows.transpose).elim differ .ok
    (Tensor.zipWith? (· + ·) linear constants).elim differ .ok
  | _, _ => throw (.misuse .outOfRange)

def evaluateOnCell (tol : Tolerances (Bound K)) (threshold? : Option (Bound K))
    (V : Quad K) (points : Listing K) : Run K (Tensor K) := do
  let N ← V.shapeTable tol threshold?
  let t ← .ofExcept points.tensor
  .ofExcept (evaluate N.toTensor t)

end NonconformingQuad.Affine
