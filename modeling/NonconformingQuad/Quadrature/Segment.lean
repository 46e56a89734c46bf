import NonconformingQuad.Geometry.PointInput
import NonconformingQuad.Quadrature.LineRule
import NonconformingQuad.Tensor.Broadcast
import NonconformingQuad.Tensor.Points

/-! Line rules carried to a segment of the plane, or of any space: points on the segment and
weights that measure its length. -/
namespace NonconformingQuad.Segment

variable {K : Type} [Scalar K]

def norm (t : Tensor K) : K := Scalar.sqrt (Scalar.sum (t.entries.toList.map fun x => x * x))

/-- Points and weights on the segment from one point to another. Coordinates that are single
numbers repeat; two of them make no segment, and one more axis has to fit in. The order is
looked at first. -/
def rule? (gauss : LineFamily K) (start stop : Listing K) (order : Literal) :
    Except (Fault K) (Tensor K × Tensor K) := do
  let base ← LineRule.ofOrder? gauss order
  let p ← start.tensor
  let q ← stop.tensor
  let differ := Except.error (Fault.misuse Misuse.shapesDiffer)
  let halved (f : K → K → K) (a b : Tensor K) :=
    ((Tensor.zipWith? f a b).map (·.map (Scalar.half * ·))).elim differ .ok
  let middle ← halved (· + ·) p q
  let half ← halved (· - ·) q p
  if middle.rank = 0 ∨ middle.rank = Nested.maxAxes then throw (.misuse .outOfRange)
  let nodes := Tensor.tabulate [base.length, 1] fun is =>
    (base[is.getD 0 0]?.map (·.node)).getD 0
  let along ← (Tensor.zipWith? (· * ·) nodes half.leadingAxis).elim differ .ok
  let points ← (Tensor.zipWith? (· + ·) middle.leadingAxis along).elim differ .ok
  let length := norm half
  return (points, Tensor.ofList (base.map fun r => r.weight * length))

end NonconformingQuad.Segment
