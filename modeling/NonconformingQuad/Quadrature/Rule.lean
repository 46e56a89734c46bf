import NonconformingQuad.Geometry.FaceInput
import NonconformingQuad.Quadrature.LineRule
import NonconformingQuad.Tensor.Points

/-! Rules on the reference square: weighted points. The rule of an order on the square is the
product of the line rule with itself; rules on a face, or on half of one, carry the line
rule along the face from its first corner to its second. -/
namespace NonconformingQuad

structure RulePoint (K : Type) where
  point : Point K
  weight : K

abbrev Rule (K : Type) := List (RulePoint K)

namespace Face

variable {K : Type} [Scalar K]

/-- The point of the reference face with parameter `t`. -/
def pointAt : Face → K → Point K
  | left, t => ⟨-1, t⟩
  | right, t => ⟨1, t⟩
  | bottom, t => ⟨t, -1⟩
  | top, t => ⟨t, 1⟩

end Face

namespace Rule

variable {K : Type} [Scalar K]

/-- Product of a line rule with itself; the first coordinate runs fastest. -/
def square (r : LineRule K) : Rule K :=
  r.flatMap fun y => r.map fun x => ⟨⟨x.node, y.node⟩, x.weight * y.weight⟩

def onFace (f : Face) (r : LineRule K) : Rule K := r.map fun p => ⟨f.pointAt p.node, p.weight⟩

def ofPoints (ps : List (Point K)) : Rule K := ps.map fun p => ⟨p, 1⟩

/-- Weighted sum of the values at the points, in order. -/
def integrate (r : Rule K) (f : Point K → K) : K :=
  Scalar.sum (r.map fun p => p.weight * f p.point)

def points (r : Rule K) : List (Point K) := r.map (·.point)

def weights (r : Rule K) : List K := r.map (·.weight)

/-- The product rule of an order. -/
def square? (gauss : LineFamily K) (order : Literal) : Except (Fault K) (Rule K) :=
  (LineRule.ofOrder? gauss order).map square

/-- The rule of an order on a face. The order is looked at before the face. -/
def face? (gauss : LineFamily K) (face order : Literal) : Except (Fault K) (Rule K) := do
  let r ← LineRule.ofOrder? gauss order
  let f ← Face.matching face
  return onFace f r

/-- The rule of an order on half of a face. The half is looked at first, the face last. -/
def half? (gauss : LineFamily K) (face half order : Literal) : Except (Fault K) (Rule K) := do
  let h ← Half.ofNumber half
  let r ← LineRule.ofOrder? gauss order
  let f ← Face.matching face
  return onFace f (r.onHalf h)

def ofTensors? (points weights : Tensor K) : Except (Fault K) (Rule K) :=
  match points.shape with
  | [n, 2] =>
    if weights.shape = [n] then
      .ok (List.zipWith RulePoint.mk points.toPoints weights.entries.toList)
    else .error .ruleWeightsShape
  | shape => .error (.rulePointsShape shape)

/-- The points of an array with unit weights; a single point need not be in a row. -/
def ofTensor? (points : Tensor K) : Except (Fault K) (Rule K) :=
  let rows := match points.shape with
    | [] => points.leadingAxis.leadingAxis
    | [_] => points.leadingAxis
    | _ => points
  ofTensors? rows (.replicate (rows.shape.take 1) 1)

end Rule
end NonconformingQuad
