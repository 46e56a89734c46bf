import Mathlib.Analysis.SpecialFunctions.Log.Basic
import NonconformingQuad.Evaluation.Mapping
import NonconformingQuad.Proofs.Basis.MidpointValues
import NonconformingQuad.Proofs.Geometry.Convexity

/-! Cells under affine maps of the plane. Midpoints of edges and points of the reference square move
with the vertices, derivatives move by the linear part, and determinants are multiplied by that of
the map. The shape functions of the image, taken back by the map, have the midpoint values of the
cell, so they are its shape functions. -/
noncomputable section
namespace NonconformingQuad

/-- The slopes of the vertex weights cancel, since the weights add up to a constant. -/
theorem Reference.sum_grad (p : Point ℝ) :
    (Corner.sum fun k => (grad p k).x) = 0 ∧ (Corner.sum fun k => (grad p k).y) = 0 := by
  simp only [Corner.sum, grad, corner, unit, Scalar.quarter_real]
  norm_num
  constructor <;> ring

/-- An affine map of the plane: the image of the origin, and those of the two unit vectors. -/
structure PlaneMap where
  origin : Point ℝ
  ex : Point ℝ
  ey : Point ℝ

namespace PlaneMap
variable (T : PlaneMap) (V : Quad ℝ)

def linear (v : Point ℝ) : Point ℝ := Point.scale v.x T.ex + Point.scale v.y T.ey

def apply (p : Point ℝ) : Point ℝ := T.linear p + T.origin

def determinant : ℝ := Point.cross T.ex T.ey

/-- The transposed linear part. -/
def transpose (v : Point ℝ) : Point ℝ := ⟨Point.dot T.ex v, Point.dot T.ey v⟩

def image : Quad ℝ := fun k => T.apply (V k)

/-- An affine function on the image, as a function on the cell. -/
def pullback (N : Affine ℝ) : Affine ℝ :=
  ⟨Point.dot T.ex N.gradient, Point.dot T.ey N.gradient, N.eval T.origin⟩

theorem cross_linear (v w : Point ℝ) :
    Point.cross (T.linear v) (T.linear w) = T.determinant * Point.cross v w := by
  simp only [Point.cross, linear, determinant, Point.scale, Point.add_x, Point.add_y]
  ring

theorem apply_sub_apply (p q : Point ℝ) : T.apply p - T.apply q = T.linear (p - q) := by
  apply Point.ext
  · simp only [apply, linear, Point.scale, Point.add_x, Point.sub_x, Point.sub_y]
    ring
  · simp only [apply, linear, Point.scale, Point.add_y, Point.sub_x, Point.sub_y]
    ring

theorem eval_pullback (N : Affine ℝ) (p : Point ℝ) :
    (T.pullback N).eval p = N.eval (T.apply p) := by
  simp only [pullback, apply, linear, Affine.eval, Affine.gradient, Point.dot, Point.scale,
    Point.add_x, Point.add_y]
  ring

theorem gradient_pullback (N : Affine ℝ) : (T.pullback N).gradient = T.transpose N.gradient := rfl

theorem edgeMidpoint_image (f : Face) :
    (T.image V).edgeMidpoint f = T.apply (V.edgeMidpoint f) := by
  apply Point.ext
  · simp only [Quad.edgeMidpoint_x, Quad.edgeMidpoint_y, image, apply, linear, Point.scale,
      Point.add_x]
    ring
  · simp only [Quad.edgeMidpoint_x, Quad.edgeMidpoint_y, image, apply, linear, Point.scale,
      Point.add_y]
    ring

theorem midlineDeterminant_image :
    (T.image V).midlineDeterminant = T.determinant * V.midlineDeterminant := by
  simp only [Quad.midlineDeterminant, Quad.midlineX, Quad.midlineY, edgeMidpoint_image,
    apply_sub_apply, cross_linear]

/-- The weights of the vertices add up to one, so the image of the origin counts once. -/
theorem mapPoint_image (p : Point ℝ) :
    Bilinear.mapPoint (T.image V) p = T.apply (Bilinear.mapPoint V p) := by
  apply Point.ext
  · simp only [Bilinear.mapPoint, Bilinear.combine, Bilinear.weight, image, apply, linear,
      Point.scale, Point.add_x, Scalar.quarter_real]
    ring
  · simp only [Bilinear.mapPoint, Bilinear.combine, Bilinear.weight, image, apply, linear,
      Point.scale, Point.add_y, Scalar.quarter_real]
    ring

/-- Derivatives do not see the image of the origin. -/
theorem jacobian_image (p : Point ℝ) :
    (Reference.jacobian (T.image V) p).dx = T.linear (Reference.jacobian V p).dx ∧
      (Reference.jacobian (T.image V) p).dy = T.linear (Reference.jacobian V p).dy := by
  obtain ⟨x, y⟩ := Reference.sum_grad p
  simp only [Corner.sum] at x y
  simp only [Reference.jacobian, Corner.sum, image, apply, linear, Point.scale, Point.ext_iff,
    Point.add_x, Point.add_y]
  refine ⟨⟨?_, ?_⟩, ?_, ?_⟩
  · linear_combination T.origin.x * x
  · linear_combination T.origin.y * x
  · linear_combination T.origin.x * y
  · linear_combination T.origin.y * y

theorem areaWeight_image (p : RulePoint ℝ) :
    Mapping.areaWeight (T.image V) p = |T.determinant| * Mapping.areaWeight V p := by
  obtain ⟨dx, dy⟩ := T.jacobian_image V p.point
  have scaled : (Reference.jacobian (T.image V) p.point).determinant =
      T.determinant * (Reference.jacobian V p.point).determinant := by
    rw [Jacobian.determinant_real, Jacobian.determinant_real, dx, dy, cross_linear]
  rw [Mapping.areaWeight, Mapping.areaWeight, scaled, Scalar.abs_real, Scalar.abs_real, abs_mul,
    mul_assoc]

/-- Taken back by the map, the shape functions of the image are those of the cell. -/
theorem pullback_coefficients (invertible : T.determinant ≠ 0)
    (independent : V.midlineDeterminant ≠ 0) (k : Corner) :
    T.pullback ((T.image V).coefficients k) = V.coefficients k := by
  have moved : (T.image V).midlineDeterminant ≠ 0 := by
    rw [midlineDeterminant_image]
    exact mul_ne_zero invertible independent
  have values := Quad.coefficients_hasMidpointValues moved
  have taken_back : ShapeTable.HasMidpointValues V
      fun k => T.pullback ((T.image V).coefficients k) := by
    intro k f
    rw [eval_pullback, ← edgeMidpoint_image]
    exact values k f
  exact congrFun (taken_back.unique independent (Quad.coefficients_hasMidpointValues independent)) k

end PlaneMap
end NonconformingQuad
end
