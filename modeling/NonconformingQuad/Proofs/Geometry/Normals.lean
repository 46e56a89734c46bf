import Mathlib.Analysis.SpecialFunctions.Log.Basic
import NonconformingQuad.Evaluation.Mapping
import NonconformingQuad.Proofs.Basis.MidpointValues
import NonconformingQuad.Proofs.Geometry.Convexity

/-! Normals on the faces of convex cells. The tangent is the same all along a face, and so is the
orientation of the cell, so a face has one normal: half of the face turned to the outside, divided
by its length. Every vertex off the face lies behind it, by as much as the cell turns at the corner
that joins the vertex to the face. -/
noncomputable section
namespace NonconformingQuad

namespace Point

theorem norm_scale (c : ℝ) (v : Point ℝ) : (scale c v).norm = |c| * v.norm := by
  have square : dot (scale c v) (scale c v) = c ^ 2 * dot v v := by
    simp only [dot, scale]
    ring
  rw [norm, square, Scalar.sqrt_real, Real.sqrt_mul (sq_nonneg c), Real.sqrt_sq_eq_abs]
  rfl

theorem norm_nonneg (v : Point ℝ) : 0 ≤ v.norm := Real.sqrt_nonneg _

end Point

namespace Quad
open Reference
variable {V : Quad ℝ} {s : ℝ}

theorem HasOrientation.abs_eq_one (oriented : V.HasOrientation s) : |s| = 1 := by
  have inside := isInside_vertex .bottomLeft
  rw [← oriented.sign _ inside, Scalar.sign]
  rcases lt_or_gt_of_ne (oriented.nonzero _ inside) with negative | positive
  · rw [if_neg negative.not_gt, if_pos negative, abs_neg, abs_one]
  · rw [if_pos positive, abs_one]

theorem HasOrientation.mul_determinant_pos (oriented : V.HasOrientation s) {p : Point ℝ}
    (inside : IsInside p) : 0 < s * (jacobian V p).determinant := by
  rw [← oriented.abs p inside]
  exact abs_pos.mpr (oriented.nonzero p inside)

theorem HasOrientation.norm_halfEdge_pos (oriented : V.HasOrientation s) (f : Face) :
    0 < (V.halfEdge f).norm := by
  apply (Point.norm_nonneg _).lt_of_ne'
  intro flat
  obtain ⟨x, y⟩ := Point.eq_zero_of_norm flat
  -- a face without length would make the cell flat at its first vertex
  have inside : IsInside (f.pointAt (-1 : ℝ)) := by
    cases f <;> norm_num [IsInside, Face.pointAt]
  apply oriented.nonzero _ inside
  rw [← along_tangent V f (-1)] at x y
  rw [Jacobian.determinant_real]
  cases f <;> simp [Jacobian.along, Face.tangent] at x y <;> simp [Point.cross, x, y]

/-- One normal belongs to all points of a face. -/
theorem normalAt_pointAt (oriented : V.HasOrientation s) {f : Face} {t : ℝ}
    (inside : IsInside (f.pointAt t)) :
    Mapping.normalAt V f (f.pointAt t) =
      Point.scale (s / (V.halfEdge f).norm) (V.outward f) := by
  have tangent : Mapping.tangentAt V f (f.pointAt t) = V.halfEdge f := along_tangent V f t
  simp only [Mapping.normalAt, tangent, oriented.sign _ inside, outward, Point.scale]
  apply Point.ext
  · ring
  · ring

theorem dot_outward_self (f : Face) :
    Point.dot (V.outward f) (V.outward f) = Point.dot (V.halfEdge f) (V.halfEdge f) := by
  cases f <;> simp only [outward, Face.turn, Point.dot, Point.scale] <;> ring

theorem dot_outward_edge (f : Face) :
    Point.dot (V.outward f) (V f.second - V f.first) = 0 := by
  simp only [outward, halfEdge, Point.dot, Point.scale, Point.sub_x, Point.sub_y]
  ring

/-- How far a vertex off a face lies behind it is decided at the corner of the face that the
vertex is joined to. -/
theorem exists_dot_outward (f : Face) {k : Corner} (off : ¬f.HasCorner k) :
    ∃ j, Point.dot (V.outward f) (V k - V f.first) = -2 * (jacobian V (vertex j)).determinant := by
  -- the other end of the edge that leads from the vertex to the face
  let joined : Corner :=
    match f, k with
    | .left, .bottomRight | .bottom, .topLeft => .bottomLeft
    | .left, _ | .top, .bottomLeft => .topLeft
    | .right, .bottomLeft | .bottom, _ => .bottomRight
    | .right, _ | .top, _ => .topRight
  refine ⟨joined, ?_⟩
  cases f <;> cases k <;> first
    | exact absurd (by decide) off
    | (simp only [joined, outward, halfEdge, Face.turn, Face.first, Face.second, Point.dot,
        Point.scale, Point.sub_x, Point.sub_y, Jacobian.determinant_real, Point.cross, jacobian,
        Corner.sum, grad, vertex, corner, unit, Scalar.quarter_real, Scalar.half_real]
       norm_num
       ring)

/-- The direction is a unit vector at right angles to the face, and both vertices off the face lie
behind it. -/
structure PointsOutward (V : Quad ℝ) (f : Face) (v : Point ℝ) : Prop where
  unit : v.norm = 1
  normal : Point.dot v (V f.second - V f.first) = 0
  behind : ∀ k, ¬f.HasCorner k → Point.dot v (V k - V f.first) < 0

theorem pointsOutward (oriented : V.HasOrientation s) (f : Face) :
    V.PointsOutward f (Point.scale (s / (V.halfEdge f).norm) (V.outward f)) := by
  have length : 0 < (V.halfEdge f).norm := oriented.norm_halfEdge_pos f
  have same : (V.outward f).norm = (V.halfEdge f).norm := by
    rw [Point.norm, dot_outward_self]
    rfl
  have scaled (w : Point ℝ) : Point.dot (Point.scale (s / (V.halfEdge f).norm) (V.outward f)) w =
      s * Point.dot (V.outward f) w / (V.halfEdge f).norm := by
    simp only [Point.dot, Point.scale]
    ring
  constructor
  · rw [Point.norm_scale, same, abs_div, oriented.abs_eq_one, abs_of_pos length]
    exact one_div_mul_cancel length.ne'
  · rw [scaled, dot_outward_edge, mul_zero, zero_div]
  · intro k off
    obtain ⟨j, depth⟩ := exists_dot_outward (V := V) f off
    have turned := oriented.mul_determinant_pos (isInside_vertex j)
    rw [scaled, depth]
    apply div_neg_of_neg_of_pos _ length
    linarith

/-- The normal at a point of a face, times the length of half of the face, is half of the face
turned to the outside of the cell. -/
theorem scale_normalAt (oriented : V.HasOrientation s) {f : Face} {t : ℝ}
    (inside : IsInside (f.pointAt t)) (c : ℝ) :
    Point.scale ((Mapping.tangentAt V f (f.pointAt t)).norm * c)
      (Mapping.normalAt V f (f.pointAt t)) = Point.scale (s * c) (V.outward f) := by
  have tangent : Mapping.tangentAt V f (f.pointAt t) = V.halfEdge f := along_tangent V f t
  have nonzero := (oriented.norm_halfEdge_pos f).ne'
  rw [normalAt_pointAt oriented inside, tangent]
  apply Point.ext
  · simp only [Point.scale]
    field_simp
  · simp only [Point.scale]
    field_simp

end Quad
end NonconformingQuad
end
