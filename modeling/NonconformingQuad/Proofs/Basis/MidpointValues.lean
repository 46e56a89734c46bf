import NonconformingQuad.Proofs.Basis.Acceptance
import NonconformingQuad.Proofs.Geometry.Midlines

/-! What the shape functions are: the table of affine functions that are one half at the
midpoints of the two edges through their corner and zero at the other two midpoints. The
solver finds this table from slopes along the midlines, and there is no other one. -/
noncomputable section
namespace NonconformingQuad
open Scalar

/-- The corner is an end of the face. -/
def Face.HasCorner (f : Face) (k : Corner) : Prop := k = f.first ∨ k = f.second

instance (f : Face) (k : Corner) : Decidable (f.HasCorner k) :=
  inferInstanceAs (Decidable (_ ∨ _))

/-- Each function of the table is one half at the midpoints of the edges through its corner,
and zero at the midpoints of the other edges. -/
def ShapeTable.HasMidpointValues (V : Quad ℝ) (N : ShapeTable ℝ) : Prop :=
  ∀ k f, (N k).eval (V.edgeMidpoint f) = if f.HasCorner k then half else 0

/-- The function of the finite element with given values at the corners. -/
def ShapeTable.combine {K : Type} [Scalar K] (N : ShapeTable K) (d : Corner → K) : Affine K :=
  ⟨Corner.sum fun k => d k * (N k).a, Corner.sum fun k => d k * (N k).b,
    Corner.sum fun k => d k * (N k).c⟩

namespace Quad

variable {V : Quad ℝ}

theorem gradient_dot_midlineX (independent : V.midlineDeterminant ≠ 0) (k : Corner) :
    Point.dot (V.coefficients k).gradient V.midlineX = k.signX := by
  calc Point.dot (V.coefficients k).gradient V.midlineX
      = k.signX * Point.cross V.midlineX V.midlineY / V.midlineDeterminant := by
        simp only [Affine.gradient, coefficients, Point.dot, Point.cross]
        ring
    _ = k.signX := mul_div_cancel_right₀ _ independent

theorem gradient_dot_midlineY (independent : V.midlineDeterminant ≠ 0) (k : Corner) :
    Point.dot (V.coefficients k).gradient V.midlineY = k.signY := by
  calc Point.dot (V.coefficients k).gradient V.midlineY
      = k.signY * Point.cross V.midlineX V.midlineY / V.midlineDeterminant := by
        simp only [Affine.gradient, coefficients, Point.dot, Point.cross]
        ring
    _ = k.signY := mul_div_cancel_right₀ _ independent

/-- The constant term puts one quarter at the centroid. -/
theorem eval_centroid (k : Corner) : (V.coefficients k).eval V.centroid = 1 / 4 := by
  simp only [Affine.eval, coefficients, quarter_real]
  ring

/-- The table of the solver has the midpoint values: from one quarter at the centroid a
function rises or falls by one quarter along half a midline. -/
theorem coefficients_hasMidpointValues (independent : V.midlineDeterminant ≠ 0) :
    ShapeTable.HasMidpointValues V V.coefficients := by
  intro k f
  rw [edgeMidpoint_eq, Affine.eval_add, eval_centroid]
  cases f <;> simp only [toMidpoint, Point.dot_scale, gradient_dot_midlineX independent,
    gradient_dot_midlineY independent] <;>
    cases k <;> simp [Corner.signX, Corner.signY, Face.HasCorner, Face.first, Face.second] <;>
    norm_num

end Quad

namespace ShapeTable

variable {V : Quad ℝ} {M N : ShapeTable ℝ}

theorem HasMidpointValues.unique (independent : V.midlineDeterminant ≠ 0)
    (first : M.HasMidpointValues V) (second : N.HasMidpointValues V) : M = N := by
  funext k
  exact V.eq_of_eval_edgeMidpoint independent fun f => (first k f).trans (second k f).symm

theorem eval_combine (N : ShapeTable ℝ) (d : Corner → ℝ) (p : Point ℝ) :
    (N.combine d).eval p = Corner.sum fun k => d k * (N k).eval p := by
  simp only [combine, Affine.eval, Corner.sum]
  ring

/-- On an edge midpoint a function of the element is the average of its values at the ends
of the edge. -/
theorem HasMidpointValues.combine_edgeMidpoint (values : N.HasMidpointValues V) (d : Corner → ℝ)
    (f : Face) :
    (N.combine d).eval (V.edgeMidpoint f) = (d f.first + d f.second) / 2 := by
  rw [eval_combine]
  simp only [values _ f, Corner.sum]
  cases f <;> simp [Face.HasCorner, Face.first, Face.second] <;> ring

/-- Affine functions are reproduced from their values at the corners, although no shape
function is one at its own corner. -/
theorem HasMidpointValues.combine_affine (independent : V.midlineDeterminant ≠ 0)
    (values : N.HasMidpointValues V) (u : Affine ℝ) : N.combine (fun k => u.eval (V k)) = u := by
  refine V.eq_of_eval_edgeMidpoint independent fun f => ?_
  rw [values.combine_edgeMidpoint]
  simp only [Affine.eval, Quad.edgeMidpoint_x, Quad.edgeMidpoint_y]
  ring

/-- The shape functions of an accepted cell are the only affine functions with the midpoint
values. They add up to one everywhere in the plane, and each is one quarter at the centroid. -/
theorem hasMidpointValues_iff (tol : Tolerances ℝ) (rtol? : Option ℝ) (V : Quad ℝ)
    (N : ShapeTable ℝ) (nonneg : 0 ≤ rtol?.getD tol.degeneracy)
    (accepted : (V.shapeTable (tol.map .number) (rtol?.map .number)).outcome = .ok N) :
    (∀ M : ShapeTable ℝ, M.HasMidpointValues V ↔ M = N) ∧
      (∀ p, (Corner.sum fun k => (N k).eval p) = 1) ∧
      ∀ k, (N k).eval V.centroid = 1 / 4 := by
  have independent := Quad.IsAccepted.midlineDeterminant_ne_zero nonneg ⟨N, accepted⟩
  obtain ⟨_, rfl⟩ := Quad.outcome_eq_ok_iff.mp accepted
  have values := Quad.coefficients_hasMidpointValues independent
  refine ⟨fun M => ⟨fun other => other.unique independent values, ?_⟩, fun p => ?_,
    Quad.eval_centroid⟩
  · rintro rfl
    exact values
  · have one := values.combine_affine independent ⟨0, 0, 1⟩
    calc (Corner.sum fun k => (V.coefficients k).eval p)
        = (V.coefficients.combine fun k => (⟨0, 0, 1⟩ : Affine ℝ).eval (V k)).eval p := by
          rw [eval_combine]
          simp [Affine.eval]
      _ = 1 := by rw [one]; simp [Affine.eval]

theorem hasMidpointValues_iff_arrowhead :
    ∃ N, (Quad.arrowhead.shapeTable ⟨.number 1, .number 1, .number 1⟩ (some (.number 0))).outcome =
        .ok N ∧ ∀ M : ShapeTable ℝ, M.HasMidpointValues Quad.arrowhead ↔ M = N := by
  have independent : Quad.arrowhead.midlineDeterminant ≠ 0 := by
    rw [Quad.midlineDeterminant_arrowhead]
    exact one_ne_zero
  obtain ⟨N, accepted⟩ := (Quad.isAccepted_zero_iff Quad.arrowhead ⟨1, 1, 1⟩).mpr independent
  exact ⟨N, accepted,
    (hasMidpointValues_iff ⟨1, 1, 1⟩ (some 0) Quad.arrowhead N le_rfl accepted).1⟩

end ShapeTable
end NonconformingQuad
end
