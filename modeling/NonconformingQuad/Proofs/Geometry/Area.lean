import Mathlib.Analysis.SpecialFunctions.Log.Basic
import NonconformingQuad.Evaluation.Mapping
import NonconformingQuad.Proofs.Geometry.Convexity
import NonconformingQuad.Proofs.Quadrature.Centred

/-! Areas of cells. The determinant of the midlines, four times the derivative in the middle and
the formula over the outline all give the signed area. On a convex cell the sign is that of every
determinant inside, so a rule for affine functions finds the area although it sums magnitudes. -/
noncomputable section
namespace NonconformingQuad

/-- Signed area of a polygon with the given vertices. -/
def Point.shoelace (ps : List (Point ℝ)) : ℝ :=
  Scalar.half * (List.zipWith cross ps (ps.rotate 1)).sum

namespace Quad
variable {V : Quad ℝ} {r : LineRule ℝ} {s : ℝ}

theorem midlineDeterminant_eq_shoelace (V : Quad ℝ) :
    V.midlineDeterminant = Point.shoelace V.outline := by
  simp only [Point.shoelace, outline, List.rotate_cons_succ, List.rotate_zero, List.cons_append,
    List.nil_append, List.zipWith_cons_cons, List.zipWith_nil_left, List.sum_cons, List.sum_nil,
    Point.cross, midlineDeterminant_eq, Scalar.half_real]
  ring

theorem midlineDeterminant_eq_jacobian (V : Quad ℝ) :
    V.midlineDeterminant = 4 * (Reference.jacobian V ⟨0, 0⟩).determinant := by
  obtain ⟨D, middle, determinant⟩ := V.exists_determinant_affine
  have value : (Reference.jacobian V ⟨0, 0⟩).determinant = D.c := by
    rw [determinant]
    simp only [Affine.eval, mul_zero, zero_add]
  rw [value, middle]
  ring

theorem HasOrientation.mul_midlineDeterminant (oriented : V.HasOrientation s) :
    s * V.midlineDeterminant = |V.midlineDeterminant| := by
  have middle := oriented.abs ⟨0, 0⟩ (by norm_num [Reference.IsInside])
  rw [Scalar.abs_real] at middle
  rw [midlineDeterminant_eq_jacobian, abs_mul, middle, abs_of_pos four_pos]
  ring

/-- The area of the cell. -/
theorem integrate_abs_determinant (centred : r.IsCentred) (oriented : V.HasOrientation s) :
    (Rule.square r).integrate (fun p => Scalar.abs (Reference.jacobian V p).determinant) =
      s * V.midlineDeterminant := by
  obtain ⟨D, middle, determinant⟩ := V.exists_determinant_affine
  have signed : (Rule.square r).integrate
      (fun p => Scalar.abs (Reference.jacobian V p).determinant) =
        (Rule.square r).integrate fun p => s * D.eval p := by
    refine Rule.integrate_congr fun p inside => ?_
    rw [oriented.abs _ (Rule.isInside_of_mem_square centred.within inside), determinant]
  rw [signed, Rule.integrate_const_mul, Rule.integrate_square_affine centred, middle]
  ring

/-- Every weight that is positive on the square becomes one that is positive on the cell. -/
theorem areaWeight_pos (oriented : V.HasOrientation s) (within : ∀ p ∈ r, -1 ≤ p.node ∧ p.node ≤ 1)
    (positive : ∀ p ∈ r, 0 < p.weight) {p : RulePoint ℝ} (member : p ∈ Rule.square r) :
    0 < Mapping.areaWeight V p := by
  have inside := Rule.isInside_of_mem_square within member
  obtain ⟨y, second, row⟩ := List.mem_flatMap.mp member
  obtain ⟨x, first, rfl⟩ := List.mem_map.mp row
  apply mul_pos
  · exact abs_pos.mpr (oriented.nonzero _ inside)
  · exact mul_pos (positive x first) (positive y second)

theorem sum_areaWeight (centred : r.IsCentred) (oriented : V.HasOrientation s) :
    ((Rule.square r).map (Mapping.areaWeight V)).sum = |V.midlineDeterminant| := by
  rw [← oriented.mul_midlineDeterminant, ← integrate_abs_determinant centred oriented,
    Rule.integrate_eq]
  refine congrArg List.sum (List.map_congr_left fun p _ => ?_)
  exact mul_comm _ _

end Quad
end NonconformingQuad
end
