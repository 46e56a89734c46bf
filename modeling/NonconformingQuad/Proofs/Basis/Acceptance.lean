import Mathlib.Analysis.SpecialFunctions.Log.Basic
import NonconformingQuad.Basis.Solver
import NonconformingQuad.Proofs.Geometry.Midlines
import NonconformingQuad.Proofs.Outcome

/-! When a cell has shape functions. Over the reals nothing is left to the solver but one
comparison: the sine of the angle between the midlines against the threshold. What it accepts
has independent midlines, whatever the threshold, as long as that is not negative. -/
noncomputable section
namespace NonconformingQuad
open Scalar

/-- The fault is one of cells without shape functions. -/
def Fault.isDegeneracy {K : Type} : Fault K → Bool
  | degenerateCell .. | notRepresentable .. | degenerateCells .. => true
  | _ => false

theorem Point.eq_zero_of_norm {p : Point ℝ} (flat : p.norm = 0) : p.x = 0 ∧ p.y = 0 := by
  have sum : p.x * p.x + p.y * p.y = 0 :=
    (Real.sqrt_eq_zero (add_nonneg (mul_self_nonneg p.x) (mul_self_nonneg p.y))).mp flat
  exact mul_self_add_mul_self_eq_zero.mp sum

namespace Quad

/-- The solver has shape functions for the cell. -/
def IsAccepted {K : Type} [Scalar K] (tol : Tolerances (Bound K)) (threshold? : Option (Bound K))
    (V : Quad K) : Prop :=
  ∃ N, (V.shapeTable tol threshold?).outcome = .ok N

/-- Whatever the thresholds are, there is only one table that the solver may give. -/
theorem eq_coefficients {K : Type} [Scalar K] {tol : Tolerances (Bound K)}
    {threshold? : Option (Bound K)} {V : Quad K} {N : ShapeTable K}
    (solved : (V.shapeTable tol threshold?).outcome = .ok N) : N = V.coefficients := by
  simp only [shapeTable, Run.outcome_bind_eq_ok_iff] at solved
  obtain ⟨degenerate, _, solved⟩ := solved
  split at solved
  · contradiction
  · obtain ⟨near, _, solved⟩ := Run.outcome_bind_eq_ok_iff.mp solved
    dsimp only at solved
    split at solved
    · exact (Except.ok.inj solved).symm
    · contradiction

/-- The solver refuses a cell for the angle between its midlines, or for shape functions whose
coefficients are not finite. -/
theorem fault?_shapeTable {K : Type} [Scalar K] (V : Quad K) (tol : Tolerances K) :
    (V.shapeTable (tol.map .number) none).fault? =
      if Scalar.abs V.midlineSine ≤ tol.degeneracy then
        some (.degenerateCell V.midlineDeterminant V.midlineSine V)
      else if V.coefficients.isFinite then none
      else some (.notRepresentable V.midlineDeterminant V) := by
  have judged : (tol.map Bound.number).degeneracy.admits V.midlineSine? =
      .ok (decide (Scalar.abs V.midlineSine ≤ tol.degeneracy)) := Bound.admits_number _ _
  have warns : (tol.map Bound.number).warning.admits V.midlineSine? =
      .ok (decide (Scalar.abs V.midlineSine ≤ tol.warning)) := Bound.admits_number _ _
  simp only [shapeTable, Option.getD_none, judged, Run.ofMisuse_ok_bind, decide_eq_true_eq]
  split
  · rfl
  · rw [warns, Run.ofMisuse_ok_bind]
    cases V.coefficients.isFinite <;> rfl

theorem isAccepted_number_iff {K : Type} [Scalar K] (V : Quad K) (tol : Tolerances K) :
    V.IsAccepted (tol.map .number) none ↔
      ¬Scalar.abs V.midlineSine ≤ tol.degeneracy ∧ V.coefficients.isFinite := by
  rw [IsAccepted, ← Run.fault?_eq_none_iff, fault?_shapeTable]
  split
  · next small => simp [small]
  · next large => simp [large]

variable {tol : Tolerances ℝ} {rtol? : Option ℝ} {V : Quad ℝ} {N : ShapeTable ℝ}

/-- Where a midline has no length, the quotient by the scale is zero as the sine is. -/
theorem midlineSine_real (V : Quad ℝ) : V.midlineSine = V.midlineDeterminant / V.midlineScale := by
  by_cases flat : V.midlineScale = 0 <;> simp [midlineSine, midlineSine?, flat]

theorem admits_threshold (V : Quad ℝ) (tol : Tolerances ℝ) (rtol? : Option ℝ) :
    ((rtol?.map Bound.number).getD (tol.map Bound.number).degeneracy).admits V.midlineSine? =
      .ok (decide (|V.midlineSine| ≤ rtol?.getD tol.degeneracy)) := by
  cases rtol? <;> exact Bound.admits_number _ _

/-- The whole solver over the reals. The threshold decides; the warning threshold only adds a
notice. -/
theorem shapeTable_real (V : Quad ℝ) (tol : Tolerances ℝ) (rtol? : Option ℝ) :
    V.shapeTable (tol.map .number) (rtol?.map .number) =
      if |V.midlineSine| ≤ rtol?.getD tol.degeneracy then
        .fail (.degenerateCell V.midlineDeterminant V.midlineSine V)
      else
        ⟨if |V.midlineSine| ≤ tol.warning then [.nearlyDegenerate V.midlineSine] else [],
          .ok V.coefficients⟩ := by
  have warns : (tol.map Bound.number).warning.admits V.midlineSine? =
      .ok (decide (|V.midlineSine| ≤ tol.warning)) := Bound.admits_number _ _
  have finite : V.coefficients.isFinite = true := by
    simp [ShapeTable.isFinite, Affine.isFinite]
  simp only [shapeTable, admits_threshold, warns, Run.ofMisuse_ok_bind, finite,
    decide_eq_true_eq, if_true]

theorem outcome_eq_ok_iff :
    (V.shapeTable (tol.map .number) (rtol?.map .number)).outcome = .ok N ↔
      rtol?.getD tol.degeneracy < |V.midlineSine| ∧ N = V.coefficients := by
  rw [shapeTable_real]
  split
  · next degenerate => simp [Run.fail, not_lt.mpr degenerate]
  · next regular => simp [not_le.mp regular, eq_comm]

theorem isAccepted_iff :
    V.IsAccepted (tol.map .number) (rtol?.map .number) ↔
      rtol?.getD tol.degeneracy < |V.midlineSine| := by
  simp only [IsAccepted, outcome_eq_ok_iff, exists_and_left, exists_eq, and_true]

/-- Refusing a cell is always a matter of its shape. -/
theorem refuses_iff :
    (∃ fault, (V.shapeTable (tol.map .number) (rtol?.map .number)).outcome = .error fault ∧
        fault.isDegeneracy) ↔
      |V.midlineSine| ≤ rtol?.getD tol.degeneracy := by
  rw [shapeTable_real]
  split
  · next degenerate => simp [Run.fail, degenerate, Fault.isDegeneracy]
  · next regular => simp [regular]

theorem refuses_of_not_isAccepted (refused : ¬V.IsAccepted (tol.map .number) (rtol?.map .number)) :
    ∃ fault, (V.shapeTable (tol.map .number) (rtol?.map .number)).outcome = .error fault ∧
      fault.isDegeneracy := by
  rw [isAccepted_iff, not_lt] at refused
  exact refuses_iff.mpr refused

theorem warns_iff (regular : rtol?.getD tol.degeneracy < |V.midlineSine|) :
    (V.shapeTable (tol.map .number) (rtol?.map .number)).notices.any Notice.isWarning = true ↔
      |V.midlineSine| ≤ tol.warning := by
  rw [shapeTable_real, if_neg (not_le.mpr regular)]
  split
  · next small => simp [small, Notice.isWarning]
  · next large => simp [large]

/-- Accepted cells have independent midlines. -/
theorem IsAccepted.midlineDeterminant_ne_zero (nonneg : 0 ≤ rtol?.getD tol.degeneracy)
    (accepted : V.IsAccepted (tol.map .number) (rtol?.map .number)) :
    V.midlineDeterminant ≠ 0 := by
  intro parallel
  have positive : 0 < |V.midlineSine| := nonneg.trans_lt (isAccepted_iff.mp accepted)
  rw [midlineSine_real, parallel, zero_div, abs_zero] at positive
  exact lt_irrefl 0 positive

theorem midlineScale_ne_zero (independent : V.midlineDeterminant ≠ 0) : V.midlineScale ≠ 0 := by
  intro flat
  apply independent
  rcases mul_eq_zero.mp flat with first | second
  · obtain ⟨x, y⟩ := Point.eq_zero_of_norm first
    simp [midlineDeterminant, Point.cross, x, y]
  · obtain ⟨x, y⟩ := Point.eq_zero_of_norm second
    simp [midlineDeterminant, Point.cross, x, y]

/-- With threshold zero the determinant alone decides. -/
theorem isAccepted_zero_iff (V : Quad ℝ) (tol : Tolerances ℝ) :
    V.IsAccepted (tol.map .number) (some (.number 0)) ↔ V.midlineDeterminant ≠ 0 := by
  constructor
  · exact @IsAccepted.midlineDeterminant_ne_zero tol (some 0) V le_rfl
  · intro independent
    refine (@isAccepted_iff tol (some 0) V).mpr ?_
    rw [midlineSine_real]
    exact abs_pos.mpr (div_ne_zero independent (midlineScale_ne_zero independent))

theorem isAccepted_exact_iff (V : Quad ℝ) :
    V.IsAccepted ((⟨0, 0, 0⟩ : Tolerances ℝ).map .number) none ↔ V.midlineDeterminant ≠ 0 := by
  rw [← isAccepted_zero_iff V ⟨0, 0, 0⟩]
  exact (@isAccepted_iff ⟨0, 0, 0⟩ none V).trans (@isAccepted_iff ⟨0, 0, 0⟩ (some 0) V).symm

theorem isAccepted_arrowhead :
    arrowhead.IsAccepted ((⟨0, 0, 0⟩ : Tolerances ℝ).map .number) none := by
  rw [isAccepted_exact_iff, midlineDeterminant_arrowhead]
  exact one_ne_zero

theorem isAccepted_mirrored :
    mirrored.IsAccepted ((⟨0, 0, 0⟩ : Tolerances ℝ).map .number) none := by
  rw [isAccepted_exact_iff, midlineDeterminant_mirrored]
  norm_num

end Quad
end NonconformingQuad
end
