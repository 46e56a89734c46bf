import Mathlib.Analysis.SpecialFunctions.Log.Basic
import NonconformingQuad.Proofs.Evaluation.Success
import NonconformingQuad.Proofs.Geometry.PlaneMaps

/-! Contexts on a cell and on its image under an affine map of the plane. Coefficients, centroid and
determinant all change with the map, and a reflection turns signs; but what the accessors tell only
moves with the cell. -/
noncomputable section
namespace NonconformingQuad.Context

/-- On the image of a cell points are moved by the map and weights are multiplied by the magnitude
of its determinant; the values of the shape functions stay, and their gradients go back by the
transposed map. -/
theorem reinit_image (V : Quad ℝ) (T : PlaneMap) (rule : Rule ℝ) (tol : Tolerances ℝ)
    (gauss : LineFamily ℝ) (requested : UpdateFlags) (c d : Context ℝ)
    (nonneg : 0 ≤ tol.degeneracy) (invertible : T.determinant ≠ 0) (pointed : rule ≠ [])
    (accepted : V.IsAccepted (tol.map .number) none)
    (accepted_image : (T.image V).IsAccepted (tol.map .number) none)
    (values : requested.has .values) (gradients : requested.has .gradients)
    (weights : requested.has .weights) (reached : IsReached (.cell rule) requested c)
    (reached_image : IsReached (.cell rule) requested d) :
    let onCell := c.reinit (tol.map .number) gauss (.ok V) .none .none
    let onImage := d.reinit (tol.map .number) gauss (.ok (T.image V)) .none .none
    onCell.fault? = none ∧ onImage.fault? = none ∧ ∀ q < rule.length,
      (∃ p, onCell.state.quadraturePoint (.int q) = .ok p ∧
        onImage.state.quadraturePoint (.int q) = .ok (T.apply p)) ∧
      (∃ w, onCell.state.weight (.int q) = .ok w ∧
        onImage.state.weight (.int q) = .ok (|T.determinant| * w)) ∧
      ∀ k : Corner,
        (∃ v, onCell.state.shapeValue (.int k.number) (.int q) = .ok v ∧
          onImage.state.shapeValue (.int k.number) (.int q) = .ok v) ∧
        ∃ v, onCell.state.shapeGradient (.int k.number) (.int q) = .ok (T.transpose v) ∧
          onImage.state.shapeGradient (.int k.number) (.int q) = .ok v := by
  intro onCell onImage
  have independent : V.midlineDeterminant ≠ 0 :=
    @Quad.IsAccepted.midlineDeterminant_ne_zero tol none V nonneg accepted
  have functions := T.pullback_coefficients V invertible independent
  obtain ⟨succeeded, told⟩ :=
    reinit_tellsAt gauss reached pointed values gradients weights accepted
  obtain ⟨succeeded_image, told_image⟩ :=
    reinit_tellsAt gauss reached_image pointed values gradients weights accepted_image
  refine ⟨succeeded, succeeded_image, fun q bound => ?_⟩
  obtain ⟨point, weight, value, gradient⟩ := told q bound
  obtain ⟨point', weight', value', gradient'⟩ := told_image q bound
  rw [T.mapPoint_image] at point' value'
  rw [T.areaWeight_image] at weight'
  refine ⟨⟨_, point, point'⟩, ⟨_, weight, weight'⟩, fun k => ⟨⟨_, value k, ?_⟩, _, ?_, gradient' k⟩⟩
  · rw [value' k, ← functions k, T.eval_pullback]
  · rw [gradient k, ← functions k, T.gradient_pullback]

/-- A reflection that stretches and moves the plane as well. -/
def reflection : PlaneMap := ⟨⟨1, -1⟩, ⟨1, 1⟩, ⟨1, -1⟩⟩

/-- The image of a cell that is not convex, turned over. -/
theorem reinit_image_arrowhead :
    let tol : Tolerances ℝ := ⟨0, 0, 0⟩
    let rule : Rule ℝ := [⟨⟨0, 0⟩, 4⟩]
    ∃ c : Context ℝ,
      (build (.cell rule) (.ofList [.values, .gradients, .weights])).outcome = .ok c ∧
      let onCell := c.reinit (tol.map .number) (fun _ => .error .noNodes) (.ok .arrowhead)
        .none .none
      let onImage := c.reinit (tol.map .number) (fun _ => .error .noNodes)
        (.ok (reflection.image .arrowhead)) .none .none
      onCell.fault? = none ∧ onImage.fault? = none ∧ (∃ w, onCell.state.weight (.int 0) = .ok w ∧
          onImage.state.weight (.int 0) = .ok (|reflection.determinant| * w)) ∧
        ∃ v, onCell.state.shapeGradient (.int 0) (.int 0) = .ok (reflection.transpose v) ∧
          onImage.state.shapeGradient (.int 0) (.int 0) = .ok v := by
  intro tol rule
  obtain ⟨c, built⟩ : ∃ c : Context ℝ,
      (build (.cell rule) (.ofList [.values, .gradients, .weights])).outcome = .ok c := ⟨_, rfl⟩
  have reached : IsReached (.cell rule) _ c := ⟨c, built, .refl c⟩
  have invertible : reflection.determinant ≠ 0 := by
    norm_num [PlaneMap.determinant, reflection, Point.cross]
  have accepted := Quad.isAccepted_arrowhead
  have accepted_image : (reflection.image .arrowhead).IsAccepted (tol.map .number) none := by
    rw [Quad.isAccepted_exact_iff, PlaneMap.midlineDeterminant_image,
      Quad.midlineDeterminant_arrowhead, mul_one]
    exact invertible
  obtain ⟨succeeded, succeeded_image, told⟩ := reinit_image .arrowhead reflection rule tol
    (fun _ => .error .noNodes) _ c c le_rfl invertible (List.cons_ne_nil _ _) accepted
    accepted_image (by decide) (by decide) (by decide) reached reached
  obtain ⟨-, weight, shapes⟩ := told 0 (by decide)
  exact ⟨c, built, succeeded, succeeded_image, weight, (shapes .bottomLeft).2⟩

end NonconformingQuad.Context
end
