import NonconformingQuad.Proofs.Basis.MidpointValues
import NonconformingQuad.Proofs.Evaluation.Success

/-! Affine functions on a context. The shape functions are not one at their own corners, so
nothing is read off; but the function with the corner values of an affine function is that
function, and this is what the context shows at its points, wherever these are placed. -/
noncomputable section
namespace NonconformingQuad.Context

/-- Whatever happened before, an evaluation on an accepted cell reproduces affine functions from
their values at the corners: inside the cell, on a face and on half of one. -/
theorem reproduces_affine (placement : Placement ℝ) (requested : UpdateFlags) (c d : Context ℝ)
    (tol : Tolerances ℝ) (rtol? : Option ℝ) (V : Quad ℝ) (u : Affine ℝ)
    (geometry : Tolerances (Bound ℝ)) (gauss : LineFamily ℝ) (faceNumber halfNumber : Literal)
    (values : requested.has .values) (gradients : requested.has .gradients)
    (reached : IsReached placement requested c) (nonneg : 0 ≤ rtol?.getD tol.degeneracy)
    (accepted : V.IsAccepted (tol.map .number) (rtol?.map .number))
    (succeeded : (c.reinit geometry gauss (.ok V) faceNumber halfNumber).fault? = none)
    (state : (c.reinit geometry gauss (.ok V) faceNumber halfNumber).state = d) :
    ∃ t g, d.functionValues (.ofList (Corner.all.map fun k => u.eval (V k))) = .ok t ∧
      d.functionGradients (.ofList (Corner.all.map fun k => u.eval (V k))) = .ok g ∧
      t.shape = [placement.size.toNat] ∧ g.shape = [placement.size.toNat, 2] ∧
      ∀ q < placement.size.toNat, ∃ p, d.quadraturePoint (.int q) = .ok p ∧
        t.value [q] = u.eval p ∧ g.value [q, 0] = u.a ∧ g.value [q, 1] = u.b := by
  have sound := reached.isSound
  have valued := sound.has_of_requested values
  have sloped := sound.has_of_requested gradients
  have placed := sound.has_points valued
  obtain ⟨_, shows⟩ := shows_of_reinit sound (.inl valued) succeeded
  rw [state] at shows
  have same : c.HasPlanOf d := by
    rw [← state]
    exact sound.hasPlanOf_reinit ..
  have count : d.internal.size.toNat = placement.size.toNat := by
    rw [same.internal, sound.size_eq]
  have length : d.mapping.points.length = placement.size.toNat := by
    rw [shows.points (same.flags ▸ valued), count]
  obtain ⟨t, first, tshape, tvalues⟩ := functionValues_eq_ok shows (same.flags ▸ valued)
    fun k => u.eval (V k)
  obtain ⟨g, second, gshape, gvalues⟩ := functionGradients_eq_ok shows
    (same.flags ▸ sloped) fun k => u.eval (V k)
  have independent := Quad.IsAccepted.midlineDeterminant_ne_zero nonneg accepted
  have affine := (Quad.coefficients_hasMidpointValues independent).combine_affine independent u
  refine ⟨t, g, first, second, length ▸ tshape, count ▸ gshape, fun q bound => ?_⟩
  have inside : q < d.mapping.points.length := length ▸ bound
  refine ⟨d.mapping.points[q], quadraturePoint_eq_ok rfl (same.flags ▸ placed) shows.ready inside,
    ?_, ?_, ?_⟩
  · rw [tvalues q inside, ← ShapeTable.eval_combine, affine]
  · rw [gvalues q (count ▸ bound) 0 (by decide)]
    exact congrArg Affine.a affine
  · rw [gvalues q (count ▸ bound) 1 (by decide)]
    exact congrArg Affine.b affine

theorem reproduces_affine_arrowhead :
    ∃ c d : Context ℝ, IsReached (.half 1) (.ofList [.values, .gradients]) c ∧
      (c.reinit ⟨.number 0, .number 0, .number 0⟩ (fun _ => .ok [⟨0, 2⟩]) (.ok Quad.arrowhead)
        (.int 3) (.int 1)).state = d ∧
      ∃ t p, d.functionValues (.ofList (Corner.all.map fun k =>
          (⟨3, 2, 1⟩ : Affine ℝ).eval (Quad.arrowhead k))) = .ok t ∧
        d.quadraturePoint (.int 0) = .ok p ∧ t.value [0] = 3 * p.x + 2 * p.y + 1 := by
  obtain ⟨b, built⟩ : ∃ b : Context ℝ,
      (build (.half 1) (.ofList [.values, .gradients])).outcome = .ok b := ⟨_, rfl⟩
  have reached : IsReached (.half 1) (.ofList [.values, .gradients]) b := ⟨b, built, .refl b⟩
  have accepted := (Quad.isAccepted_exact_iff Quad.arrowhead).mpr
    (Quad.midlineDeterminant_arrowhead ▸ one_ne_zero)
  have succeeded : (b.reinit ⟨.number 0, .number 0, .number 0⟩ (fun _ => .ok [⟨0, 2⟩])
      (.ok Quad.arrowhead) (.int 3) (.int 1)).fault? = none :=
    (reinit_succeeds reached.isSound rfl (List.cons_ne_nil _ _) rfl rfl rfl fun _ => accepted).1
  obtain ⟨t, _, first, _, _, _, points⟩ := reproduces_affine (.half 1) _ b _ ⟨0, 0, 0⟩ none
    Quad.arrowhead ⟨3, 2, 1⟩ _ _ _ _ (by decide) (by decide) reached le_rfl accepted succeeded rfl
  obtain ⟨p, place, value, _⟩ := points 0 (by decide)
  exact ⟨b, _, reached, rfl, t, p, first, place, value⟩

end NonconformingQuad.Context
end
