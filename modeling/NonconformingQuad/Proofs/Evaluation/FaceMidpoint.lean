import NonconformingQuad.Proofs.Basis.MidpointValues
import NonconformingQuad.Proofs.Evaluation.Success

/-! One point on a face. The only point of the rule of order one is the midpoint of the edge,
and there a function of the element depends on the two ends of the edge alone. -/
noncomputable section
namespace NonconformingQuad

/-- The middle of a reference face belongs to the midpoint of the edge. -/
theorem Bilinear.mapPoint_middle (V : Quad ℝ) (f : Face) :
    mapPoint V (f.pointAt 0) = V.edgeMidpoint f := by
  cases f <;> apply Point.ext <;>
    simp only [mapPoint, combine, weight, Face.pointAt, Quad.edgeMidpoint_x, Quad.edgeMidpoint_y,
      Face.first, Face.second, Scalar.quarter_real] <;>
    ring

theorem Rule.face?_one {gauss : LineFamily ℝ} (midpoint : gauss 1 = .ok [⟨0, 2⟩]) (f : Face) :
    Rule.face? gauss (.int f.number) (.int 1) = .ok [⟨f.pointAt 0, 2⟩] := by
  have line : LineRule.ofOrder? gauss (.int 1) = .ok [⟨0, 2⟩] := by
    change (gauss 1).mapError Fault.misuse = _
    rw [midpoint]
    rfl
  rw [Rule.face?, line]
  simp [bind, Except.bind, pure, Except.pure, Rule.onFace]

namespace Context
variable {gauss : LineFamily ℝ} {tol : Tolerances ℝ} {requested : UpdateFlags} {c : Context ℝ}
  {V : Quad ℝ}

/-- A context for one point on a face succeeds on an accepted cell. It is at the midpoint of the
edge then, and shows the average of the values at the two ends. -/
theorem reinit_faceMidpoint (midpoint : gauss 1 = .ok [⟨0, 2⟩]) (nonneg : 0 ≤ tol.degeneracy)
    (values : requested.has .values) (reached : IsReached (.face 1) requested c)
    (accepted : V.IsAccepted (tol.map .number) none) (f : Face) (u : Corner → ℝ) :
    let evaluated := c.reinit (tol.map .number) gauss (.ok V) (.int f.number) .none
    evaluated.fault? = none ∧
      evaluated.state.quadraturePoint (.int 0) = .ok (V.edgeMidpoint f) ∧
      evaluated.state.functionValues (.ofList (Corner.all.map u)) =
        .ok (.tabulate [1] fun _ => (u f.first + u f.second) / 2) := by
  have sound := reached.isSound
  have valued := sound.has_of_requested values
  have placed := sound.has_points valued
  have row : ((Placement.face 1 : Placement ℝ).mappingFace (.int f.number)).mapM
      (Face.ofRow (K := ℝ)) = .ok (some f) := by
    change (some <$> Face.ofRow (.int f.number)) = _
    rw [Face.ofRow_number]
    rfl
  intro evaluated
  obtain ⟨succeeded, mapping⟩ : evaluated.fault? = none ∧ evaluated.state.mapping =
      Mapping.written V [⟨f.pointAt 0, 2⟩] c.flags (some f) c.mapping :=
    reinit_succeeds sound (Rule.face?_one midpoint f) (List.cons_ne_nil _ _) rfl
      (Face.check_number f) row fun _ => accepted
  have points : evaluated.state.mapping.points = [V.edgeMidpoint f] := by
    rw [mapping, Mapping.written, if_pos placed]
    simp [Mapping.pointsOf, Bilinear.mapPoint_middle]
  have shows : evaluated.state.Shows V.coefficients :=
    (shows_of_reinit sound (.inl valued) succeeded).2
  have flags : evaluated.state.flags = c.flags := (sound.hasPlanOf_reinit ..).flags
  clear_value evaluated
  have bound : 0 < evaluated.state.mapping.points.length := by rw [points]; exact Nat.zero_lt_one
  have first : evaluated.state.mapping.points[0] = V.edgeMidpoint f := by
    simp only [points, List.getElem_cons_zero]
  refine ⟨succeeded, ?_, ?_⟩
  · exact quadraturePoint_singleton (flags ▸ placed) shows.ready points
  · obtain ⟨t, found, shape, value⟩ := functionValues_eq_ok shows (flags ▸ valued) u
    have independent := @Quad.IsAccepted.midlineDeterminant_ne_zero tol none V nonneg accepted
    have average := (Quad.coefficients_hasMidpointValues independent).combine_edgeMidpoint u f
    rw [points] at shape
    rw [found]
    refine congrArg Except.ok (Tensor.eq_tabulate shape fun is within => ?_)
    rw [Tensor.eq_of_within_one within, value 0 bound, ← ShapeTable.eval_combine, first, average]

end Context
end NonconformingQuad
end
