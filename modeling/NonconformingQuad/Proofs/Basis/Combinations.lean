import Mathlib.Analysis.SpecialFunctions.Log.Basic
import NonconformingQuad.Proofs.Basis.MidpointValues

/-! Linear combinations of the shape functions. There is one function for each corner, but an
affine function of the plane has three coefficients, so the four are dependent on every cell. At
the midpoint of an edge a combination is the average of its values at the two ends, and midpoints
tell affine functions apart: all of them are reached, and what vanishes is a multiple of the one
combination whose signs alternate round the outline. -/
noncomputable section
namespace NonconformingQuad

/-- One at the first and the last corner and minus one at the other two, so that the ends of every
face cancel. -/
def Corner.alternating : Corner → ℝ
  | bottomLeft | topRight => 1
  | bottomRight | topLeft => -1

theorem Corner.exists_smul_alternating_iff {d : Corner → ℝ} :
    (∃ c : ℝ, c • alternating = d) ↔ ∀ f : Face, d f.first + d f.second = 0 := by
  constructor
  · rintro ⟨c, rfl⟩ f
    cases f <;> simp [alternating, Face.first, Face.second]
  · intro cancel
    have left := cancel .left
    have bottom := cancel .bottom
    have top := cancel .top
    simp only [Face.first, Face.second] at left bottom top
    refine ⟨d .bottomLeft, funext fun k => ?_⟩
    cases k <;> simp only [Pi.smul_apply, smul_eq_mul, alternating] <;> linarith

namespace ShapeTable
variable {V : Quad ℝ} {N : ShapeTable ℝ} {d : Corner → ℝ}

/-- The function on the plane that belongs to one number for each corner. -/
def combination (N : ShapeTable ℝ) : (Corner → ℝ) →ₗ[ℝ] Point ℝ → ℝ where
  toFun d p := Corner.sum fun k => d k * (N k).eval p
  map_add' d e := by
    funext p
    simp only [Corner.sum, Pi.add_apply]
    ring
  map_smul' c d := by
    funext p
    simp only [Corner.sum, Pi.smul_apply, smul_eq_mul, RingHom.id_apply]
    ring

theorem combination_eq_eval (N : ShapeTable ℝ) (d : Corner → ℝ) :
    N.combination d = (N.combine d).eval := by
  funext p
  exact (N.eval_combine d p).symm

theorem eval_of_edgeMidpoint {M : Affine ℝ} {c : ℝ} (independent : V.midlineDeterminant ≠ 0)
    (constant : ∀ f, M.eval (V.edgeMidpoint f) = c) (p : Point ℝ) : M.eval p = c := by
  have same : M = ⟨0, 0, c⟩ := by
    refine V.eq_of_eval_edgeMidpoint independent fun f => ?_
    rw [constant f]
    simp [Affine.eval]
  rw [same]
  simp [Affine.eval]

section Independent
variable (independent : V.midlineDeterminant ≠ 0) (values : N.HasMidpointValues V)
include independent values

theorem combination_eq_zero_iff :
    N.combination d = 0 ↔ ∀ f : Face, d f.first + d f.second = 0 := by
  constructor
  · intro vanishes f
    have average := values.combine_edgeMidpoint d f
    rw [← combination_eq_eval, vanishes, Pi.zero_apply] at average
    linarith
  · intro cancel
    funext p
    rw [combination_eq_eval, Pi.zero_apply]
    refine eval_of_edgeMidpoint independent (fun f => ?_) p
    rw [values.combine_edgeMidpoint, cancel f, zero_div]

theorem range_combination_eq : Set.range N.combination = Set.range (Affine.eval (K := ℝ)) := by
  ext u
  constructor
  · rintro ⟨d, rfl⟩
    exact ⟨N.combine d, (N.combination_eq_eval d).symm⟩
  · rintro ⟨M, rfl⟩
    refine ⟨fun k => M.eval (V k), ?_⟩
    rw [combination_eq_eval, values.combine_affine independent]

theorem ker_combination_eq :
    LinearMap.ker N.combination = Submodule.span ℝ {Corner.alternating} := by
  ext d
  rw [LinearMap.mem_ker, combination_eq_zero_iff independent values, Submodule.mem_span_singleton,
    Corner.exists_smul_alternating_iff]

/-- Every edge midpoint belongs to one of two opposite corners. -/
theorem eval_add_eval_of_opposite {k l : Corner}
    (opposite : ∀ f : Face, f.HasCorner k ↔ ¬f.HasCorner l) (p : Point ℝ) :
    (N k).eval p + (N l).eval p = 1 / 2 := by
  let M : Affine ℝ := ⟨(N k).a + (N l).a, (N k).b + (N l).b, (N k).c + (N l).c⟩
  have sum (p : Point ℝ) : M.eval p = (N k).eval p + (N l).eval p := by
    simp only [M, Affine.eval]
    ring
  rw [← sum]
  refine eval_of_edgeMidpoint independent (fun f => ?_) p
  rw [sum, values k f, values l f]
  by_cases at_l : f.HasCorner l <;> simp [opposite f, at_l]

end Independent

/-- The combinations of the shape functions of an accepted cell are all affine functions of the
plane, and those that vanish are the multiples of the one with alternating signs. The functions of
two opposite corners add up to one half. Where a threshold below zero admits every cell, the
determinant must not vanish: the coefficients are quotients by it. -/
theorem range_and_ker_combination (tol : Tolerances ℝ) (rtol? : Option ℝ) (V : Quad ℝ)
    (N : ShapeTable ℝ) (defined : 0 ≤ rtol?.getD tol.degeneracy ∨ V.midlineDeterminant ≠ 0)
    (accepted : (V.shapeTable (tol.map .number) (rtol?.map .number)).outcome = .ok N) :
    Set.range N.combination = Set.range (Affine.eval (K := ℝ)) ∧
      LinearMap.ker N.combination = Submodule.span ℝ {Corner.alternating} ∧
      (∀ p, (N .bottomLeft).eval p + (N .topRight).eval p = 1 / 2) ∧
      ∀ p, (N .bottomRight).eval p + (N .topLeft).eval p = 1 / 2 := by
  have independent : V.midlineDeterminant ≠ 0 :=
    defined.elim (fun nonneg => Quad.IsAccepted.midlineDeterminant_ne_zero nonneg ⟨N, accepted⟩) id
  obtain ⟨_, rfl⟩ := Quad.outcome_eq_ok_iff.mp accepted
  have values := Quad.coefficients_hasMidpointValues independent
  refine ⟨range_combination_eq independent values, ker_combination_eq independent values,
    eval_add_eval_of_opposite independent values ?_,
    eval_add_eval_of_opposite independent values ?_⟩
  · intro f
    cases f <;> decide
  · intro f
    cases f <;> decide

theorem range_and_ker_combination_arrowhead :
    ∃ N, (Quad.arrowhead.shapeTable ⟨.number 0, .number 0, .number 0⟩ none).outcome = .ok N ∧
      (∃ d, N.combination d = fun p => 3 * p.x + 2 * p.y + 1) ∧
      N.combination Corner.alternating = 0 := by
  obtain ⟨N, accepted⟩ := Quad.isAccepted_arrowhead
  obtain ⟨range, kernel, -⟩ :=
    range_and_ker_combination ⟨0, 0, 0⟩ none Quad.arrowhead N (.inl le_rfl) accepted
  have affine : (fun p : Point ℝ => 3 * p.x + 2 * p.y + 1) ∈ Set.range N.combination :=
    range ▸ ⟨⟨3, 2, 1⟩, rfl⟩
  have vanishes : Corner.alternating ∈ LinearMap.ker N.combination :=
    kernel ▸ Submodule.mem_span_singleton_self _
  exact ⟨N, accepted, affine, LinearMap.mem_ker.mp vanishes⟩

end ShapeTable
end NonconformingQuad
end
