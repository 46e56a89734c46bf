import Mathlib.Analysis.SpecialFunctions.Log.Basic
import NonconformingQuad.Proofs.Evaluation.Success
import NonconformingQuad.Proofs.Geometry.Area
import NonconformingQuad.Proofs.Geometry.Numbering

/-! The weights of a context on a cell, read one by one or added up by the context itself, give the
area of a convex cell. -/
noncomputable section
namespace NonconformingQuad.Context

/-- Three computations give the signed area of a quadrilateral. On a strictly convex one the
weights of a context with the product rule of any order are positive, and add up to the area. -/
theorem weights_measure_area (V : Quad ℝ) :
    V.midlineDeterminant = 4 * (Reference.jacobian V ⟨0, 0⟩).determinant ∧
    V.midlineDeterminant = Point.shoelace V.outline ∧
    ∀ (n : Nat) (gauss : LineFamily ℝ) (r : LineRule ℝ), 1 ≤ n → gauss n = .ok r → r.IsCentred →
      (∀ p ∈ r, 0 < p.weight) → V.IsStrictlyConvex →
      ∃ rule, Rule.square? gauss (.int n) = .ok rule ∧
        ∀ (tol : Tolerances (Bound ℝ)) (requested : UpdateFlags) (c : Context ℝ),
          IsReached (.cell rule) requested c → c.flags.has .weights →
          (c.flags.has .values ∨ c.flags.has .gradients → V.IsAccepted tol none) →
          let evaluated := c.reinit tol gauss (.ok V) .none .none
          evaluated.fault? = none ∧ ∃ ws : List ℝ, ws.length = rule.length ∧
            (∀ q (bound : q < ws.length), evaluated.state.weight (.int q) = .ok ws[q]) ∧
            (∀ w ∈ ws, 0 < w) ∧ ws.sum = |V.midlineDeterminant| ∧
            evaluated.state.weightSum = |V.midlineDeterminant| := by
  refine ⟨V.midlineDeterminant_eq_jacobian, V.midlineDeterminant_eq_shoelace, ?_⟩
  intro n gauss r order found centred positive convex
  obtain ⟨s, oriented⟩ := convex.exists_orientation
  have total := Quad.sum_areaWeight centred oriented
  refine ⟨Rule.square r, Rule.square?_eq_ok (LineRule.ofOrder?_int order found), ?_⟩
  intro tol requested c reached weighted solved evaluated
  obtain ⟨succeeded, flags, held⟩ := weights_reinit_cell tol gauss reached weighted
    (Rule.square_ne_nil centred.ne_nil) solved
  have ready : evaluated.state.ready = true := ready_of_reinit succeeded
  refine ⟨succeeded, _, List.length_map _, ?_, ?_, total, ?_⟩
  · intro q bound
    exact weight_eq_ok held (flags ▸ weighted) ready bound
  · intro w member
    obtain ⟨p, inside, rfl⟩ := List.mem_map.mp member
    exact Quad.areaWeight_pos oriented centred.within positive inside
  · rw [weightSum, held, Scalar.pairwiseSum_real, total]

/-- A cell that is turned over, with the rule of order two. -/
theorem weights_measure_area_mirrored :
    let pair : LineRule ℝ := [⟨-(1 / 2), 1⟩, ⟨1 / 2, 1⟩]
    let gauss : LineFamily ℝ := fun _ => .ok pair
    ∃ c : Context ℝ, (build (.cell (Rule.square pair)) (.only .weights)).outcome = .ok c ∧
      (c.reinit ((⟨0, 0, 0⟩ : Tolerances ℝ).map .number) gauss (.ok .mirrored) .none
        .none).state.weightSum = 3 / 2 := by
  intro pair gauss
  obtain ⟨c, built⟩ : ∃ c : Context ℝ, (build (.cell (Rule.square pair))
      (.only .weights)).outcome = .ok c := ⟨_, rfl⟩
  have positive : ∀ p ∈ pair, 0 < p.weight := by
    simp [pair]
  have reached : IsReached (.cell (Rule.square pair)) (.only .weights) c := ⟨c, built, .refl c⟩
  have weighted : c.flags.has .weights := reached.isSound.has_of_requested (by decide)
  obtain ⟨-, -, measured⟩ := weights_measure_area .mirrored
  obtain ⟨rule, made, weigh⟩ := measured 2 gauss pair (by decide) rfl
    (LineRule.isCentred_pair (by norm_num) (by norm_num)) positive Quad.isStrictlyConvex_mirrored
  obtain rfl : Rule.square pair = rule := Except.ok.inj made
  obtain ⟨-, ws, -, -, -, -, total⟩ := weigh ((⟨0, 0, 0⟩ : Tolerances ℝ).map .number) _ c reached
    weighted fun _ => Quad.isAccepted_mirrored
  refine ⟨c, built, total.trans ?_⟩
  rw [Quad.midlineDeterminant_mirrored]
  norm_num

end NonconformingQuad.Context
end
