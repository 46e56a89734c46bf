import NonconformingQuad.Proofs.Quadrature.Exactness

/-! Rules on the halves of a face. Half of an interval is the interval itself, shrunk and moved, and
a polynomial stays one of the same degree under this change of variable. An exact rule therefore
remains exact on each half, and the two halves together give what the rule gives on the whole. -/
noncomputable section
namespace NonconformingQuad
open Polynomial

theorem IsPolynomial.comp_affine {d : Nat} {f : ℝ → ℝ} (poly : IsPolynomial d f) (a b : ℝ) :
    IsPolynomial d fun t => f (a * t + b) := by
  obtain ⟨p, degree, same⟩ := poly
  refine ⟨p.comp (C a * X + C b), ?_, fun t => ?_⟩
  · calc (p.comp (C a * X + C b)).natDegree ≤ p.natDegree * (C a * X + C b).natDegree :=
          natDegree_comp_le
      _ ≤ p.natDegree * 1 := Nat.mul_le_mul_left _ natDegree_linear_le
      _ ≤ d := (Nat.mul_one _).trans_le degree
  · simp only [same, eval_comp, eval_add, eval_mul, eval_C, eval_X]

/-- The middle of a half of the interval from `-1` to `1`. -/
def Half.middle {K : Type} [Scalar K] : Half → K
  | lower => -Scalar.half
  | upper => Scalar.half

namespace LineRule
variable {r : LineRule ℝ} {d : Nat} {f : ℝ → ℝ} {h : Half}

theorem onHalf_eq (h : Half) (r : LineRule ℝ) :
    r.onHalf h = r.map fun p => ⟨1 / 2 * p.node + h.middle, 1 / 2 * p.weight⟩ := by
  cases h <;> simp only [onHalf, Half.middle, Scalar.half_real]

theorem integrate_onHalf (h : Half) (f : ℝ → ℝ) :
    (r.onHalf h).integrate f = 1 / 2 * r.integrate fun t => f (1 / 2 * t + h.middle) := by
  rw [integrate_eq, onHalf_eq, List.map_map, integrate_eq, ← List.sum_map_mul_left]
  refine congrArg List.sum (List.map_congr_left fun p _ => ?_)
  simp only [Function.comp_apply]
  ring

/-- On a half the rule is exact up to the same degree. -/
theorem IsExact.integrate_onHalf (exact : r.IsExact d) (poly : IsPolynomial d f) :
    (r.onHalf h).integrate f = ∫ t in (h.middle - 1 / 2)..(h.middle + 1 / 2), f t := by
  have moved := intervalIntegral.mul_integral_comp_mul_add (a := -1) (b := 1) (f := f) (1 / 2)
    h.middle
  rw [LineRule.integrate_onHalf, exact.integral_eq (poly.comp_affine (1 / 2) h.middle), moved]
  congr 1 <;> ring

theorem IsExact.integrate_halves (exact : r.IsExact d) (poly : IsPolynomial d f) :
    (r.onHalf .lower).integrate f + (r.onHalf .upper).integrate f = r.integrate f := by
  have integrable (a b : ℝ) : IntervalIntegrable f MeasureTheory.volume a b :=
    poly.continuous.intervalIntegrable a b
  rw [exact.integrate_onHalf poly, exact.integrate_onHalf poly, exact.integral_eq poly]
  norm_num only [Half.middle, Scalar.half_real]
  exact intervalIntegral.integral_add_adjacent_intervals (integrable (-1) 0) (integrable 0 1)

/-- The nodes keep their order, and they move to the inside of the half. -/
theorem inside_onHalf (within : ∀ p ∈ r, -1 < p.node ∧ p.node < 1) :
    ∀ p ∈ r.onHalf h, h.middle - 1 / 2 < p.node ∧ p.node < h.middle + 1 / 2 := by
  intro p member
  rw [onHalf_eq] at member
  obtain ⟨q, given, rfl⟩ := List.mem_map.mp member
  obtain ⟨low, high⟩ := within q given
  constructor
  · linarith
  · linarith

theorem ascending_onHalf (ascending : r.Pairwise fun p q => p.node < q.node) :
    (r.onHalf h).Pairwise fun p q => p.node < q.node := by
  rw [onHalf_eq, List.pairwise_map]
  refine ascending.imp fun before => ?_
  linarith

end LineRule

/-- The coordinate that runs along a face. -/
def Face.parameter {K : Type} : Face → Point K → K
  | left, p | right, p => p.y
  | bottom, p | top, p => p.x

@[simp] theorem Face.parameter_pointAt {K : Type} [Scalar K] (f : Face) (t : K) :
    f.parameter (f.pointAt t) = t := by
  cases f <;> rfl

namespace Rule

/-- The points are on a reference face, inside a part of it and in the order of the parameter. -/
structure RunsAlong (f : Face) (a b : ℝ) (rule : Rule ℝ) : Prop where
  onFace : ∀ p ∈ rule, p.point = f.pointAt (f.parameter p.point)
  inside : ∀ p ∈ rule, a < f.parameter p.point ∧ f.parameter p.point < b
  ascending : rule.Pairwise fun p q => f.parameter p.point < f.parameter q.point

theorem runsAlong_onFace {r : LineRule ℝ} {a b : ℝ} (f : Face)
    (within : ∀ p ∈ r, a < p.node ∧ p.node < b)
    (ascending : r.Pairwise fun p q => p.node < q.node) : (onFace f r).RunsAlong f a b := by
  constructor
  · intro p member
    obtain ⟨q, -, rfl⟩ := List.mem_map.mp member
    rw [Face.parameter_pointAt]
  · intro p member
    obtain ⟨q, given, rfl⟩ := List.mem_map.mp member
    rw [Face.parameter_pointAt]
    exact within q given
  · rw [onFace, List.pairwise_map]
    simpa only [Face.parameter_pointAt] using ascending

theorem runsAlong_halves {r : LineRule ℝ} (f : Face)
    (within : ∀ p ∈ r, -1 < p.node ∧ p.node < 1)
    (ascending : r.Pairwise fun p q => p.node < q.node) :
    (onFace f (r.onHalf .lower)).RunsAlong f (-1) 0 ∧
      (onFace f (r.onHalf .upper)).RunsAlong f 0 1 := by
  have part (h : Half) :
      (onFace f (r.onHalf h)).RunsAlong f (h.middle - 1 / 2) (h.middle + 1 / 2) :=
    runsAlong_onFace f (LineRule.inside_onHalf within) (LineRule.ascending_onHalf ascending)
  have lower := part .lower
  have upper := part .upper
  norm_num only [Half.middle, Scalar.half_real] at lower upper
  exact ⟨lower, upper⟩

end Rule
end NonconformingQuad
end
