import NonconformingQuad.Proofs.Geometry.Midlines
import NonconformingQuad.Proofs.Summation
import NonconformingQuad.Quadrature.Rule

/-! Line rules that integrate affine functions over the interval from `-1` to `1`, and the rules
on the square and its faces that are made from them. What an affine function contributes there is
its value in the middle, times four on the square and times two on a face. -/
noncomputable section
namespace NonconformingQuad
open Scalar

namespace LineRule
variable {r : LineRule ℝ}

/-- The nodes lie in the interval, the weights add up to its length, and the first moment is
zero. -/
structure IsCentred (r : LineRule ℝ) : Prop where
  within : ∀ p ∈ r, -1 ≤ p.node ∧ p.node ≤ 1
  total : r.integrate (fun _ => 1) = 2
  moment : r.integrate (fun t => t) = 0

theorem integrate_eq (f : ℝ → ℝ) : r.integrate f = (r.map fun p => p.weight * f p.node).sum :=
  Scalar.sum_real _

theorem integrate_add (f g : ℝ → ℝ) :
    r.integrate (fun t => f t + g t) = r.integrate f + r.integrate g := by
  simp only [integrate_eq, mul_add]
  exact List.sum_map_add

theorem integrate_const_mul (a : ℝ) (f : ℝ → ℝ) :
    r.integrate (fun t => a * f t) = a * r.integrate f := by
  simp only [integrate_eq, mul_left_comm _ a]
  exact List.sum_map_mul_left r (fun p => p.weight * f p.node) a

theorem IsCentred.integrate_affine (centred : r.IsCentred) (a b : ℝ) :
    r.integrate (fun t => a + b * t) = 2 * a := by
  have constant : r.integrate (fun _ => a) = a * 2 := by
    rw [← centred.total, ← integrate_const_mul]
    simp only [mul_one]
  rw [integrate_add, integrate_const_mul, centred.moment, constant]
  ring

theorem IsCentred.ne_nil (centred : r.IsCentred) : r ≠ [] := by
  rintro rfl
  have empty : integrate ([] : LineRule ℝ) (fun _ => 1) = 0 := rfl
  exact two_ne_zero (centred.total.symm.trans empty)

theorem isCentred_middle : IsCentred [⟨0, 2⟩] := by
  refine ⟨fun p member => ?_, ?_, ?_⟩
  · rw [List.mem_singleton.mp member]
    norm_num
  · norm_num [integrate_eq]
  · norm_num [integrate_eq]

theorem isCentred_pair {a : ℝ} (low : 0 ≤ a) (high : a ≤ 1) : IsCentred [⟨-a, 1⟩, ⟨a, 1⟩] := by
  refine ⟨fun p member => ?_, ?_, ?_⟩
  · obtain rfl | rfl := List.mem_pair.mp member
    · exact ⟨neg_le_neg high, (neg_nonpos.mpr low).trans zero_le_one⟩
    · exact ⟨neg_one_lt_zero.le.trans low, high⟩
  · norm_num [integrate_eq]
  · simp [integrate_eq]

end LineRule

namespace Rule
variable {r : LineRule ℝ} {rule : Rule ℝ}

theorem integrate_eq (f : Point ℝ → ℝ) :
    rule.integrate f = (rule.map fun p => p.weight * f p.point).sum :=
  Scalar.sum_real _

theorem integrate_congr {f g : Point ℝ → ℝ} (same : ∀ p ∈ rule, f p.point = g p.point) :
    rule.integrate f = rule.integrate g := by
  rw [integrate_eq, integrate_eq]
  refine congrArg List.sum (List.map_congr_left fun p inside => ?_)
  rw [same p inside]

theorem integrate_const_mul (a : ℝ) (f : Point ℝ → ℝ) :
    rule.integrate (fun p => a * f p) = a * rule.integrate f := by
  simp only [integrate_eq, mul_left_comm _ a]
  exact List.sum_map_mul_left rule (fun p => p.weight * f p.point) a

def integrateField (rule : Rule ℝ) (F : Point ℝ → Point ℝ) : Point ℝ :=
  ⟨rule.integrate fun p => (F p).x, rule.integrate fun p => (F p).y⟩

/-- A field of one direction is integrated as its magnitude. -/
theorem integrateField_of_eq_scale {F : Point ℝ → Point ℝ} {f : Point ℝ → ℝ} {v : Point ℝ}
    (along : ∀ p ∈ rule, F p.point = Point.scale (f p.point) v) :
    rule.integrateField F = Point.scale (rule.integrate f) v := by
  have coordinate (x : Point ℝ → ℝ) (scaled : ∀ c, x (Point.scale c v) = x v * c) :
      rule.integrate (fun p => x (F p)) = rule.integrate f * x v := by
    rw [mul_comm, ← integrate_const_mul]
    refine integrate_congr fun p inside => ?_
    rw [along p inside, scaled]
  exact Point.ext (coordinate Point.x fun c => mul_comm c v.x)
    (coordinate Point.y fun c => mul_comm c v.y)

theorem integrate_onFace (f : Face) (g : Point ℝ → ℝ) :
    (onFace f r).integrate g = r.integrate fun t => g (f.pointAt t) := by
  rw [integrate_eq, LineRule.integrate_eq, onFace, List.map_map]
  rfl

theorem integrate_square (g : Point ℝ → ℝ) :
    (square r).integrate g = r.integrate fun y => r.integrate fun x => g ⟨x, y⟩ := by
  have row (q : LinePoint ℝ) :
      ((r.map fun p => (⟨⟨p.node, q.node⟩, p.weight * q.weight⟩ : RulePoint ℝ)).map fun p =>
        p.weight * g p.point).sum = q.weight * r.integrate fun x => g ⟨x, q.node⟩ := by
    rw [LineRule.integrate_eq, ← List.sum_map_mul_left, List.map_map]
    refine congrArg List.sum (List.map_congr_left fun p _ => ?_)
    simp only [Function.comp_apply]
    ring
  rw [integrate_eq, LineRule.integrate_eq, square, List.map_flatMap, List.flatMap,
    List.sum_flatten, List.map_map]
  exact congrArg List.sum (List.map_congr_left fun q _ => row q)

/-- An affine function contributes its value in the middle. -/
theorem integrate_square_affine (centred : r.IsCentred) (N : Affine ℝ) :
    (square r).integrate N.eval = 4 * N.c := by
  have row (y : ℝ) : r.integrate (fun x => N.eval ⟨x, y⟩) = 2 * (N.b * y + N.c) := by
    rw [← centred.integrate_affine (N.b * y + N.c) N.a]
    refine congrArg r.integrate (funext fun x => ?_)
    simp only [Affine.eval]
    ring
  have column : (fun y => 2 * (N.b * y + N.c)) = fun y => 2 * N.c + 2 * N.b * y := by
    funext y
    ring
  simp only [integrate_square, row, column, centred.integrate_affine]
  ring

end Rule
end NonconformingQuad
end
