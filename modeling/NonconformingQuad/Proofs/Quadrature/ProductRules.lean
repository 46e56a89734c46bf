import Mathlib.Algebra.MvPolynomial.Degrees
import Mathlib.Algebra.MvPolynomial.Eval
import Mathlib.Algebra.Polynomial.BigOperators
import NonconformingQuad.Proofs.Geometry.Numbering
import NonconformingQuad.Proofs.Quadrature.Exactness
import NonconformingQuad.Proofs.Tensor.Reading

/-! The product of a line rule with itself. The first coordinate runs fastest, so a pair of nodes
has its point and its weight at one row-major number. A polynomial in two variables is one in each
of them when the other is held, of no higher degree, so a product of exact rules integrates it. -/
noncomputable section
namespace NonconformingQuad

/-- A polynomial in many variables is one in each of them when the others are held. -/
theorem IsPolynomial.eval_variable {σ : Type} [Fintype σ] [DecidableEq σ] (P : MvPolynomial σ ℝ)
    {i : σ} {v : ℝ → σ → ℝ} (moved : ∀ t, v t i = t) (held : ∀ t, ∀ j ≠ i, v t j = v 0 j) :
    IsPolynomial (P.degreeOf i) fun t => MvPolynomial.eval (v t) P := by
  refine ⟨∑ m ∈ P.support, Polynomial.C (P.coeff m * ∏ j ∈ Finset.univ.erase i, v 0 j ^ m j) *
    Polynomial.X ^ m i, ?_, fun t => ?_⟩
  · refine Polynomial.natDegree_sum_le_of_forall_le _ _ fun m term => ?_
    exact (Polynomial.natDegree_C_mul_X_pow_le _ _).trans (MvPolynomial.monomial_le_degreeOf i term)
  · simp only [MvPolynomial.eval_eq', Polynomial.eval_finsetSum]
    refine Finset.sum_congr rfl fun m _ => ?_
    have others : ∏ j ∈ Finset.univ.erase i, v t j ^ m j =
        ∏ j ∈ Finset.univ.erase i, v 0 j ^ m j :=
      Finset.prod_congr rfl fun j other => by rw [held t j (Finset.ne_of_mem_erase other)]
    rw [← Finset.mul_prod_erase _ _ (Finset.mem_univ i), others, moved, Polynomial.eval_C_mul,
      Polynomial.eval_pow, Polynomial.eval_X]
    ring

namespace Rule
variable {r : LineRule ℝ} {d : Nat}

theorem getElem?_square {K : Type} [Scalar K] {r : LineRule K} {p q : LinePoint K} {i j : Nat}
    (first : r[i]? = some p) (second : r[j]? = some q) :
    (square r)[j * r.length + i]? = some ⟨⟨p.node, q.node⟩, p.weight * q.weight⟩ := by
  obtain ⟨bound, -⟩ := List.getElem?_eq_some_iff.mp first
  have rows : ∀ y ∈ r, (r.map fun x =>
      (⟨⟨x.node, y.node⟩, x.weight * y.weight⟩ : RulePoint K)).length = r.length :=
    fun _ _ => List.length_map _
  rw [square, Tensor.getElem?_flatMap_uniform rows bound, second, Option.bind_some,
    List.getElem?_map, first]
  rfl

theorem integrate_square_polynomial (exact : r.IsExact d) {P : MvPolynomial (Fin 2) ℝ}
    (degrees : ∀ i, P.degreeOf i ≤ d) :
    (square r).integrate (fun p => MvPolynomial.eval ![p.x, p.y] P) =
      ∫ x in (-1 : ℝ)..1, ∫ y in (-1 : ℝ)..1, MvPolynomial.eval ![x, y] P := by
  have inX (y : ℝ) : IsPolynomial d fun x => MvPolynomial.eval ![x, y] P := by
    refine IsPolynomial.mono (IsPolynomial.eval_variable P (fun _ => rfl) fun _ j other => ?_)
      (degrees 0)
    obtain rfl : j = 1 := Fin.eq_one_of_ne_zero j other
    rfl
  have inY (x : ℝ) : IsPolynomial d fun y => MvPolynomial.eval ![x, y] P := by
    refine IsPolynomial.mono (IsPolynomial.eval_variable P (fun _ => rfl) fun _ j other => ?_)
      (degrees 1)
    obtain rfl : j = 0 := by omega
    rfl
  exact integrate_square_eq_integral exact inX inY

/-- The product rule has a point for each pair of nodes, and it integrates every polynomial that in
each variable is of a degree that the line rule integrates. -/
theorem square?_integrates (n : Nat) (gauss : LineFamily ℝ) (r : LineRule ℝ) (positive : 1 ≤ n)
    (found : gauss n = .ok r) (nodes : r.length = n) (exact : r.IsExact (2 * n - 1)) :
    ∃ rule, square? gauss (.int n) = .ok rule ∧ rule.length = n ^ 2 ∧
      (∀ (i j : Nat) (p q : LinePoint ℝ), r[i]? = some p → r[j]? = some q →
        rule.points[j * n + i]? = some ⟨p.node, q.node⟩ ∧
          rule.weights[j * n + i]? = some (p.weight * q.weight)) ∧
      ∀ P : MvPolynomial (Fin 2) ℝ, (∀ i, P.degreeOf i ≤ 2 * n - 1) →
        rule.integrate (fun p => MvPolynomial.eval ![p.x, p.y] P) =
          ∫ x in (-1 : ℝ)..1, ∫ y in (-1 : ℝ)..1, MvPolynomial.eval ![x, y] P := by
  refine ⟨square r, square?_eq_ok (LineRule.ofOrder?_int positive found), ?_, ?_, ?_⟩
  · rw [length_square, nodes, sq]
  · intro i j p q first second
    have placed := getElem?_square first second
    rw [points, weights, List.getElem?_map, List.getElem?_map, ← nodes, placed]
    exact ⟨rfl, rfl⟩
  · intro P degrees
    exact integrate_square_polynomial exact degrees

/-- The rule of two nodes, and a polynomial of degree four in both variables together. -/
theorem square?_integrates_pair :
    let a := Real.sqrt (1 / 3)
    let pair : LineRule ℝ := [⟨-a, 1⟩, ⟨a, 1⟩]
    let gauss : LineFamily ℝ := fun n => .ok (if n = 1 then [⟨0, 2⟩] else pair)
    let P : MvPolynomial (Fin 2) ℝ := .X 0 ^ 2 * .X 1 ^ 2
    pair.IsExact 3 ∧ (∀ i, P.degreeOf i ≤ 3) ∧
      ∃ rule, square? gauss (.int 2) = .ok rule ∧ rule.length = 2 ^ 2 ∧
        rule.points[1 * 2 + 0]? = some ⟨-a, a⟩ ∧ rule.weights[1 * 2 + 0]? = some (1 * 1) ∧
        rule.integrate (fun p => MvPolynomial.eval ![p.x, p.y] P) =
          ∫ x in (-1 : ℝ)..1, ∫ y in (-1 : ℝ)..1, MvPolynomial.eval ![x, y] P := by
  intro a pair gauss P
  have exact : pair.IsExact 3 := LineRule.isExact_pair (Real.sq_sqrt (by norm_num))
  have degrees (i : Fin 2) : P.degreeOf i ≤ 3 := by
    have first := MvPolynomial.degreeOf_pow_le i (.X 0 : MvPolynomial (Fin 2) ℝ) 2
    have second := MvPolynomial.degreeOf_pow_le i (.X 1 : MvPolynomial (Fin 2) ℝ) 2
    refine (MvPolynomial.degreeOf_mul_le i _ _).trans ((Nat.add_le_add first second).trans ?_)
    fin_cases i <;> simp [MvPolynomial.degreeOf_X]
  obtain ⟨rule, made, length, placed, integrates⟩ :=
    square?_integrates 2 gauss pair one_le_two rfl rfl exact
  have corner := placed 0 1 _ _ rfl rfl
  exact ⟨exact, degrees, rule, made, length, corner.1, corner.2, integrates P degrees⟩

end Rule
end NonconformingQuad
end
