import Mathlib.Algebra.Polynomial.Eval.Degree
import Mathlib.Analysis.SpecialFunctions.Integrals.Basic
import Mathlib.Topology.Algebra.Polynomial
import NonconformingQuad.Proofs.Quadrature.Centred

/-! Line rules that integrate polynomials exactly. A rule of `n` nodes that does so up to degree
`2 * n - 1` has all its nodes in the interval: a node outside would make the integral of a function
of one sign zero. On the square its product integrates every function that is such a polynomial in
each of the two variables, since the sum over one variable passes through the integral over the
other. -/
noncomputable section
namespace NonconformingQuad
open Polynomial

/-- The function is a polynomial of at most this degree. -/
def IsPolynomial (d : Nat) (f : ℝ → ℝ) : Prop := ∃ p : ℝ[X], p.natDegree ≤ d ∧ ∀ t, f t = p.eval t

namespace IsPolynomial
variable {d e : Nat} {f g : ℝ → ℝ}

theorem affine (a b : ℝ) : IsPolynomial 1 fun t => a + b * t := by
  refine ⟨C b * X + C a, natDegree_linear_le, fun t => ?_⟩
  simp only [eval_add, eval_mul, eval_C, eval_X]
  ring

/-- A function is affine when two of its values give all others. -/
theorem of_values (straight : ∀ t, f t = f 0 + (f 1 - f 0) * t) : IsPolynomial 1 f := by
  rw [funext straight]
  exact affine _ _

theorem mul (first : IsPolynomial d f) (second : IsPolynomial e g) :
    IsPolynomial (d + e) fun t => f t * g t := by
  obtain ⟨p, pdegree, psame⟩ := first
  obtain ⟨q, qdegree, qsame⟩ := second
  refine ⟨p * q, natDegree_mul_le.trans (Nat.add_le_add pdegree qdegree), fun t => ?_⟩
  simp only [eval_mul, psame, qsame]

theorem mono (poly : IsPolynomial d f) (le : d ≤ e) : IsPolynomial e f := by
  obtain ⟨p, degree, same⟩ := poly
  exact ⟨p, degree.trans le, same⟩

theorem continuous (poly : IsPolynomial d f) : Continuous f := by
  obtain ⟨p, -, same⟩ := poly
  rw [funext same]
  exact p.continuous

/-- The product of the squared distances to some points. -/
theorem squares (nodes : List ℝ) :
    IsPolynomial (2 * nodes.length) fun t => (nodes.map fun s => (t - s) ^ 2).prod := by
  induction nodes with
  | nil => exact ⟨1, natDegree_one.le, fun t => eval_one.symm⟩
  | cons s rest ih =>
    have factor : IsPolynomial 1 fun t => -s + 1 * t := affine (-s) 1
    obtain ⟨p, degree, same⟩ := (factor.mul factor).mul ih
    refine ⟨p, by rw [List.length_cons]; omega, fun t => ?_⟩
    rw [← same]
    simp only [List.map_cons, List.prod_cons]
    ring

end IsPolynomial

theorem prod_squares_eq_zero {nodes : List ℝ} {t : ℝ} (node : t ∈ nodes) :
    (nodes.map fun s => (t - s) ^ 2).prod = 0 := by
  refine List.prod_eq_zero (List.mem_map.mpr ⟨t, node, ?_⟩)
  rw [sub_self, zero_pow two_ne_zero]

theorem prod_squares_nonneg (nodes : List ℝ) (t : ℝ) :
    0 ≤ (nodes.map fun s => (t - s) ^ 2).prod := by
  refine List.prod_nonneg fun x factor => ?_
  obtain ⟨s, -, rfl⟩ := List.mem_map.mp factor
  exact sq_nonneg _

/-- There is room between the nodes. -/
theorem exists_prod_squares_pos (nodes : List ℝ) :
    ∃ t ∈ Set.Icc (-1 : ℝ) 1, 0 < (nodes.map fun s => (t - s) ^ 2).prod := by
  have infinite : (Set.Icc (-1 : ℝ) 1).Infinite := Set.Icc_infinite (by norm_num)
  obtain ⟨t, inside, off⟩ := infinite.exists_notMem_finset nodes.toFinset
  refine ⟨t, inside, List.prod_pos fun x factor => ?_⟩
  obtain ⟨s, node, rfl⟩ := List.mem_map.mp factor
  have apart : t ≠ s := fun same => off (List.mem_toFinset.mpr (same ▸ node))
  exact sq_pos_of_ne_zero (sub_ne_zero.mpr apart)

namespace LineRule
variable {r : LineRule ℝ} {d : Nat} {f : ℝ → ℝ}

/-- Powers up to this degree have their integral over the interval from `-1` to `1`. -/
def IsExact (d : Nat) (r : LineRule ℝ) : Prop :=
  ∀ j ≤ d, r.integrate (fun t => t ^ j) = ∫ t in (-1 : ℝ)..1, t ^ j

theorem IsExact.mono {e : Nat} (exact : r.IsExact d) (le : e ≤ d) : r.IsExact e :=
  fun j below => exact j (below.trans le)

theorem integrate_sum (n : Nat) (f : Nat → ℝ → ℝ) :
    r.integrate (fun t => ∑ i ∈ Finset.range n, f i t) =
      ∑ i ∈ Finset.range n, r.integrate (f i) := by
  induction n with
  | zero => simp [integrate_eq]
  | succ n ih => simp only [Finset.sum_range_succ, integrate_add, ih]

theorem integrate_eq_zero (vanishes : ∀ p ∈ r, f p.node = 0) : r.integrate f = 0 := by
  rw [integrate_eq]
  refine List.sum_eq_zero fun x member => ?_
  obtain ⟨p, inside, rfl⟩ := List.mem_map.mp member
  rw [vanishes p inside, mul_zero]

/-- The sum over the nodes passes through an integral. -/
theorem integrate_integral {G : ℝ → ℝ → ℝ} (continuous : ∀ y, Continuous fun x => G x y) :
    (r.integrate fun y => ∫ x in (-1 : ℝ)..1, G x y) =
      ∫ x in (-1 : ℝ)..1, r.integrate fun y => G x y := by
  simp only [integrate_eq]
  induction r with
  | nil => simp
  | cons p rest ih =>
    have term : Continuous fun x => p.weight * G x p.node := (continuous p.node).const_mul _
    have terms : Continuous fun x => (rest.map fun q => q.weight * G x q.node).sum :=
      continuous_list_sum rest fun q _ => (continuous q.node).const_mul _
    simp only [List.map_cons, List.sum_cons, ih]
    rw [intervalIntegral.integral_add (term.intervalIntegrable _ _) (terms.intervalIntegrable _ _),
      intervalIntegral.integral_const_mul]

theorem IsExact.integral_eq (exact : r.IsExact d) (poly : IsPolynomial d f) :
    r.integrate f = ∫ t in (-1 : ℝ)..1, f t := by
  obtain ⟨p, degree, same⟩ := poly
  have powers : f = fun t => ∑ i ∈ Finset.range (d + 1), p.coeff i * t ^ i := by
    funext t
    rw [same, eval_eq_sum_range' (Nat.lt_succ_of_le degree)]
  rw [powers, integrate_sum, intervalIntegral.integral_finsetSum]
  · refine Finset.sum_congr rfl fun i member => ?_
    rw [integrate_const_mul, exact i (Nat.lt_succ_iff.mp (Finset.mem_range.mp member)),
      intervalIntegral.integral_const_mul]
  · intro i _
    exact (by fun_prop : Continuous fun t : ℝ => p.coeff i * t ^ i).intervalIntegrable _ _

/-- An affine function that vanishes at a node is not positive on the whole interval. -/
theorem IsExact.not_pos (exact : r.IsExact (2 * r.length - 1)) {p : LinePoint ℝ} (member : p ∈ r)
    {a b : ℝ} (vanishes : a + b * p.node = 0) : ¬∀ t ∈ Set.Icc (-1) 1, 0 < a + b * t := by
  intro positive
  obtain ⟨front, back, rfl⟩ := List.append_of_mem member
  -- times the squared distances to the other nodes, it vanishes at all of them
  let others := (front ++ back).map (·.node)
  let f : ℝ → ℝ := fun t => (a + b * t) * (others.map fun s => (t - s) ^ 2).prod
  have poly : IsPolynomial (2 * (front ++ p :: back).length - 1) f := by
    have degree : 2 * (front ++ p :: back).length - 1 = 1 + 2 * others.length := by
      simp only [others, List.length_map, List.length_append, List.length_cons]
      omega
    rw [degree]
    exact (IsPolynomial.affine a b).mul (IsPolynomial.squares others)
  have zero : LineRule.integrate (front ++ p :: back) f = 0 := by
    refine integrate_eq_zero fun q inside => ?_
    rcases List.mem_append.mp inside with before | later
    · exact mul_eq_zero_of_right _ (prod_squares_eq_zero (List.mem_map.mpr
        ⟨q, List.mem_append_left _ before, rfl⟩))
    · rcases List.mem_cons.mp later with rfl | after
      · exact mul_eq_zero_of_left vanishes _
      · exact mul_eq_zero_of_right _ (prod_squares_eq_zero (List.mem_map.mpr
          ⟨q, List.mem_append_right _ after, rfl⟩))
  have nonneg (t : ℝ) (inside : t ∈ Set.Ioc (-1) 1) : 0 ≤ f t :=
    mul_nonneg (positive t ⟨inside.1.le, inside.2⟩).le (prod_squares_nonneg others t)
  obtain ⟨t, inside, between⟩ := exists_prod_squares_pos others
  have somewhere : ∃ t ∈ Set.Icc (-1 : ℝ) 1, 0 < f t :=
    ⟨t, inside, mul_pos (positive t inside) between⟩
  have integral : 0 < ∫ t in (-1 : ℝ)..1, f t :=
    intervalIntegral.integral_pos (by norm_num) poly.continuous.continuousOn nonneg somewhere
  rw [← exact.integral_eq poly, zero] at integral
  exact lt_irrefl 0 integral

theorem IsExact.within (exact : r.IsExact (2 * r.length - 1)) :
    ∀ p ∈ r, -1 ≤ p.node ∧ p.node ≤ 1 := by
  intro p member
  constructor
  · by_contra below
    refine exact.not_pos (a := -p.node) (b := 1) member (by ring) fun t inside => ?_
    linarith [inside.1]
  · by_contra above
    refine exact.not_pos (a := p.node) (b := -1) member (by ring) fun t inside => ?_
    linarith [inside.2]

theorem IsExact.isCentred (exact : r.IsExact (2 * r.length - 1)) (pointed : r ≠ []) :
    r.IsCentred := by
  have positive := List.length_pos_iff.mpr pointed
  refine ⟨exact.within, ?_, ?_⟩
  · have total := exact 0 (Nat.zero_le _)
    simp only [pow_zero] at total
    rw [total, intervalIntegral.integral_const]
    norm_num
  · have moment := exact 1 (by omega)
    simp only [pow_one] at moment
    rw [moment, integral_id]
    norm_num

theorem isExact_pair {a : ℝ} (square : a ^ 2 = 1 / 3) : IsExact 3 [⟨-a, 1⟩, ⟨a, 1⟩] := by
  intro j below
  rw [integral_pow]
  interval_cases j <;> norm_num [integrate_eq]
  · linarith
  · ring

theorem isExact_triple {a : ℝ} (square : a ^ 2 = 3 / 5) :
    IsExact 5 [⟨-a, 5 / 9⟩, ⟨0, 8 / 9⟩, ⟨a, 5 / 9⟩] := by
  have fourth : a ^ 4 = 9 / 25 := by
    rw [show a ^ 4 = (a ^ 2) ^ 2 by ring, square]
    norm_num
  intro j below
  rw [integral_pow]
  interval_cases j <;> norm_num [integrate_eq]
  all_goals linarith

end LineRule

namespace Rule
variable {r : LineRule ℝ} {d : Nat} {g : Point ℝ → ℝ}

/-- The product of an exact rule integrates what is a polynomial in each variable alone. -/
theorem integrate_square_eq_integral (exact : r.IsExact d)
    (inX : ∀ y, IsPolynomial d fun x => g ⟨x, y⟩) (inY : ∀ x, IsPolynomial d fun y => g ⟨x, y⟩) :
    (square r).integrate g = ∫ x in (-1 : ℝ)..1, ∫ y in (-1 : ℝ)..1, g ⟨x, y⟩ := by
  have columns := r.integrate_integral fun y => (inX y).continuous
  simp only [integrate_square, exact.integral_eq (inX _), columns, exact.integral_eq (inY _)]

end Rule
end NonconformingQuad
end
