import Mathlib.Analysis.SpecialFunctions.Integrals.Basic
import NonconformingQuad.Proofs.Evaluation.Success
import NonconformingQuad.Proofs.Geometry.Area
import NonconformingQuad.Proofs.Geometry.Numbering
import NonconformingQuad.Proofs.Quadrature.Exactness

/-! Mass and stiffness of the element on convex cells. The shape functions are affine on the cell
and the map is bilinear, so on the reference square their products have degree two in each variable;
the determinant, whose sign is that of the cell, adds one more. The rule of order two is just exact
for this, and every rule of higher order gives the same sums. -/
noncomputable section
namespace NonconformingQuad

namespace Context
variable {K : Type} [Scalar K]

/-- Sum of the numbers that are told for the first `n` points. -/
def totalOverPoints (n : Nat) (answer : Literal → Except (Fault K) K) : Except (Fault K) K :=
  (List.range n).foldlM (fun (total : K) (q : Nat) => do return total + (← answer (.int q))) 0

/-- What a point contributes to an entry of the mass matrix. -/
def weightedProduct (i j : Corner) (c : Context K) (q : Literal) : Except (Fault K) K := do
  let w ← c.weight q
  let u ← c.shapeValue (.int i.number) q
  let v ← c.shapeValue (.int j.number) q
  return w * u * v

/-- What a point contributes to an entry of the stiffness matrix. -/
def weightedEnergy (i j : Corner) (c : Context K) (q : Literal) : Except (Fault K) K := do
  let w ← c.weight q
  let g ← c.shapeGradient (.int i.number) q
  let h ← c.shapeGradient (.int j.number) q
  return w * Point.dot g h

end Context

namespace Quad
variable (V : Quad ℝ) (M N : Affine ℝ)

/-- The integrand of the mass matrix on the reference square. -/
def massDensity (p : Point ℝ) : ℝ :=
  Scalar.abs (Reference.jacobian V p).determinant *
    (M.eval (Bilinear.mapPoint V p) * N.eval (Bilinear.mapPoint V p))

/-- Along each of the two reference directions a function that is affine on the cell is affine. -/
theorem isPolynomial_eval_mapPoint :
    (∀ y, IsPolynomial 1 fun x => N.eval (Bilinear.mapPoint V ⟨x, y⟩)) ∧
      ∀ x, IsPolynomial 1 fun y => N.eval (Bilinear.mapPoint V ⟨x, y⟩) := by
  constructor
  all_goals
    intro s
    refine IsPolynomial.of_values fun t => ?_
    simp only [Affine.eval, Bilinear.mapPoint, Bilinear.combine, Bilinear.weight,
      Scalar.quarter_real]
    ring

variable {V M N} {r : LineRule ℝ} {s : ℝ}

theorem isPolynomial_density (D : Affine ℝ) (s : ℝ) :
    let density (p : Point ℝ) := s * D.eval p *
      (M.eval (Bilinear.mapPoint V p) * N.eval (Bilinear.mapPoint V p))
    (∀ y, IsPolynomial 3 fun x => density ⟨x, y⟩) ∧
      ∀ x, IsPolynomial 3 fun y => density ⟨x, y⟩ := by
  obtain ⟨first, second⟩ := V.isPolynomial_eval_mapPoint M
  obtain ⟨first', second'⟩ := V.isPolynomial_eval_mapPoint N
  constructor
  · intro y
    refine IsPolynomial.mul (d := 1) (IsPolynomial.of_values fun t => ?_) ((first y).mul (first' y))
    simp only [Affine.eval]
    ring
  · intro x
    refine IsPolynomial.mul (d := 1) (IsPolynomial.of_values fun t => ?_)
      ((second x).mul (second' x))
    simp only [Affine.eval]
    ring

/-- A rule that is exact up to degree three finds the integral over the reference square, although
the density holds the magnitude of a determinant. -/
theorem integrate_massDensity (exact : r.IsExact 3)
    (within : ∀ p ∈ r, -1 ≤ p.node ∧ p.node ≤ 1) (oriented : V.HasOrientation s) :
    (Rule.square r).integrate (V.massDensity M N) =
      ∫ x in (-1 : ℝ)..1, ∫ y in (-1 : ℝ)..1, V.massDensity M N ⟨x, y⟩ := by
  obtain ⟨D, -, determinant⟩ := V.exists_determinant_affine
  obtain ⟨inX, inY⟩ := isPolynomial_density (V := V) (M := M) (N := N) D s
  have signed (p : Point ℝ) (inside : Reference.IsInside p) : V.massDensity M N p =
      s * D.eval p * (M.eval (Bilinear.mapPoint V p) * N.eval (Bilinear.mapPoint V p)) := by
    rw [massDensity, oriented.abs p inside, determinant]
  have closed (t : ℝ) (inside : t ∈ Set.uIcc (-1 : ℝ) 1) : -1 ≤ t ∧ t ≤ 1 := by
    rwa [Set.uIcc_of_le (by norm_num)] at inside
  have smooth : (Rule.square r).integrate (V.massDensity M N) = (Rule.square r).integrate fun p =>
      s * D.eval p * (M.eval (Bilinear.mapPoint V p) * N.eval (Bilinear.mapPoint V p)) :=
    Rule.integrate_congr fun p member => signed _ (Rule.isInside_of_mem_square within member)
  rw [smooth, Rule.integrate_square_eq_integral exact inX inY]
  refine intervalIntegral.integral_congr fun x first => ?_
  refine intervalIntegral.integral_congr fun y second => ?_
  exact (signed ⟨x, y⟩ ⟨closed x first, closed y second⟩).symm

end Quad

namespace Context
variable {rule : Rule ℝ} {c : Context ℝ} {V : Quad ℝ} {requested : UpdateFlags}

theorem totalOverPoints_eq {answer : Literal → Except (Fault ℝ) ℝ} {f : Point ℝ → ℝ}
    (each : ∀ q (bound : q < rule.length),
      answer (.int q) = .ok (rule[q].weight * f rule[q].point)) :
    totalOverPoints rule.length answer = .ok (rule.integrate f) := by
  have step (total : ℝ) (q : Nat) (bound : q < rule.length) :
      (do return total + (← answer (.int q)) : Except (Fault ℝ) ℝ) =
        .ok (total + rule[q].weight * f rule[q].point) := by
    rw [each q bound]
    rfl
  rw [totalOverPoints,
    Outcome.foldlM_range_eq_ok (f := fun total p => total + p.weight * f p.point) step,
    Rule.integrate, Scalar.sum, List.foldl_map]

/-- The entries that a context adds up, as sums over its rule. -/
theorem matrices_reinit_cell (tol : Tolerances (Bound ℝ)) (gauss : LineFamily ℝ)
    (reached : IsReached (.cell rule) requested c) (values : requested.has .values)
    (gradients : requested.has .gradients) (weights : requested.has .weights) (pointed : rule ≠ [])
    (accepted : V.IsAccepted tol none) (i j : Corner) :
    let evaluated := c.reinit tol gauss (.ok V) .none .none
    evaluated.fault? = none ∧
      totalOverPoints rule.length (evaluated.state.weightedProduct i j) =
        .ok (rule.integrate (V.massDensity (V.coefficients i) (V.coefficients j))) ∧
      totalOverPoints rule.length (evaluated.state.weightedEnergy i j) =
        .ok (rule.integrate fun p => Scalar.abs (Reference.jacobian V p).determinant *
          Point.dot (V.coefficients i).gradient (V.coefficients j).gradient) := by
  intro evaluated
  obtain ⟨succeeded, told⟩ :=
    reinit_tellsAt gauss reached pointed values gradients weights accepted
  refine ⟨succeeded, totalOverPoints_eq fun q bound => ?_, totalOverPoints_eq fun q bound => ?_⟩
  · obtain ⟨-, weight, value, -⟩ := told q bound
    simp only [weightedProduct, evaluated, weight, value, bind, Except.bind, pure, Except.pure,
      Mapping.areaWeight, Quad.massDensity]
    refine congrArg Except.ok ?_
    ring
  · obtain ⟨-, weight, -, gradient⟩ := told q bound
    simp only [weightedEnergy, evaluated, weight, gradient, bind, Except.bind, pure, Except.pure,
      Mapping.areaWeight]
    refine congrArg Except.ok ?_
    ring

/-- On a strictly convex cell with shape functions `N`, contexts with the product rules of any two
orders from two on compute the same mass matrix, that of the integral over the reference square; and
from order one on the stiffness matrix is the product of the gradients times the area. -/
theorem matrices_of_order (n m : Nat) (gauss : LineFamily ℝ) (r s : LineRule ℝ)
    (rule other : Rule ℝ) (tol : Tolerances (Bound ℝ)) (V : Quad ℝ) (N : ShapeTable ℝ)
    (requested : UpdateFlags) (c d : Context ℝ) (i j : Corner) (positive : 1 ≤ n ∧ 1 ≤ m)
    (found : gauss n = .ok r ∧ gauss m = .ok s) (nodes : r.length = n ∧ s.length = m)
    (exact : r.IsExact (2 * n - 1) ∧ s.IsExact (2 * m - 1))
    (made : Rule.square? gauss (.int n) = .ok rule ∧ Rule.square? gauss (.int m) = .ok other)
    (convex : V.IsStrictlyConvex) (solved : (V.shapeTable tol none).outcome = .ok N)
    (values : requested.has .values) (gradients : requested.has .gradients)
    (weights : requested.has .weights) (reached : IsReached (.cell rule) requested c)
    (reached' : IsReached (.cell other) requested d) :
    let first := c.reinit tol gauss (.ok V) .none .none
    let second := d.reinit tol gauss (.ok V) .none .none
    first.fault? = none ∧ second.fault? = none ∧
      (2 ≤ n → 2 ≤ m → ∃ mass : ℝ,
        totalOverPoints rule.length (first.state.weightedProduct i j) = .ok mass ∧
        totalOverPoints other.length (second.state.weightedProduct i j) = .ok mass ∧
        mass = ∫ x in (-1 : ℝ)..1, ∫ y in (-1 : ℝ)..1, V.massDensity (N i) (N j) ⟨x, y⟩) ∧
      totalOverPoints rule.length (first.state.weightedEnergy i j) =
        .ok (|V.midlineDeterminant| * Point.dot (N i).gradient (N j).gradient) := by
  intro first second
  obtain rfl : N = V.coefficients := Quad.eq_coefficients solved
  obtain rfl : Rule.square r = rule := Except.ok.inj
    ((Rule.square?_eq_ok (LineRule.ofOrder?_int positive.1 found.1)).symm.trans made.1)
  obtain rfl : Rule.square s = other := Except.ok.inj
    ((Rule.square?_eq_ok (LineRule.ofOrder?_int positive.2 found.2)).symm.trans made.2)
  obtain ⟨o, oriented⟩ := convex.exists_orientation
  have pointed : r ≠ [] := List.ne_nil_of_length_pos (nodes.1 ▸ positive.1)
  have pointed' : s ≠ [] := List.ne_nil_of_length_pos (nodes.2 ▸ positive.2)
  have centred : r.IsCentred := LineRule.IsExact.isCentred (nodes.1.symm ▸ exact.1) pointed
  have centred' : s.IsCentred := LineRule.IsExact.isCentred (nodes.2.symm ▸ exact.2) pointed'
  obtain ⟨succeeded, mass, energy⟩ := matrices_reinit_cell tol gauss reached values gradients
    weights (Rule.square_ne_nil pointed) ⟨_, solved⟩ i j
  obtain ⟨succeeded', mass', -⟩ := matrices_reinit_cell tol gauss reached' values gradients
    weights (Rule.square_ne_nil pointed') ⟨_, solved⟩ i j
  refine ⟨succeeded, succeeded', fun enough enough' => ⟨_, ?_, ?_, rfl⟩, ?_⟩
  · rw [mass, Quad.integrate_massDensity (exact.1.mono (by omega)) centred.within oriented]
  · rw [mass', Quad.integrate_massDensity (exact.2.mono (by omega)) centred'.within oriented]
  · rw [energy, ← oriented.mul_midlineDeterminant,
      ← Quad.integrate_abs_determinant centred oriented, mul_comm, ← Rule.integrate_const_mul]
    simp only [mul_comm]

set_option maxRecDepth 1000 in
/-- The rules of orders two and three on a trapezoid that is turned over. -/
theorem matrices_of_order_mirrored :
    let pair : LineRule ℝ := [⟨-Real.sqrt (1 / 3), 1⟩, ⟨Real.sqrt (1 / 3), 1⟩]
    let triple : LineRule ℝ :=
      [⟨-Real.sqrt (3 / 5), 5 / 9⟩, ⟨0, 8 / 9⟩, ⟨Real.sqrt (3 / 5), 5 / 9⟩]
    let gauss : LineFamily ℝ := fun n => .ok (if n = 2 then pair else triple)
    let tol := (⟨0, 0, 0⟩ : Tolerances ℝ).map .number
    ∃ (c d : Context ℝ) (N : ShapeTable ℝ) (mass : ℝ),
      (build (.cell (Rule.square pair)) (.ofList [.values, .gradients, .weights])).outcome = .ok c ∧
      (build (.cell (Rule.square triple)) (.ofList [.values, .gradients, .weights])).outcome =
        .ok d ∧
      (Quad.mirrored.shapeTable tol none).outcome = .ok N ∧
      totalOverPoints 4 ((c.reinit tol gauss (.ok .mirrored) .none .none).state.weightedProduct
        .topLeft .topRight) = .ok mass ∧
      totalOverPoints 9 ((d.reinit tol gauss (.ok .mirrored) .none .none).state.weightedProduct
        .topLeft .topRight) = .ok mass ∧
      totalOverPoints 4 ((c.reinit tol gauss (.ok .mirrored) .none .none).state.weightedEnergy
        .topLeft .topRight) =
          .ok (3 / 2 * Point.dot (N .topLeft).gradient (N .topRight).gradient) := by
  intro pair triple gauss tol
  obtain ⟨c, built⟩ : ∃ c : Context ℝ, (build (.cell (Rule.square pair))
      (.ofList [.values, .gradients, .weights])).outcome = .ok c := ⟨_, rfl⟩
  obtain ⟨d, built'⟩ : ∃ d : Context ℝ, (build (.cell (Rule.square triple))
      (.ofList [.values, .gradients, .weights])).outcome = .ok d := ⟨_, rfl⟩
  obtain ⟨N, solved⟩ : Quad.mirrored.IsAccepted tol none := Quad.isAccepted_mirrored
  have two : pair.IsExact (2 * 2 - 1) := LineRule.isExact_pair (Real.sq_sqrt (by norm_num))
  have three : triple.IsExact (2 * 3 - 1) := LineRule.isExact_triple (Real.sq_sqrt (by norm_num))
  obtain ⟨-, -, masses, energy⟩ := matrices_of_order 2 3 gauss pair triple (Rule.square pair)
    (Rule.square triple) tol .mirrored N _ c d .topLeft .topRight (by decide) ⟨rfl, rfl⟩
    ⟨rfl, rfl⟩ ⟨two, three⟩ ⟨rfl, rfl⟩ Quad.isStrictlyConvex_mirrored solved (by decide) (by decide)
    (by decide) ⟨c, built, .refl c⟩ ⟨d, built', .refl d⟩
  obtain ⟨mass, first, second, -⟩ := masses (by decide) (by decide)
  refine ⟨c, d, N, mass, built, built', solved, first, second, energy.trans ?_⟩
  rw [Quad.midlineDeterminant_mirrored]
  norm_num

end Context
end NonconformingQuad
end
