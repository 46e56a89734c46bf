import Mathlib.Analysis.SpecialFunctions.Log.Basic
import NonconformingQuad.Geometry.Jacobian
import NonconformingQuad.Proofs.Geometry.Midlines
import NonconformingQuad.Quadrature.Rule

/-! Convex cells. Over the reals the elimination that computes a determinant gives the cross
product of the two derivatives. This is affine on the reference square, so its values at the four
corners decide: a cell whose corners all turn the same way has one orientation everywhere. -/
noncomputable section
namespace NonconformingQuad
open Scalar

namespace Jacobian
variable (J : Jacobian ℝ)

/-- Magnitudes are multiplied by adding their logarithms; the signs are put in afterwards. -/
theorem triangular_real {p q : ℝ} (nonzero : p ≠ 0) : triangular p q = p * q := by
  by_cases flat : q = 0
  · simp [triangular, flat]
  have magnitude : exp (log (Scalar.abs p) + log (Scalar.abs q)) = |p| * |q| := by
    change Real.exp (Real.log |p| + Real.log |q|) = _
    rw [Real.exp_add, Real.exp_log (abs_pos.mpr nonzero), Real.exp_log (abs_pos.mpr flat)]
  simp only [triangular, isZero_real, flat, if_false, magnitude]
  rcases lt_or_gt_of_ne nonzero with left | left <;> rcases lt_or_gt_of_ne flat with right | right
  · simp [left, right, abs_of_neg]
  · simp [left, right.not_gt, abs_of_neg, abs_of_pos right]
  · simp [left.not_gt, right, abs_of_neg, abs_of_pos left]
  · simp [left.not_gt, right.not_gt, abs_of_pos left, abs_of_pos right]

theorem eliminate_real {pivot row : Point ℝ} (nonzero : pivot.x ≠ 0) :
    J.eliminate pivot row = Point.cross pivot row := by
  have inverse : ¬IsZero (1 / pivot.x) := by
    rw [isZero_real]
    exact one_div_ne_zero nonzero
  have zero : ¬IsZero pivot.x := by
    rw [isZero_real]
    exact nonzero
  have divisor : isDivisor pivot.x = true := rfl
  rw [eliminate, if_neg zero, if_pos divisor, triangular_real nonzero, remainder]
  simp only [if_neg inverse, Point.cross]
  field_simp

theorem determinant_real : J.determinant = Point.cross J.dx J.dy := by
  have swapped : Point.cross J.dx J.dy = -Point.cross J.dy J.dx := by
    simp only [Point.cross]
    ring
  rw [determinant]
  split
  · next larger =>
    have nonzero : J.dy.x ≠ 0 := abs_pos.mp ((abs_nonneg _).trans_lt larger)
    rw [eliminate_real J nonzero, swapped]
  · next smaller =>
    by_cases flat : J.dx.x = 0
    · -- neither derivative has a first component
      have other : J.dy.x = 0 := by
        rw [abs_real, abs_real, flat, abs_zero, not_lt] at smaller
        exact abs_nonpos_iff.mp smaller
      simp [eliminate, flat, other, Point.cross]
    · exact eliminate_real J flat

end Jacobian

namespace Reference
variable (V : Quad ℝ)

def vertex (k : Corner) : Point ℝ := ⟨unit (corner k).1, unit (corner k).2⟩

theorem determinant_jacobian (p : Point ℝ) :
    (jacobian V p).determinant =
      Corner.sum fun k => shape p k * (jacobian V (vertex k)).determinant := by
  simp only [Jacobian.determinant_real, Point.cross, jacobian, Corner.sum, grad, shape, vertex,
    corner, unit, quarter_real]
  norm_num
  ring

/-- The point lies in the reference square. -/
def IsInside (p : Point ℝ) : Prop := (-1 ≤ p.x ∧ p.x ≤ 1) ∧ -1 ≤ p.y ∧ p.y ≤ 1

theorem isInside_vertex (k : Corner) : IsInside (vertex k) := by
  cases k <;> norm_num [IsInside, vertex, corner, unit]

variable {V} {p : Point ℝ}

theorem shape_nonneg (inside : IsInside p) (k : Corner) : 0 ≤ shape p k := by
  obtain ⟨⟨left, right⟩, bottom, top⟩ := inside
  have weights : 0 ≤ 1 + p.x ∧ 0 ≤ 1 - p.x ∧ 0 ≤ 1 + p.y ∧ 0 ≤ 1 - p.y :=
    ⟨by linarith, by linarith, by linarith, by linarith⟩
  obtain ⟨east, west, north, south⟩ := weights
  cases k <;> simp only [shape, corner, unit, quarter_real] <;> norm_num <;> positivity

theorem sum_shape (p : Point ℝ) : Corner.sum (shape p) = 1 := by
  simp only [Corner.sum, shape, corner, unit, quarter_real]
  norm_num
  ring

theorem mean_pos (inside : IsInside p) {d : Corner → ℝ} (positive : ∀ k, 0 < d k) :
    0 < Corner.sum fun k => shape p k * d k := by
  have total := sum_shape p
  obtain ⟨k, weighted⟩ : ∃ k, 0 < shape p k := by
    by_contra none
    push Not at none
    have bounds := And.intro (add_nonpos (none .bottomLeft) (none .bottomRight))
      (add_nonpos (none .topLeft) (none .topRight))
    simp only [Corner.sum] at total
    linarith [bounds.1, bounds.2]
  have term : 0 < shape p k * d k := mul_pos weighted (positive k)
  have each (j : Corner) : 0 ≤ shape p j * d j :=
    mul_nonneg (shape_nonneg inside j) (positive j).le
  simp only [Corner.sum]
  cases k <;>
    linarith [each .bottomLeft, each .bottomRight, each .topLeft, each .topRight]

end Reference

namespace Rule
variable {r : LineRule ℝ} {p : RulePoint ℝ}

theorem isInside_of_mem_square (within : ∀ p ∈ r, -1 ≤ p.node ∧ p.node ≤ 1)
    (inside : p ∈ square r) : Reference.IsInside p.point := by
  obtain ⟨y, second, row⟩ := List.mem_flatMap.mp inside
  obtain ⟨x, first, rfl⟩ := List.mem_map.mp row
  exact ⟨within x first, within y second⟩

theorem isInside_of_mem_onFace (within : ∀ p ∈ r, -1 ≤ p.node ∧ p.node ≤ 1) {f : Face}
    (inside : p ∈ onFace f r) : Reference.IsInside p.point := by
  obtain ⟨t, member, rfl⟩ := List.mem_map.mp inside
  have bounds := within t member
  cases f <;> simp only [Reference.IsInside, Face.pointAt, bounds] <;> norm_num

end Rule

/-- Each half of the interval is part of it. -/
theorem LineRule.within_onHalf {r : LineRule ℝ} (within : ∀ p ∈ r, -1 ≤ p.node ∧ p.node ≤ 1)
    (h : Half) : ∀ p ∈ r.onHalf h, -1 ≤ p.node ∧ p.node ≤ 1 := by
  intro p member
  obtain ⟨whole, inside, rfl⟩ := List.mem_map.mp member
  obtain ⟨low, high⟩ := within whole inside
  cases h <;> simp only [Scalar.half_real] <;> constructor <;> linarith

namespace Quad
open Reference
variable {V : Quad ℝ}

/-- All corners turn the same way, one of the two. -/
def IsStrictlyConvex (V : Quad ℝ) : Prop :=
  (∀ k, 0 < (jacobian V (vertex k)).determinant) ∨ ∀ k, (jacobian V (vertex k)).determinant < 0

/-- All corners turn to the left: a strictly convex cell with positive orientation. -/
def TurnsLeft (V : Quad ℝ) : Prop := ∀ k, 0 < (jacobian V (vertex k)).determinant

/-- One sign belongs to the determinants at all points of the reference square. -/
structure HasOrientation (V : Quad ℝ) (s : ℝ) : Prop where
  nonzero : ∀ p, IsInside p → (jacobian V p).determinant ≠ 0
  sign : ∀ p, IsInside p → sign (jacobian V p).determinant = s
  abs : ∀ p, IsInside p → Scalar.abs (jacobian V p).determinant = s * (jacobian V p).determinant

theorem TurnsLeft.hasOrientation (positive : V.TurnsLeft) : V.HasOrientation 1 := by
  have orientation (p : Point ℝ) (inside : IsInside p) : 0 < (jacobian V p).determinant := by
    rw [determinant_jacobian]
    exact mean_pos inside positive
  refine ⟨fun p inside => (orientation p inside).ne', fun p inside => ?_, fun p inside => ?_⟩
  · exact if_pos (orientation p inside)
  · rw [abs_real, abs_of_pos (orientation p inside), one_mul]

theorem IsStrictlyConvex.exists_orientation (convex : V.IsStrictlyConvex) :
    ∃ s, V.HasOrientation s := by
  rcases convex with positive | negative
  · exact ⟨1, TurnsLeft.hasOrientation positive⟩
  · have orientation (p : Point ℝ) (inside : IsInside p) : (jacobian V p).determinant < 0 := by
      have mirrored := mean_pos inside fun k => neg_pos.mpr (negative k)
      rw [determinant_jacobian]
      simp only [Corner.sum] at mirrored ⊢
      linarith
    refine ⟨-1, fun p inside => (orientation p inside).ne, fun p inside => ?_, fun p inside => ?_⟩
    · rw [Scalar.sign, if_neg (orientation p inside).not_gt, if_pos (orientation p inside)]
    · rw [abs_real, abs_of_neg (orientation p inside), neg_one_mul]

variable (V)

/-- The determinant is an affine function of the reference point. In the middle it is a quarter of
that of the midlines. -/
theorem exists_determinant_affine :
    ∃ D : Affine ℝ, D.c = V.midlineDeterminant / 4 ∧
      ∀ p, (jacobian V p).determinant = D.eval p := by
  -- the two derivatives in the middle, and the mixed derivative that both of them change by
  let u : Point ℝ := (jacobian V ⟨0, 0⟩).dx
  let v : Point ℝ := (jacobian V ⟨0, 0⟩).dy
  let w : Point ℝ := (jacobian V ⟨0, 1⟩).dx - u
  refine ⟨⟨Point.cross u w, Point.cross w v, Point.cross u v⟩, ?_, fun p => ?_⟩
  · simp only [u, v, Point.cross, midlineDeterminant_eq, jacobian, Corner.sum, grad, corner, unit,
      quarter_real]
    norm_num
    ring
  · simp only [u, v, w, Jacobian.determinant_real, Affine.eval, Point.cross, jacobian, Corner.sum,
      grad, corner, unit, quarter_real, Point.sub_x, Point.sub_y]
    norm_num
    ring

/-- Half of a face as a vector, from its first vertex. -/
def halfEdge (f : Face) : Point ℝ := Point.scale Scalar.half (V f.second - V f.first)

/-- The half edge turned by a quarter, to the outside of a cell with positive orientation. -/
def outward (f : Face) : Point ℝ := Point.scale f.turn ⟨-(V.halfEdge f).y, (V.halfEdge f).x⟩

theorem along_tangent (f : Face) (t : ℝ) :
    (jacobian V (f.pointAt t)).along f.tangent = V.halfEdge f := by
  cases f <;> apply Point.ext <;>
    simp only [Jacobian.along, Face.tangent, Face.pointAt, jacobian, Corner.sum, grad, corner, unit,
      halfEdge, Point.scale, Point.sub_x, Point.sub_y, Face.first, Face.second, quarter_real,
      half_real] <;>
    norm_num <;> ring

theorem mapPoint_pointAt (f : Face) (t : ℝ) :
    Bilinear.mapPoint V (f.pointAt t) = V.edgeMidpoint f + Point.scale t (V.halfEdge f) := by
  cases f <;> apply Point.ext <;>
    simp only [Bilinear.mapPoint, Bilinear.combine, Bilinear.weight, Face.pointAt, halfEdge,
      Point.scale, Point.add_x, Point.add_y, Point.sub_x, Point.sub_y, edgeMidpoint_x,
      edgeMidpoint_y, Face.first, Face.second, quarter_real, half_real] <;>
    ring

/-- Green's identity for an affine function: what leaves through the edges is the gradient times
the area, both taken with the orientation of the cell. -/
theorem green_affine (N : Affine ℝ) :
    Point.scale V.midlineDeterminant N.gradient =
      Point.scale (2 * N.eval (V.edgeMidpoint .left)) (V.outward .left) +
        Point.scale (2 * N.eval (V.edgeMidpoint .right)) (V.outward .right) +
        Point.scale (2 * N.eval (V.edgeMidpoint .bottom)) (V.outward .bottom) +
        Point.scale (2 * N.eval (V.edgeMidpoint .top)) (V.outward .top) := by
  apply Point.ext <;>
    simp only [midlineDeterminant_eq, outward, halfEdge, Face.turn, Affine.gradient, Affine.eval,
      Point.scale, Point.add_x, Point.add_y, Point.sub_x, Point.sub_y, edgeMidpoint_x,
      edgeMidpoint_y, Face.first, Face.second, half_real] <;>
    ring

theorem isStrictlyConvex_mirrored : mirrored.IsStrictlyConvex := by
  right
  intro k
  rw [Jacobian.determinant_real]
  cases k <;>
    norm_num [mirrored, of, Point.cross, jacobian, vertex, grad, corner, unit, Corner.sum]

end Quad
end NonconformingQuad
end
