import Mathlib.Analysis.SpecialFunctions.Log.Basic
import Mathlib.Tactic.LinearCombination
import NonconformingQuad.Basis.Affine
import NonconformingQuad.Geometry.Bilinear
import NonconformingQuad.Proofs.RealScalar

/-! The midlines of a quadrilateral over the reals. They halve each other at the centroid, so
the four edge midpoints lie at half a midline from it. An affine function is known by its
values at these midpoints as soon as the midlines are independent. -/
noncomputable section
namespace NonconformingQuad
open Scalar

namespace Point

/-- Two vectors that are independent separate all others by their scalar products. -/
theorem eq_of_dot_eq {d e g h : Point ℝ} (independent : cross d e ≠ 0)
    (first : dot g d = dot h d) (second : dot g e = dot h e) : g = h := by
  simp only [dot] at first second
  have along : (g.x - h.x) * cross d e = 0 := by
    simp only [cross]
    linear_combination e.y * first - d.y * second
  have across : (g.y - h.y) * cross d e = 0 := by
    simp only [cross]
    linear_combination d.x * second - e.x * first
  apply Point.ext
  · exact sub_eq_zero.mp ((mul_eq_zero.mp along).resolve_right independent)
  · exact sub_eq_zero.mp ((mul_eq_zero.mp across).resolve_right independent)

theorem midpoint_comm (p q : Point ℝ) : midpoint p q = midpoint q p := by
  apply Point.ext <;> simp only [midpoint, scale, add_x, add_y] <;> ring

theorem dot_scale (g v : Point ℝ) (c : ℝ) : dot g (scale c v) = c * dot g v := by
  simp only [dot, scale]
  ring

end Point

namespace Affine

theorem eval_add (N : Affine ℝ) (p v : Point ℝ) :
    N.eval (p + v) = N.eval p + Point.dot N.gradient v := by
  simp only [eval, gradient, Point.dot, Point.add_x, Point.add_y]
  ring

theorem eval_sub_eval (N : Affine ℝ) (p q : Point ℝ) :
    N.eval p - N.eval q = Point.dot N.gradient (p - q) := by
  simp only [eval, gradient, Point.dot, Point.sub_x, Point.sub_y]
  ring

end Affine

namespace Quad

variable (V : Quad ℝ)

theorem edgeMidpoint_x (f : Face) :
    (V.edgeMidpoint f).x = ((V f.first).x + (V f.second).x) / 2 := by
  simp only [edgeMidpoint, Point.midpoint, Point.scale, Point.add_x, half_real]
  ring

theorem edgeMidpoint_y (f : Face) :
    (V.edgeMidpoint f).y = ((V f.first).y + (V f.second).y) / 2 := by
  simp only [edgeMidpoint, Point.midpoint, Point.scale, Point.add_y, half_real]
  ring

/-- The middle of the reference square belongs to the average of the vertices. -/
theorem mapPoint_middle : Bilinear.mapPoint V ⟨0, 0⟩ = V.vertexAverage := by
  apply Point.ext <;>
    simp only [Bilinear.mapPoint, Bilinear.combine, Bilinear.weight, vertexAverage, Point.scale,
      Point.add_x, Point.add_y, quarter_real] <;>
    ring

/-- From the centroid to the midpoint of a face. -/
def toMidpoint : Face → Point ℝ
  | .left => Point.scale (1 / 2) V.midlineX
  | .right => Point.scale (-1 / 2) V.midlineX
  | .bottom => Point.scale (1 / 2) V.midlineY
  | .top => Point.scale (-1 / 2) V.midlineY

/-- The midlines halve each other: both pairs of opposite midpoints have the centroid in
their middle, since both pairs are made of the same four vertices. -/
theorem edgeMidpoint_eq (f : Face) : V.edgeMidpoint f = V.centroid + V.toMidpoint f := by
  cases f <;> apply Point.ext <;>
    simp only [toMidpoint, centroid, midlineX, midlineY, Point.scale, Point.add_x, Point.add_y,
      Point.sub_x, Point.sub_y, edgeMidpoint_x, edgeMidpoint_y, quarter_real,
      Face.first, Face.second] <;>
    ring

/-- The values at the edge midpoints determine an affine function, unless the midlines are
parallel. -/
theorem eq_of_eval_edgeMidpoint {M N : Affine ℝ} (independent : V.midlineDeterminant ≠ 0)
    (agree : ∀ f, M.eval (V.edgeMidpoint f) = N.eval (V.edgeMidpoint f)) : M = N := by
  have slope (f g : Face) : Point.dot M.gradient (V.edgeMidpoint f - V.edgeMidpoint g) =
      Point.dot N.gradient (V.edgeMidpoint f - V.edgeMidpoint g) := by
    rw [← Affine.eval_sub_eval, ← Affine.eval_sub_eval, agree f, agree g]
  have gradients : M.gradient = N.gradient :=
    Point.eq_of_dot_eq independent (slope .left .right) (slope .bottom .top)
  obtain ⟨first, second⟩ := Point.mk.inj gradients
  have constants : M.c = N.c := by
    have value := agree .left
    simp only [Affine.eval, first, second] at value
    linear_combination value
  exact Affine.ext first second constants

/-- The determinant in the coordinates of the vertices. -/
theorem midlineDeterminant_eq :
    V.midlineDeterminant =
      (((V .bottomLeft).x + (V .topLeft).x - (V .bottomRight).x - (V .topRight).x) *
          ((V .bottomLeft).y + (V .bottomRight).y - (V .topLeft).y - (V .topRight).y) -
        ((V .bottomLeft).x + (V .bottomRight).x - (V .topLeft).x - (V .topRight).x) *
          ((V .bottomLeft).y + (V .topLeft).y - (V .bottomRight).y - (V .topRight).y)) / 4 := by
  simp only [midlineDeterminant, midlineX, midlineY, Point.cross, Point.sub_x, Point.sub_y,
    edgeMidpoint_x, edgeMidpoint_y, Face.first, Face.second]
  ring

/-- A cell that is not convex: its last vertex lies inside the triangle of the others. -/
def arrowhead : Quad ℝ := .of ⟨0, 0⟩ ⟨2, 0⟩ ⟨0, 2⟩ ⟨1 / 2, 1 / 2⟩

/-- A cell with all its vertices on a line. -/
def flattened : Quad ℝ := .of ⟨0, 0⟩ ⟨1, 0⟩ ⟨2, 0⟩ ⟨3, 0⟩

/-- A convex cell that is turned over: its outline runs with the clock. -/
def mirrored : Quad ℝ := .of ⟨0, 0⟩ ⟨-2, 0⟩ ⟨0, 1⟩ ⟨-1, 1⟩

theorem vertexAverage_arrowhead : arrowhead.vertexAverage = ⟨5 / 8, 5 / 8⟩ := by
  apply Point.ext <;> norm_num [vertexAverage, arrowhead, of, Point.scale]

theorem vertexAverage_flattened : flattened.vertexAverage = ⟨3 / 2, 0⟩ := by
  apply Point.ext <;> norm_num [vertexAverage, flattened, of, Point.scale]

theorem midlineDeterminant_arrowhead : arrowhead.midlineDeterminant = 1 := by
  norm_num [midlineDeterminant_eq, arrowhead, of]

theorem midlineDeterminant_flattened : flattened.midlineDeterminant = 0 := by
  norm_num [midlineDeterminant_eq, flattened, of]

theorem midlineDeterminant_mirrored : mirrored.midlineDeterminant = -3 / 2 := by
  norm_num [midlineDeterminant_eq, mirrored, of]

end Quad
end NonconformingQuad
end
