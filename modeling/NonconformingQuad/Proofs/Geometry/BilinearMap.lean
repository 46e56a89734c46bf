import Mathlib.Analysis.SpecialFunctions.Log.Basic
import NonconformingQuad.Geometry.Jacobian
import NonconformingQuad.Proofs.Basis.StackInput
import NonconformingQuad.Proofs.Geometry.Midlines
import NonconformingQuad.Proofs.RealScalar

/-! The bilinear map of a cell, which is written down twice: with the weights of the vertices
multiplied out, and from the table of the reference corners. Over the reals both are one map. It
takes the reference corners to the vertices. In each of the two reference directions it is affine,
so its derivative gives the difference of any two of its values along that direction, however far
apart they are. -/
noncomputable section
namespace NonconformingQuad
open Scalar

namespace Reference
variable (p : Point ℝ) (h : ℝ) (k : Corner) (V : Quad ℝ)

theorem unit_neg_one : (unit (-1) : ℝ) = -1 := if_pos (by decide)

theorem unit_one : (unit 1 : ℝ) = 1 := if_neg (by decide)

theorem weight_eq_shape : Bilinear.weight p k = shape p k := by
  cases k <;> simp only [Bilinear.weight, shape, corner, unit_neg_one, unit_one] <;> ring

theorem slope_eq_grad : Bilinear.slope p k = grad p k := by
  cases k <;> apply Point.ext <;>
    simp only [Bilinear.slope, grad, corner, unit_neg_one, unit_one, quarter_real,
      Nat.cast_ofNat] <;>
    ring

theorem mapPoint_eq : Bilinear.mapPoint V p = mapPoint V p := by
  simp only [Bilinear.mapPoint, Bilinear.combine, weight_eq_shape, mapPoint, Corner.sum, zero_add]

theorem shape_add_x : shape ⟨p.x + h, p.y⟩ k = shape p k + h * (grad p k).x := by
  simp only [shape, grad, quarter_real, Nat.cast_ofNat]
  ring

theorem shape_add_y : shape ⟨p.x, p.y + h⟩ k = shape p k + h * (grad p k).y := by
  simp only [shape, grad, quarter_real, Nat.cast_ofNat]
  ring

/-- A step along the first direction goes by the first row of the derivative. -/
theorem mapPoint_sub_x :
    mapPoint V ⟨p.x + h, p.y⟩ - mapPoint V p = Point.scale h (jacobian V p).dx := by
  apply Point.ext <;>
    simp only [mapPoint, jacobian, Corner.sum, shape_add_x, Point.scale, Point.sub_x,
      Point.sub_y] <;>
    ring

theorem mapPoint_sub_y :
    mapPoint V ⟨p.x, p.y + h⟩ - mapPoint V p = Point.scale h (jacobian V p).dy := by
  apply Point.ext <;>
    simp only [mapPoint, jacobian, Corner.sum, shape_add_y, Point.scale, Point.sub_x,
      Point.sub_y] <;>
    ring

theorem mapPoint_corner : mapPoint V ⟨(corner k).1, (corner k).2⟩ = V k := by
  cases k <;> apply Point.ext <;>
    simp only [mapPoint, Corner.sum, shape, corner, unit_neg_one, unit_one, quarter_real,
      Int.cast_neg, Int.cast_one] <;>
    ring

end Reference

namespace Stack
variable {K : Type} [Scalar K]

/-- The array of vertices is looked at first. -/
theorem mapPointsOf_eq_ok {vertices points : Listing K} {cells : List (Quad K)}
    {ps : List (Point K)} (stacked : axes vertices = .ok (vertexTensor cells))
    (listed : points.points = (.ok ps : Except (Fault K) _)) :
    mapPointsOf vertices points = .ok (pointTensor ps.length (mapPoints cells ps)) := by
  obtain ⟨t, array, rows⟩ := Outcome.bind_eq_ok_iff.mp listed
  simp only [mapPointsOf, mapPointsOn, Outcome.bind_eq_ok_iff]
  exact ⟨_, stacked, cells, cellsOf_vertexTensor cells, t, array, ps, rows, rfl⟩

end Stack

/-- Weights and slopes are those of the reference element, so points of one cell and points of a
stack of cells are mapped by the same map. This map takes the reference corners to the vertices, and
the derivative gives its differences along both reference directions. -/
theorem Bilinear.agrees_with_reference (V : Quad ℝ) (p : Point ℝ) (vertices points : Listing ℝ)
    (cells : List (Quad ℝ)) (ps : List (Point ℝ))
    (stacked : Stack.axes vertices = .ok (Stack.vertexTensor cells))
    (listed : points.points = (.ok ps : Except (Fault ℝ) _)) :
    (∀ k, weight p k = Reference.shape p k ∧ slope p k = Reference.grad p k) ∧
      ps.map (mapPoint V) = ps.map (Reference.mapPoint V) ∧
      (∃ mapped, Stack.mapPointsOf vertices points = .ok mapped ∧
        mapped.shape = [cells.length, ps.length, 2] ∧
        ∀ e (cell : e < cells.length),
          mapped.sub? [(e : Int)] = some (.ofPoints (ps.map (mapPoint cells[e])))) ∧
      (Corner.all.map fun k =>
        Reference.mapPoint V ⟨(Reference.corner k).1, (Reference.corner k).2⟩) = V.vertices ∧
      ∀ h : ℝ,
        Reference.mapPoint V ⟨p.x + h, p.y⟩ - Reference.mapPoint V p =
            Point.scale h (Reference.jacobian V p).dx ∧
          Reference.mapPoint V ⟨p.x, p.y + h⟩ - Reference.mapPoint V p =
            Point.scale h (Reference.jacobian V p).dy := by
  refine ⟨fun k => ⟨Reference.weight_eq_shape p k, Reference.slope_eq_grad p k⟩, ?_, ?_, ?_,
    fun h => ⟨Reference.mapPoint_sub_x p h V, Reference.mapPoint_sub_y p h V⟩⟩
  · exact List.map_congr_left fun q _ => Reference.mapPoint_eq q V
  · refine ⟨_, Stack.mapPointsOf_eq_ok stacked listed, ?_, fun e cell => ?_⟩
    · simp [Stack.pointTensor, Tensor.stack, Stack.length_mapPoints]
    · have inside : e < (Stack.mapPoints cells ps).length :=
        cell.trans_eq (Stack.length_mapPoints cells ps).symm
      rw [Stack.sub?_pointTensor Stack.length_of_mem_mapPoints inside]
      exact congrArg (some ∘ Tensor.ofPoints) (List.getElem_map _)
  · exact List.map_congr_left fun k _ => Reference.mapPoint_corner k V

/-- Two cells, one of them turned over, and a point off the reference square that is not in a row of
its own. -/
theorem Bilinear.agrees_with_reference_twoCells :
    let listing (V : Quad ℝ) : Listing ℝ :=
      .list (V.vertices.map fun p => .list [.number (.ok p.x), .number (.ok p.y)])
    let vertices : Listing ℝ := .list [listing .arrowhead, listing .mirrored]
    let points : Listing ℝ := .list [.number (.ok (1 / 2)), .number (.ok (-3))]
    Stack.axes vertices =
        (.ok (Stack.vertexTensor [.arrowhead, .mirrored]) : Except (Fault ℝ) _) ∧
      points.points = (.ok [⟨1 / 2, -3⟩] : Except (Fault ℝ) _) ∧
      ∃ mapped, Stack.mapPointsOf vertices points = .ok mapped ∧
        mapped.sub? [1] = some (.ofPoints [Reference.mapPoint .mirrored ⟨1 / 2, -3⟩]) := by
  intro listing vertices points
  obtain ⟨-, same, ⟨mapped, maps, -, each⟩, -⟩ := agrees_with_reference .mirrored 0 vertices points
    [.arrowhead, .mirrored] [⟨1 / 2, -3⟩] rfl rfl
  refine ⟨rfl, rfl, mapped, maps, ?_⟩
  have second := each 1 Nat.one_lt_two
  exact second.trans (congrArg (some ∘ Tensor.ofPoints) same)

end NonconformingQuad
end
