import Mathlib.Analysis.SpecialFunctions.Log.Basic
import NonconformingQuad.Proofs.Geometry.Convexity
import NonconformingQuad.Proofs.Mesh.Displacement

/-! Convexity under displacement. At a corner of a box three displacements count, that of the corner
and those of the two nodes beside it, and they are worst together: the corner goes into the box
along the diagonal while the two others come back along it. With an amplitude `a` this takes
`2 a (w + h)` off the area `w h` of the box. Boxes as wide as they are high therefore stay convex
below a quarter of the spacing, and not below half of it. -/
noncomputable section
namespace NonconformingQuad
open Distortion

namespace Corner

/-- The lower or upper face on which a corner lies. -/
def row : Corner → Face
  | bottomLeft | bottomRight => .bottom
  | topLeft | topRight => .top

/-- The left or right face on which a corner lies. -/
def column : Corner → Face
  | bottomLeft | topLeft => .left
  | bottomRight | topRight => .right

theorem ends_row (k : Corner) : k = k.row.first ∨ k = k.row.second := by
  cases k <;> decide

theorem ends_column (k : Corner) : k = k.column.first ∨ k = k.column.second := by
  cases k <;> decide

end Corner

namespace Quad
open Reference
variable {V : Quad ℝ} {amplitude w h : ℝ} {d : Corner → Point ℝ}

/-- At a corner the derivatives are halves of the two edges that meet there. -/
theorem determinant_vertex (V : Quad ℝ) (k : Corner) :
    (jacobian V (vertex k)).determinant =
      Point.cross (V.halfEdge k.row) (V.halfEdge k.column) := by
  rw [Jacobian.determinant_real]
  cases k <;>
    simp only [Point.cross, jacobian, Corner.sum, grad, vertex, Reference.corner, unit, halfEdge,
      Corner.row, Corner.column, Face.first, Face.second, Point.scale, Point.sub_x, Point.sub_y,
      Scalar.quarter_real, Scalar.half_real] <;>
    norm_num <;> ring

/-- How far two corners of a face are moved apart, if one of them is `k`. -/
theorem abs_spread_le (bounded : ∀ k, Bounded amplitude (d k)) {f : Face} {k : Corner}
    (on : k = f.first ∨ k = f.second) :
    |(d f.second).x - (d f.first).x| ≤ amplitude + |(d k).x| ∧
      |(d f.second).y - (d f.first).y| ≤ amplitude + |(d k).y| := by
  have size (k : Corner) : |(d k).x| ≤ amplitude ∧ |(d k).y| ≤ amplitude := by
    obtain ⟨left, right, down, up⟩ := bounded k
    exact ⟨abs_le.mpr ⟨left, right⟩, abs_le.mpr ⟨down, up⟩⟩
  obtain ⟨x, y⟩ : |(d f.second).x - (d f.first).x| ≤ |(d f.second).x| + |(d f.first).x| ∧
      |(d f.second).y - (d f.first).y| ≤ |(d f.second).y| + |(d f.first).y| :=
    ⟨abs_sub _ _, abs_sub _ _⟩
  rcases on with rfl | rfl
  · have other := size f.second
    constructor <;> linarith [other.1, other.2]
  · have other := size f.first
    constructor <;> linarith [other.1, other.2]

section Box
variable (o : Point ℝ)
  (corners : ∀ k, V k = ⟨o.x + k.steps.1 * w, o.y + k.steps.2 * h⟩ + d k)
include corners

theorem determinant_vertex_box (k : Corner) :
    4 * (jacobian V (vertex k)).determinant =
      (w + ((d k.row.second).x - (d k.row.first).x)) *
          (h + ((d k.column.second).y - (d k.column.first).y)) -
        ((d k.column.second).x - (d k.column.first).x) *
          ((d k.row.second).y - (d k.row.first).y) := by
  rw [determinant_vertex]
  cases k <;>
    simp only [Point.cross, halfEdge, corners, Corner.row, Corner.column, Face.first, Face.second,
      Corner.steps, Point.scale, Point.add_x, Point.add_y, Point.sub_x, Point.sub_y,
      Scalar.half_real, Nat.cast_zero, Nat.cast_one] <;>
    ring

/-- A box stays convex while the worst joint displacement leaves some of its area. -/
theorem turnsLeft_of_bounded (bounded : ∀ k, Bounded amplitude (d k)) (width : 0 < w)
    (height : 0 < h) (small : 2 * amplitude * (w + h) < w * h) : V.TurnsLeft := by
  intro k
  obtain ⟨left, right, down, up⟩ := bounded k
  have nonneg : 0 ≤ amplitude := by linarith
  -- how far the edges may change along the two axes
  let A := amplitude + |(d k).x|
  let B := amplitude + |(d k).y|
  have A_le : A ≤ 2 * amplitude := by
    have own := abs_le.mpr ⟨left, right⟩
    simp only [A]
    linarith
  have B_le : B ≤ 2 * amplitude := by
    have own := abs_le.mpr ⟨down, up⟩
    simp only [B]
    linarith
  have A_lt : A < w := by
    have less : 2 * amplitude * h < w * h := by nlinarith
    exact A_le.trans_lt (lt_of_mul_lt_mul_right less height.le)
  have B_lt : B < h := by
    have less : w * (2 * amplitude) < w * h := by nlinarith
    exact B_le.trans_lt (lt_of_mul_lt_mul_left less width.le)
  obtain ⟨α, γ⟩ := abs_spread_le bounded k.ends_row
  obtain ⟨δ, β⟩ := abs_spread_le bounded k.ends_column
  have along : w - A ≤ w + ((d k.row.second).x - (d k.row.first).x) := by
    linarith [(abs_le.mp α).1]
  have across : h - B ≤ h + ((d k.column.second).y - (d k.column.first).y) := by
    linarith [(abs_le.mp β).1]
  have kept := mul_le_mul along across (sub_pos.mpr B_lt).le ((sub_pos.mpr A_lt).le.trans along)
  have lost : ((d k.column.second).x - (d k.column.first).x) *
      ((d k.row.second).y - (d k.row.first).y) ≤ A * B := by
    refine (le_abs_self _).trans ?_
    rw [abs_mul]
    exact mul_le_mul δ γ (abs_nonneg _) ((abs_nonneg _).trans δ)
  have rest : 0 < (w - A) * (h - B) - A * B := by
    have widths : w * B ≤ w * (2 * amplitude) := mul_le_mul_of_nonneg_left B_le width.le
    have heights : h * A ≤ h * (2 * amplitude) := mul_le_mul_of_nonneg_left A_le height.le
    linarith
  have corner := determinant_vertex_box o corners k
  linarith

end Box

end Quad

namespace Grid
variable {g : Grid ℝ} {tol amplitude : ℝ} {i j : Nat}

/-- Whatever displacements are drawn within the amplitude, every cell turns to the left everywhere
in the reference square. -/
def KeepsConvex (g : Grid ℝ) (tol amplitude : ℝ) : Prop :=
  ∀ shift : Nat → Point ℝ, (∀ n, Bounded amplitude (shift n)) →
    ∃ cells, (g.displacedMesh tol shift).allCells = .ok cells ∧
      ∀ cell ∈ cells, ∀ p, Reference.IsInside p →
        0 < (Reference.jacobian cell.vertices p).determinant

/-- Cell by cell is box by box. -/
theorem keepsConvex_iff (columns : 1 ≤ g.columns) (rows : 1 ≤ g.rows) :
    g.KeepsConvex tol amplitude ↔
      ∀ shift : Nat → Point ℝ, (∀ n, Bounded amplitude (shift n)) →
        ∀ i j, i < g.columns → j < g.rows → ∀ p, Reference.IsInside p →
          0 < (Reference.jacobian (Quad.ofBox (fun i j => g.crossing i j +
            g.displacement tol shift i j) i j) p).determinant := by
  have placed (shift : Nat → Point ℝ) := isPlacedAt_displacedMesh columns rows tol shift
  constructor
  · intro convex shift bounded i j column row p inside
    obtain ⟨cells, listed, positive⟩ := convex shift bounded
    rw [(placed shift).allCells] at listed
    obtain rfl := Except.ok.inj listed
    have box : g.boxNumber i j % g.columns = i ∧ g.boxNumber i j / g.columns = j := by
      rw [boxNumber, Nat.mul_add_mod_self_right, Nat.mod_eq_of_lt column, Nat.add_comm,
        Nat.add_mul_div_right _ _ columns, Nat.div_eq_of_lt column, Nat.zero_add]
      exact ⟨rfl, rfl⟩
    have found := positive _
      (List.mem_map.mpr ⟨g.boxNumber i j, List.mem_range.mpr (boxNumber_lt column row), rfl⟩)
      p inside
    simpa only [box] using found
  · intro boxes shift bounded
    refine ⟨_, (placed shift).allCells, ?_⟩
    intro cell member p inside
    obtain ⟨c, listed, rfl⟩ := List.mem_map.mp member
    obtain ⟨column, row, -⟩ := boxNumber_divMod (List.mem_range.mp listed)
    exact boxes shift bounded _ _ column row p inside

theorem keepsConvex_of_small (columns : 1 ≤ g.columns) (rows : 1 ≤ g.rows) (width : 0 < g.width)
    (height : 0 < g.height) (rigid : g.IsRigid)
    (small : 2 * amplitude * (g.width / g.columns + g.height / g.rows) <
      g.width / g.columns * (g.height / g.rows)) : g.KeepsConvex tol amplitude := by
  rw [keepsConvex_iff columns rows]
  intro shift bounded i j _ _ p inside
  have turns : (Quad.ofBox (fun i j => g.crossing i j + g.displacement tol shift i j)
      i j).TurnsLeft :=
    Quad.turnsLeft_of_bounded _ (ofBox_displaced rigid tol shift i j)
      (fun k => bounded_displacement bounded _ _)
      (div_pos width (Nat.cast_pos.mpr columns)) (div_pos height (Nat.cast_pos.mpr rows)) small
  rw [Reference.determinant_jacobian]
  exact Reference.mean_pos inside turns

/-- One node goes up to the right as far as it may, all others go down to the left. -/
def pinch (g : Grid ℝ) (amplitude : ℝ) (n : Nat) : Point ℝ :=
  if n = g.nodeNumber 1 1 then ⟨amplitude, amplitude⟩ else ⟨-amplitude, -amplitude⟩

theorem bounded_pinch (nonneg : 0 ≤ amplitude) (n : Nat) :
    Bounded amplitude (g.pinch amplitude n) := by
  rw [pinch]
  split <;> refine ⟨?_, ?_, ?_, ?_⟩ <;> linarith

/-- The box up to the right of that node is left with this much of its area at the node. -/
theorem determinant_pinched (amplitude : ℝ) (columns : 3 ≤ g.columns) (rows : 3 ≤ g.rows)
    (width : 0 < g.width) (height : 0 < g.height) (rigid : g.IsRigid)
    (narrow : tol < g.width / g.columns) (low : tol < g.height / g.rows) :
    let w := g.width / g.columns
    let h := g.height / g.rows
    4 * (Reference.jacobian (Quad.ofBox (fun i j => g.crossing i j +
      g.displacement tol (g.pinch amplitude) i j) 1 1) (Reference.vertex .bottomLeft)).determinant =
        w * h - 2 * amplitude * (w + h) := by
  intro w h
  have moved (i j : Nat) (inner : 0 < i ∧ i < g.columns ∧ 0 < j ∧ j < g.rows) :
      g.displacement tol (g.pinch amplitude) i j = g.pinch amplitude (g.nodeNumber i j) := by
    refine if_neg (not_stays_of_not_isRim (by omega) (by omega) width.le height.le rigid narrow low
      (by omega) (by omega) ?_)
    rw [IsRim]
    omega
  have corner : g.displacement tol (g.pinch amplitude) 1 1 = ⟨amplitude, amplitude⟩ := by
    rw [moved 1 1 (by omega)]
    exact if_pos rfl
  have right : g.displacement tol (g.pinch amplitude) 2 1 = ⟨-amplitude, -amplitude⟩ := by
    rw [moved 2 1 (by omega)]
    refine if_neg ?_
    simp only [nodeNumber]
    omega
  have above : g.displacement tol (g.pinch amplitude) 1 2 = ⟨-amplitude, -amplitude⟩ := by
    rw [moved 1 2 (by omega)]
    refine if_neg ?_
    simp only [nodeNumber]
    omega
  rw [Quad.determinant_vertex_box _ (ofBox_displaced rigid tol (g.pinch amplitude) 1 1)]
  simp only [Corner.row, Corner.column, Face.first, Face.second, Corner.steps, Nat.add_zero,
    Nat.reduceAdd, corner, right, above, w, h]
  ring

theorem small_of_keepsConvex (columns : 3 ≤ g.columns) (rows : 3 ≤ g.rows) (width : 0 < g.width)
    (height : 0 < g.height) (rigid : g.IsRigid) (narrow : tol < g.width / g.columns)
    (low : tol < g.height / g.rows) (nonneg : 0 ≤ amplitude)
    (convex : g.KeepsConvex tol amplitude) :
    2 * amplitude * (g.width / g.columns + g.height / g.rows) <
      g.width / g.columns * (g.height / g.rows) := by
  rw [keepsConvex_iff (by omega) (by omega)] at convex
  have turns := convex _ (g.bounded_pinch nonneg) 1 1 (by omega) (by omega) _
    (Reference.isInside_vertex .bottomLeft)
  have left := determinant_pinched amplitude columns rows width height rigid narrow low
  linarith

/-- Displaced grids and convexity. However wide and high the boxes are, the cells stay convex while
the amplitude takes less than the area of a box; and with at least three rows and columns nothing
more can be allowed. -/
theorem displacement_keeps_convexity_iff (g : Grid ℝ) (tol amplitude : ℝ) (columns : 1 ≤ g.columns)
    (rows : 1 ≤ g.rows) (width : 0 < g.width) (height : 0 < g.height) (rigid : g.IsRigid) :
    let w := g.width / g.columns
    let h := g.height / g.rows
    (∀ (shift : Nat → Point ℝ) (seed : Seed), 0 < amplitude → seed.check = .ok () →
        (g.distortedMesh (.number tol) (.number amplitude) seed shift).outcome =
          .ok (g.displacedMesh tol shift)) ∧
      (2 * amplitude * (w + h) < w * h → g.KeepsConvex tol amplitude) ∧
      (3 ≤ g.columns → 3 ≤ g.rows → tol < w → tol < h → 0 ≤ amplitude →
        g.KeepsConvex tol amplitude → 2 * amplitude * (w + h) < w * h) := by
  intro w h
  refine ⟨?_, ?_, ?_⟩
  · intro shift seed positive seeded
    exact distortedMesh_eq_displacedMesh positive seeded
  · intro small
    exact keepsConvex_of_small columns rows width height rigid small
  · intro many high narrow low nonneg convex
    exact small_of_keepsConvex many high width height rigid narrow low nonneg convex

/-- Nine boxes of side one, away from the origin: a fifth is allowed, a quarter is not. -/
theorem displacement_keeps_convexity_nineBoxes :
    let g : Grid ℝ := ⟨3, 3, 3, 3, some fun _ => ⟨-1, 5⟩⟩
    g.IsRigid ∧ g.KeepsConvex 0 (1 / 5) ∧ ¬g.KeepsConvex 0 (1 / 4) := by
  intro g
  have rigid : g.IsRigid := ⟨⟨-1, 5⟩, fun _ => rfl⟩
  obtain ⟨-, keeps, -⟩ := displacement_keeps_convexity_iff g 0 (1 / 5) (by decide) (by decide)
    three_pos three_pos rigid
  obtain ⟨-, -, small⟩ := displacement_keeps_convexity_iff g 0 (1 / 4) (by decide) (by decide)
    three_pos three_pos rigid
  refine ⟨rigid, keeps (by norm_num [g]), fun convex => ?_⟩
  have bound := small (by decide) (by decide) (by norm_num [g]) (by norm_num [g]) (by norm_num)
    convex
  norm_num [g] at bound

/-- Below half of the spacing the cells need not stay convex. -/
theorem below_half_of_spacing_not_keepsConvex :
    let g : Grid ℝ := ⟨3, 3, 3, 3, none⟩
    3 / 8 < min (g.width / g.columns) (g.height / g.rows) / 2 ∧ ¬g.KeepsConvex 0 (3 / 8) := by
  intro g
  refine ⟨by norm_num [g], fun convex => ?_⟩
  have bound := small_of_keepsConvex (by decide) (by decide) three_pos three_pos
    ⟨0, fun _ => rfl⟩ (by norm_num [g]) (by norm_num [g]) (by norm_num) convex
  norm_num [g] at bound

end Grid
end NonconformingQuad
end
