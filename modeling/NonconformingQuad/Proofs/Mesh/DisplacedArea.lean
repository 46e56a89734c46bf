import Mathlib.Algebra.BigOperators.Group.Finset.Basic
import Mathlib.Analysis.SpecialFunctions.Log.Basic
import Mathlib.Tactic.LinearCombination
import NonconformingQuad.Proofs.Basis.Acceptance
import NonconformingQuad.Proofs.Geometry.Area
import NonconformingQuad.Proofs.Mesh.Displacement

/-! Areas under displacement. The signed area of a box is what its four edges sweep from the origin.
An inner edge is swept back and forth by the two boxes beside it, so all boxes together have the
area that the rim of the grid encloses, and the rim stays. A single box may lose its convexity, but
not its orientation, while no node leaves half of the spacing. -/
noncomputable section
namespace NonconformingQuad

/-- Signed area that a segment sweeps from the origin. -/
def Point.swept (p q : Point ℝ) : ℝ := Scalar.half * cross p q

namespace Quad

theorem midlineDeterminant_ofBox (P : Nat → Nat → Point ℝ) (i j : Nat) :
    (ofBox P i j).midlineDeterminant =
      (Point.swept (P i j) (P (i + 1) j) - Point.swept (P i (j + 1)) (P (i + 1) (j + 1))) +
        (Point.swept (P (i + 1) j) (P (i + 1) (j + 1)) - Point.swept (P i j) (P i (j + 1))) := by
  simp only [midlineDeterminant_eq, ofBox, Corner.steps, Nat.add_zero, Point.swept, Point.cross,
    Scalar.half_real]
  ring

/-- A box whose corners have moved by less than half of its sides, each in any direction, is not
turned over. -/
theorem midlineDeterminant_pos_of_bounded {V : Quad ℝ} {amplitude : ℝ} (o : Point ℝ) (w h : ℝ)
    (d : Corner → Point ℝ)
    (corners : ∀ k, V k = ⟨o.x + k.steps.1 * w, o.y + k.steps.2 * h⟩ + d k)
    (bounded : ∀ k, Distortion.Bounded amplitude (d k)) (narrow : 2 * amplitude < w)
    (low : 2 * amplitude < h) : 0 < V.midlineDeterminant := by
  -- how much the midlines have lost in their own directions, and gained in the other ones
  let a := ((d .bottomLeft).x + (d .topLeft).x - (d .bottomRight).x - (d .topRight).x) / 2
  let b := ((d .bottomLeft).y + (d .bottomRight).y - (d .topLeft).y - (d .topRight).y) / 2
  let s := ((d .bottomLeft).x + (d .bottomRight).x - (d .topLeft).x - (d .topRight).x) / 2
  let t := ((d .bottomLeft).y + (d .topLeft).y - (d .bottomRight).y - (d .topRight).y) / 2
  have split : V.midlineDeterminant = (w - a) * (h - b) - s * t := by
    simp only [midlineDeterminant_eq, corners, Corner.steps, Point.add_x, Point.add_y, a, b, s, t,
      Nat.cast_zero, Nat.cast_one]
    ring
  have spread (k l : Corner) : (d k).x - (d l).x < w ∧ (d k).y - (d l).y < h := by
    obtain ⟨-, xhigh, -, yhigh⟩ := bounded k
    obtain ⟨xlow, -, ylow, -⟩ := bounded l
    constructor <;> linarith
  -- gain and loss together are the spreads along the two diagonals
  have across : |s| < w - a := by
    have rising := (spread .bottomLeft .topRight).1
    have falling := (spread .topLeft .bottomRight).1
    apply abs_lt.mpr
    constructor <;> simp only [a, s] <;> linarith
  have up : |t| < h - b := by
    have rising := (spread .bottomLeft .topRight).2
    have falling := (spread .bottomRight .topLeft).2
    apply abs_lt.mpr
    constructor <;> simp only [b, t] <;> linarith
  have product : s * t < (w - a) * (h - b) := by
    calc s * t ≤ |s| * |t| := (le_abs_self _).trans (abs_mul s t).le
      _ < (w - a) * (h - b) := mul_lt_mul'' across up (abs_nonneg s) (abs_nonneg t)
  rw [split]
  exact sub_pos.mpr product

end Quad

namespace Grid
open Distortion
variable {g : Grid ℝ} {P Q : Nat → Nat → Point ℝ} {i j : Nat}

/-- Inner edges cancel; what is left is swept by the four sides. -/
theorem sum_midlineDeterminant (P : Nat → Nat → Point ℝ) (m n : Nat) :
    ∑ j ∈ Finset.range n, ∑ i ∈ Finset.range m, (Quad.ofBox P i j).midlineDeterminant =
      (∑ i ∈ Finset.range m,
        (Point.swept (P i 0) (P (i + 1) 0) - Point.swept (P i n) (P (i + 1) n))) +
        ∑ j ∈ Finset.range n,
          (Point.swept (P m j) (P m (j + 1)) - Point.swept (P 0 j) (P 0 (j + 1))) := by
  simp only [Quad.midlineDeterminant_ofBox, Finset.sum_add_distrib]
  congr 1
  · rw [Finset.sum_comm]
    refine Finset.sum_congr rfl fun i _ => ?_
    exact Finset.sum_range_sub' (fun j => Point.swept (P i j) (P (i + 1) j)) n
  · refine Finset.sum_congr rfl fun j _ => ?_
    exact Finset.sum_range_sub (fun i => Point.swept (P i j) (P i (j + 1))) m

theorem sum_midlineDeterminant_congr
    (rim : ∀ i j, i ≤ g.columns → j ≤ g.rows → g.IsRim i j → P i j = Q i j) :
    ∑ j ∈ Finset.range g.rows, ∑ i ∈ Finset.range g.columns,
        (Quad.ofBox P i j).midlineDeterminant =
      ∑ j ∈ Finset.range g.rows, ∑ i ∈ Finset.range g.columns,
        (Quad.ofBox Q i j).midlineDeterminant := by
  rw [sum_midlineDeterminant, sum_midlineDeterminant]
  congr 1
  · refine Finset.sum_congr rfl fun i member => ?_
    have column : i < g.columns := Finset.mem_range.mp member
    have bottom (i : Nat) (column : i ≤ g.columns) : P i 0 = Q i 0 :=
      rim i 0 column (Nat.zero_le _) (.inr (.inr (.inl rfl)))
    have top (i : Nat) (column : i ≤ g.columns) : P i g.rows = Q i g.rows :=
      rim i g.rows column le_rfl (.inr (.inr (.inr rfl)))
    rw [bottom i column.le, bottom (i + 1) column, top i column.le, top (i + 1) column]
  · refine Finset.sum_congr rfl fun j member => ?_
    have row : j < g.rows := Finset.mem_range.mp member
    have left (j : Nat) (row : j ≤ g.rows) : P 0 j = Q 0 j :=
      rim 0 j (Nat.zero_le _) row (.inl rfl)
    have right (j : Nat) (row : j ≤ g.rows) : P g.columns j = Q g.columns j :=
      rim g.columns j le_rfl row (.inr (.inl rfl))
    rw [left j row.le, left (j + 1) row, right j row.le, right (j + 1) row]

theorem sum_midlineDeterminant_crossing (columns : 1 ≤ g.columns) (rows : 1 ≤ g.rows)
    (rigid : g.IsRigid) :
    ∑ j ∈ Finset.range g.rows, ∑ i ∈ Finset.range g.columns,
      (Quad.ofBox g.crossing i j).midlineDeterminant = g.width * g.height := by
  obtain ⟨o, shifted⟩ := rigid
  have counted : (g.columns : ℝ) ≠ 0 := Nat.cast_ne_zero.mpr (Nat.ne_of_gt columns)
  have counted' : (g.rows : ℝ) ≠ 0 := Nat.cast_ne_zero.mpr (Nat.ne_of_gt rows)
  have box (i j : Nat) : (Quad.ofBox g.crossing i j).midlineDeterminant =
      g.width / g.columns * (g.height / g.rows) := by
    simp only [Quad.midlineDeterminant_eq, Quad.ofBox, Corner.steps, crossing_of_shifted shifted,
      Nat.cast_add, Nat.cast_one, Nat.cast_zero]
    field_simp
    ring
  simp only [box, Finset.sum_const, Finset.card_range, nsmul_eq_mul]
  field_simp

/-- No cell of a displaced mesh is turned over while the amplitude is below half of the spacing. -/
theorem midlineDeterminant_displaced_pos (tol : ℝ) {amplitude : ℝ} {shift : Nat → Point ℝ}
    (rigid : g.IsRigid) (bounded : ∀ n, Bounded amplitude (shift n))
    (small : amplitude < min (g.width / g.columns) (g.height / g.rows) / 2) (i j : Nat) :
    0 < (Quad.ofBox (fun i j => g.crossing i j + g.displacement tol shift i j)
      i j).midlineDeterminant := by
  have narrow := min_le_left (g.width / g.columns) (g.height / g.rows)
  have low := min_le_right (g.width / g.columns) (g.height / g.rows)
  exact Quad.midlineDeterminant_pos_of_bounded (g.crossing i j) (g.width / g.columns)
    (g.height / g.rows) (fun k => g.displacement tol shift (i + k.steps.1) (j + k.steps.2))
    (ofBox_displaced rigid tol shift i j) (fun k => bounded_displacement bounded _ _)
    (by linarith) (by linarith)

/-- Displacing the inner nodes of a grid leaves the total signed area as it is, whatever the
displacements are. While the amplitude is below half of the spacing, the area of every single cell
stays positive too, so every cell has shape functions. -/
theorem displacement_keeps_area (g : Grid ℝ) (tol : ℝ) (shift : Nat → Point ℝ)
    (columns : 1 ≤ g.columns) (rows : 1 ≤ g.rows) (width : 0 < g.width) (height : 0 < g.height)
    (rigid : g.IsRigid) (nonneg : 0 ≤ tol) :
    let m : Mesh ℝ :=
      .ofCells (displace tol ((List.range g.nodes.length).map shift) g.nodes) g.cells
    (∀ amplitude (seed : Seed), 0 < amplitude → seed.check = .ok () →
        (g.distortedMesh (.number tol) (.number amplitude) seed shift).outcome = .ok m) ∧
      ∃ cells, m.allCells = .ok cells ∧ cells.length = g.columns * g.rows ∧
        (cells.map (·.vertices.midlineDeterminant)).sum = g.width * g.height ∧
        ∀ amplitude, (∀ n, Bounded amplitude (shift n)) →
          amplitude < min (g.width / g.columns) (g.height / g.rows) / 2 →
          ∀ cell ∈ cells, 0 < cell.vertices.midlineDeterminant ∧
            ∀ thresholds : Tolerances ℝ,
              cell.vertices.IsAccepted (thresholds.map .number) (some (.number 0)) := by
  intro m
  have placed : g.IsPlacedAt _ m := isPlacedAt_displacedMesh columns rows tol shift
  refine ⟨fun amplitude seed positive seeded => distortedMesh_eq_displacedMesh positive seeded,
    _, placed.allCells, ?_, ?_, ?_⟩
  · rw [List.length_map, List.length_range]
  · rw [List.map_map]
    calc _ = ∑ j ∈ Finset.range g.rows, ∑ i ∈ Finset.range g.columns,
          (Quad.ofBox (fun i j => g.crossing i j + g.displacement tol shift i j)
            i j).midlineDeterminant := g.sum_boxes fun i j => (Quad.ofBox _ i j).midlineDeterminant
      _ = ∑ j ∈ Finset.range g.rows, ∑ i ∈ Finset.range g.columns,
          (Quad.ofBox g.crossing i j).midlineDeterminant := by
        refine sum_midlineDeterminant_congr fun i j column row rim => ?_
        rw [displacement_of_isRim columns rows width.le height.le rigid nonneg column row rim]
        exact Point.ext (add_zero _) (add_zero _)
      _ = g.width * g.height := sum_midlineDeterminant_crossing columns rows rigid
  · intro amplitude bounded small cell member
    obtain ⟨c, -, rfl⟩ := List.mem_map.mp member
    have positive := midlineDeterminant_displaced_pos tol rigid bounded small
      (c % g.columns) (c / g.columns)
    exact ⟨positive, fun thresholds => (Quad.isAccepted_zero_iff _ thresholds).mpr positive.ne'⟩

/-- Nine boxes. The one in the middle is pushed so far that a corner of it comes to lie inside the
triangle of the other ones. -/
theorem displacement_keeps_area_nineBoxes :
    let g : Grid ℝ := ⟨3, 3, 3, 3, some fun _ => ⟨-1, 5⟩⟩
    let shift : Nat → Point ℝ := fun n =>
      if n = 6 ∨ n = 9 then ⟨2 / 5, 2 / 5⟩ else if n = 10 then ⟨-2 / 5, -2 / 5⟩ else ⟨0, 0⟩
    ∃ m cells, (g.distortedMesh (.number 0) (.number (2 / 5)) .absent shift).outcome = .ok m ∧
      m.allCells = .ok cells ∧ (cells.map (·.vertices.midlineDeterminant)).sum = 9 ∧
      ∀ cell ∈ cells, 0 < cell.vertices.midlineDeterminant := by
  intro g shift
  have bounded (n : Nat) : Bounded (2 / 5) (shift n) := by
    simp only [shift]
    split
    · norm_num [Bounded]
    · split <;> norm_num [Bounded]
  obtain ⟨built, cells, listed, -, total, each⟩ := displacement_keeps_area g 0 shift
    (by decide) (by decide) three_pos three_pos ⟨⟨-1, 5⟩, fun _ => rfl⟩ le_rfl
  refine ⟨_, cells, built _ _ (by norm_num) rfl, listed, ?_, fun cell member => ?_⟩
  · rw [total]
    norm_num [g]
  · exact (each (2 / 5) bounded (by norm_num [g]) cell member).1

end Grid
end NonconformingQuad
end
