import Mathlib.Algebra.BigOperators.Group.Finset.Basic
import Mathlib.Analysis.SpecialFunctions.Log.Basic
import NonconformingQuad.Proofs.Mesh.GridFaces
import NonconformingQuad.Proofs.RealScalar

/-! Meshes with the cells of a structured grid and nodes anywhere. Each cell has the corners of its
box, wherever these lie. Which cells share a face does not depend on the positions at all. -/
namespace NonconformingQuad

/-- The cell in a box of a grid whose lines number `i` and `j` meet at `P i j`. -/
def Quad.ofBox {K : Type} (P : Nat → Nat → Point K) (i j : Nat) : Quad K :=
  fun k => P (i + k.steps.1) (j + k.steps.2)

namespace Grid
variable {K : Type} {g : Grid K} {P : Nat → Nat → Point K} {m : Mesh K} {c i j : Nat}

/-- The mesh has the cells of the grid, and its nodes lie at the given points. -/
structure IsPlacedAt (g : Grid K) (P : Nat → Nat → Point K) (m : Mesh K) : Prop where
  cells : m.cells = g.cells
  node : ∀ i j, i ≤ g.columns → j ≤ g.rows → m.nodes[g.nodeNumber i j]? = some (P i j)

theorem nodeNumber_lt (column : i ≤ g.columns) (row : j ≤ g.rows) :
    g.nodeNumber i j < (g.columns + 1) * (g.rows + 1) := by
  calc j * (g.columns + 1) + i < (j + 1) * (g.columns + 1) := by rw [Nat.succ_mul]; omega
    _ ≤ (g.rows + 1) * (g.columns + 1) := Nat.mul_le_mul_right _ (Nat.succ_le_succ row)
    _ = (g.columns + 1) * (g.rows + 1) := Nat.mul_comm _ _

theorem exists_isPlacedAt [Scalar K] (cells : m.cells = g.cells)
    (count : (g.columns + 1) * (g.rows + 1) ≤ m.nodes.length) : ∃ P, g.IsPlacedAt P m := by
  refine ⟨fun i j => m.nodes[g.nodeNumber i j]?.getD 0, cells, fun i j column row => ?_⟩
  have inside : g.nodeNumber i j < m.nodes.length := (nodeNumber_lt column row).trans_le count
  rw [List.getElem?_eq_getElem inside, Option.getD_some]

theorem IsPlacedAt.cell (placed : g.IsPlacedAt P m) (column : i < g.columns) (row : j < g.rows) :
    m.cell (g.boxNumber i j : Nat) = .ok
      ⟨(g.boxNumber i j : Nat), .ofBox P i j, Corner.all.map (g.boxNodes i j)⟩ := by
  rw [Mesh.cell_eq_ok_iff]
  have found : m.cells[g.boxNumber i j]? = some (g.boxNodes i j) :=
    placed.cells ▸ getElem?_cells column row
  refine ⟨g.boxNodes i j, _, Mesh.entry_natCast found, ?_, rfl⟩
  rw [Mesh.verticesOf_eq_ok_iff]
  intro k
  rw [boxNodes_eq]
  apply Mesh.entry_natCast
  apply placed.node <;> cases k <;> simp only [Corner.steps] <;> omega

theorem IsPlacedAt.neighbor (placed : g.IsPlacedAt P m) (column : i < g.columns) (row : j < g.rows)
    (f : Face) : m.neighbor (g.boxNumber i j : Nat) f.number = .ok (g.across i j f) :=
  neighbor_of_cells placed.cells column row f

/-- Boxes that lie side by side see their common edge from the same end. -/
theorem face_ofBox [Scalar K] {b : Nat × Nat} {f : Face} (next : g.beside i j f = some b) :
    (Quad.ofBox P b.1 b.2).face f.opposite = (Quad.ofBox P i j).face f := by
  cases f with
  | left =>
    obtain ⟨inner, ⟨⟩⟩ := Option.ite_none_right_eq_some.mp next
    have whole : i - 1 + 1 = i := Nat.sub_add_cancel inner
    simp only [Quad.face, Quad.ofBox, Face.opposite, Face.first, Face.second, Corner.steps,
      add_zero, whole]
  | right =>
    obtain ⟨inner, ⟨⟩⟩ := Option.ite_none_right_eq_some.mp next
    rfl
  | bottom =>
    obtain ⟨inner, ⟨⟩⟩ := Option.ite_none_right_eq_some.mp next
    have whole : j - 1 + 1 = j := Nat.sub_add_cancel inner
    simp only [Quad.face, Quad.ofBox, Face.opposite, Face.first, Face.second, Corner.steps,
      add_zero, whole]
  | top =>
    obtain ⟨inner, ⟨⟩⟩ := Option.ite_none_right_eq_some.mp next
    rfl

/-- Every number of a cell is that of a box. -/
theorem boxNumber_divMod (inside : c < g.columns * g.rows) :
    c % g.columns < g.columns ∧ c / g.columns < g.rows ∧
      g.boxNumber (c % g.columns) (c / g.columns) = c := by
  have columns : 0 < g.columns := Nat.pos_of_mul_pos_right (Nat.zero_lt_of_lt inside)
  exact ⟨Nat.mod_lt _ columns, Nat.div_lt_of_lt_mul inside, Nat.div_add_mod' c g.columns⟩

theorem IsPlacedAt.allCells (placed : g.IsPlacedAt P m) :
    m.allCells = .ok ((List.range (g.columns * g.rows)).map fun (c : Nat) =>
      ⟨c, .ofBox P (c % g.columns) (c / g.columns),
        Corner.all.map (g.boxNodes (c % g.columns) (c / g.columns))⟩) := by
  have count : m.cells.length = g.columns * g.rows := by
    rw [placed.cells, Grid.cells, List.length_map, List.length_range]
  rw [Mesh.allCells, count]
  refine Outcome.mapM_eq_ok_map fun c listed => ?_
  obtain ⟨column, row, number⟩ := boxNumber_divMod (List.mem_range.mp listed)
  have found := placed.cell column row
  rwa [number] at found

/-- Box by box is row by row. -/
theorem sum_boxes (g : Grid K) (area : Nat → Nat → ℝ) :
    ((List.range (g.columns * g.rows)).map fun c => area (c % g.columns) (c / g.columns)).sum =
      ∑ j ∈ Finset.range g.rows, ∑ i ∈ Finset.range g.columns, area i j := by
  have listed (n : Nat) (f : Nat → ℝ) :
      ((List.range n).map f).sum = ∑ i ∈ Finset.range n, f i := by
    induction n with
    | zero => rfl
    | succ n ih =>
      rw [List.range_succ, List.map_append, List.sum_append, ih, Finset.sum_range_succ,
        List.map_singleton, List.sum_singleton]
  rw [listed, Nat.mul_comm]
  induction g.rows with
  | zero => simp
  | succ n ih =>
    rw [Nat.succ_mul, Finset.sum_range_add, ih, Finset.sum_range_succ]
    refine congrArg _ (Finset.sum_congr rfl fun i member => ?_)
    have column : i < g.columns := Finset.mem_range.mp member
    rw [Nat.mul_add_mod_self_right, Nat.mod_eq_of_lt column, Nat.add_comm,
      Nat.add_mul_div_right _ _ (Nat.zero_lt_of_lt column), Nat.div_eq_of_lt column, Nat.zero_add]

end Grid
end NonconformingQuad
