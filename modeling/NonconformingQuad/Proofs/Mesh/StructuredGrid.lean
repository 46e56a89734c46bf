import Mathlib.Analysis.SpecialFunctions.Log.Basic
import NonconformingQuad.Mesh.Distortion
import NonconformingQuad.Proofs.Mesh.PlacedGrid
import NonconformingQuad.Proofs.RealScalar
import NonconformingQuad.Proofs.Tensor.Reading

/-! Meshes of structured grids in exact arithmetic. Nodes are equally spaced but for their shifts,
each cell has the corners of its box, and the faces are those of `Proofs.Mesh.GridFaces`. -/
namespace NonconformingQuad

namespace Grid

section Numbering
variable {K : Type} [Scalar K] (g : Grid K)

theorem length_nodes : g.nodes.length = (g.columns + 1) * (g.rows + 1) := by
  simp only [nodes, List.length_flatMap, List.length_map, List.length_range, List.map_const',
    List.sum_replicate_nat]
  exact Nat.mul_comm _ _

variable {g} {i j : Nat}

theorem getElem?_nodes (column : i ≤ g.columns) (row : j ≤ g.rows) :
    g.nodes[g.nodeNumber i j]? = some (g.position i j) := by
  have uniform : ∀ j ∈ List.range (g.rows + 1),
      ((List.range (g.columns + 1)).map fun i => g.position i j).length = g.columns + 1 := by
    intro j _
    rw [List.length_map, List.length_range]
  rw [nodes, nodeNumber, Tensor.getElem?_flatMap_uniform uniform (Nat.lt_succ_of_le column),
    List.getElem?_range (Nat.lt_succ_of_le row), Option.bind_some, List.getElem?_map,
    List.getElem?_range (Nat.lt_succ_of_le column), Option.map_some]

theorem isPlacedAt_mesh (g : Grid K) : g.IsPlacedAt g.position g.mesh where
  cells := rfl
  node _ _ column row := getElem?_nodes column row

end Numbering

noncomputable section
variable (g : Grid ℝ)

/-- How far the node of a number is shifted. -/
def shiftOf (n : Nat) : Point ℝ := g.offset?.elim 0 (· n)

/-- Where the lines number `i` and `j` of the grid meet. -/
def crossing (i j : Nat) : Point ℝ :=
  g.shiftOf (j * (g.columns + 1) + i) + ⟨i * g.width / g.columns, j * g.height / g.rows⟩

/-- The mesh is the grid, with nodes and cells row by row. -/
structure IsRegular (m : Mesh ℝ) : Prop where
  node_count : m.nodes.length = (g.columns + 1) * (g.rows + 1)
  node : ∀ i j, i ≤ g.columns → j ≤ g.rows →
    m.nodes[j * (g.columns + 1) + i]? = some (g.crossing i j)
  cell_count : m.cells.length = g.columns * g.rows
  cell : ∀ i j, i < g.columns → j < g.rows →
    m.cell (j * g.columns + i : Nat) = .ok
      { id := (j * g.columns + i : Nat)
        vertices := .of (g.crossing i j) (g.crossing (i + 1) j) (g.crossing i (j + 1))
          (g.crossing (i + 1) (j + 1))
        nodes := [(j * (g.columns + 1) + i : Nat), (j * (g.columns + 1) + (i + 1) : Nat),
          ((j + 1) * (g.columns + 1) + i : Nat), ((j + 1) * (g.columns + 1) + (i + 1) : Nat)] }
  neighbor : ∀ i j f, i < g.columns → j < g.rows →
    m.neighbor (j * g.columns + i : Nat) f.number = .ok (g.adjacent i j f)
  boundary_distinct : m.boundaryFaces.Nodup
  boundary : ∀ o, o ∈ m.boundaryFaces ↔
    ∃ i j, i < g.columns ∧ j < g.rows ∧ o.cell = j * g.columns + i ∧ g.IsOuter i j o.face
  boundary_count : m.boundaryFaces.length = 2 * (g.columns + g.rows)
  faces_distinct : (m.faces.map (·.key)).Nodup
  face_count : m.faces.length = g.columns * (g.rows + 1) + g.rows * (g.columns + 1)

variable {g}

theorem position_real (columns : 1 ≤ g.columns) (rows : 1 ≤ g.rows) (i j : Nat) :
    g.position i j = g.crossing i j := by
  simp only [position, Scalar.linspace_real columns, Scalar.linspace_real rows, crossing, shiftOf,
    nodeNumber]
  cases g.offset? with
  | none => exact Point.ext (zero_add _).symm (zero_add _).symm
  | some offset => exact Point.ext (add_comm _ _) (add_comm _ _)

/-- The nodes are the crossings of the lines, row by row. -/
theorem getElem?_nodes_crossing (columns : 1 ≤ g.columns) (rows : 1 ≤ g.rows) {i j : Nat}
    (column : i ≤ g.columns) (row : j ≤ g.rows) :
    g.nodes[g.nodeNumber i j]? = some (g.crossing i j) :=
  position_real columns rows i j ▸ getElem?_nodes column row

theorem isRegular_mesh (columns : 1 ≤ g.columns) (rows : 1 ≤ g.rows) : g.IsRegular g.mesh where
  node_count := g.length_nodes
  node _ _ column row := getElem?_nodes_crossing columns rows column row
  cell_count := by
    change g.cells.length = _
    rw [cells, List.length_map, List.length_range]
  cell i j column row := by
    refine (g.isPlacedAt_mesh.cell column row).trans (congrArg Except.ok ?_)
    rw [Cell.mk.injEq]
    refine ⟨rfl, funext fun k => ?_, ?_⟩
    · cases k <;> exact position_real columns rows _ _
    · simp only [funext (g.boxNodes_eq i j)]
      rfl
  neighbor i j f column row :=
    g.across_eq_adjacent i j f ▸ g.isPlacedAt_mesh.neighbor column row f
  boundary_distinct := FaceTable.nodup_boundary_ofCells g.cells
  boundary _ := mem_boundary_cells
  boundary_count := (boundary_perm_perimeter columns rows).length_eq.trans g.length_perimeter
  faces_distinct := FaceTable.nodup_keys_ofCells g.cells
  face_count := by
    have counts := (keys_perm_edges columns rows).length_eq
    rwa [FaceTable.keys, List.length_map, List.length_map, length_edges] at counts

/-- Without an amplitude that is positive, the mesh that is built is the grid. -/
theorem distortedMesh_isRegular (g : Grid ℝ) (tol : Bound ℝ) {amplitude : Bound ℝ} (seed : Seed)
    (shift : Nat → Point ℝ) (columns : 1 ≤ g.columns) (rows : 1 ≤ g.rows)
    (still : amplitude.isPositive = .ok false) :
    ∃ m, (g.distortedMesh tol amplitude seed shift).outcome = .ok m ∧ g.IsRegular m := by
  refine ⟨g.mesh, ?_, isRegular_mesh columns rows⟩
  rw [distortedMesh, still]
  rfl

/-- A single row of two boxes, away from the origin. -/
theorem distortedMesh_isRegular_twoBoxes :
    let g : Grid ℝ := ⟨2, 1, 4, 3, some fun _ => ⟨-1, 5⟩⟩
    1 ≤ g.columns ∧ 1 ≤ g.rows ∧ (Bound.number (0 : ℝ)).isPositive = .ok false ∧
      ∃ m, (g.distortedMesh (.number 0) (.number 0) .absent fun _ => 0).outcome = .ok m ∧
        g.IsRegular m := by
  intro g
  have columns : 1 ≤ g.columns := by decide
  have rows : 1 ≤ g.rows := by decide
  have still : (Bound.number (0 : ℝ)).isPositive = .ok false :=
    congrArg Except.ok (decide_eq_false (lt_irrefl 0))
  exact ⟨columns, rows, still, distortedMesh_isRegular g _ _ _ columns rows still⟩

end

end Grid
end NonconformingQuad
