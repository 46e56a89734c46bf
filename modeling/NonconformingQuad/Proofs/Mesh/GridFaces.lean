import Mathlib.Data.List.ProdSigma
import NonconformingQuad.Mesh.Grid
import NonconformingQuad.Proofs.Mesh.FaceTables
import NonconformingQuad.Proofs.Mesh.Lookup

/-! Faces of structured grids. Every face of a box is a vertical or a horizontal edge of the grid,
and two edges never have the same two nodes; so boxes share a face only where they lie side by side.
From this follow the neighbours, the boundary and the number of faces, for grids of every size. -/
namespace NonconformingQuad

def Face.opposite : Face → Face
  | left => right
  | right => left
  | bottom => top
  | top => bottom

namespace Corner

/-- Steps to the right and up from the lower left corner of a box. -/
def steps : Corner → Nat × Nat
  | bottomLeft => (0, 0)
  | bottomRight => (1, 0)
  | topLeft => (0, 1)
  | topRight => (1, 1)

end Corner

theorem FaceKey.between_of_le {i j : Int} (le : i ≤ j) : between i j = ⟨i, j⟩ := if_pos le

namespace Grid

/-- Numbers in rows of one length determine row and place. -/
theorem eq_of_rowMajor {w i j i' j' : Nat} (bound : i < w) (bound' : i' < w)
    (same : j * w + i = j' * w + i') : i = i' ∧ j = j' := by
  have places : i = i' := by
    have remainders := congrArg (· % w) same
    simpa only [Nat.mul_add_mod_self_right, Nat.mod_eq_of_lt bound, Nat.mod_eq_of_lt bound']
      using remainders
  refine ⟨places, ?_⟩
  subst places
  exact Nat.eq_of_mul_eq_mul_right (Nat.zero_lt_of_lt bound) (Nat.add_right_cancel same)

/-- An edge of a grid, by its lower left node. -/
inductive Edge where
  | vertical (i j : Nat)
  | horizontal (i j : Nat)
deriving DecidableEq

def Edge.ofBox (i j : Nat) : Face → Edge
  | .left => .vertical i j
  | .right => .vertical (i + 1) j
  | .bottom => .horizontal i j
  | .top => .horizontal i (j + 1)

section Incidence
variable {K : Type} (g : Grid K)

def HasEdge : Edge → Prop
  | .vertical i j => i ≤ g.columns ∧ j < g.rows
  | .horizontal i j => i < g.columns ∧ j ≤ g.rows

def edgeKey : Edge → FaceKey
  | .vertical i j => ⟨g.nodeNumber i j, g.nodeNumber i (j + 1)⟩
  | .horizontal i j => ⟨g.nodeNumber i j, g.nodeNumber (i + 1) j⟩

theorem nodeNumber_succ (i j : Nat) :
    g.nodeNumber (i + 1) j = g.nodeNumber i j + 1 ∧
      g.nodeNumber i (j + 1) = g.nodeNumber i j + (g.columns + 1) := by
  simp only [nodeNumber, Nat.succ_mul]
  omega

theorem boxNodes_eq (i j : Nat) (k : Corner) :
    g.boxNodes i j k = (g.nodeNumber (i + k.steps.1) (j + k.steps.2) : Nat) := by
  have step := g.nodeNumber_succ
  cases k with
  | bottomLeft => rfl
  | bottomRight => exact congrArg Nat.cast (step i j).1.symm
  | topLeft => exact congrArg Nat.cast (step i j).2.symm
  | topRight =>
    refine congrArg Nat.cast ?_
    rw [← (step i j).2, ← (step i (j + 1)).1]
    rfl

theorem key_boxNodes (i j : Nat) (f : Face) :
    (g.boxNodes i j).key f = g.edgeKey (.ofBox i j f) := by
  have right (i j : Nat) : (g.nodeNumber i j : Int) ≤ g.nodeNumber (i + 1) j := by
    rw [(g.nodeNumber_succ i j).1]
    omega
  have up (i j : Nat) : (g.nodeNumber i j : Int) ≤ g.nodeNumber i (j + 1) := by
    rw [(g.nodeNumber_succ i j).2]
    omega
  rw [CellNodes.key, boxNodes_eq, boxNodes_eq]
  cases f with
  | left => exact FaceKey.between_of_le (up i j)
  | right => exact FaceKey.between_of_le (up (i + 1) j)
  | bottom => exact FaceKey.between_of_le (right i j)
  | top => exact FaceKey.between_of_le (right i (j + 1))

variable {g} {e d : Edge} {i j : Nat}

theorem hasEdge_ofBox (column : i < g.columns) (row : j < g.rows) (f : Face) :
    g.HasEdge (.ofBox i j f) := by
  cases f <;> simp only [HasEdge, Edge.ofBox] <;> omega

/-- No two edges have the same nodes: those of one direction start at different nodes, and those of
different directions have different lengths. -/
theorem edgeKey_injective (columns : 1 ≤ g.columns) (first : g.HasEdge d) (second : g.HasEdge e)
    (same : g.edgeKey d = g.edgeKey e) : d = e := by
  cases d with
  | vertical i j =>
    have up := (g.nodeNumber_succ i j).2
    cases e with
    | vertical i' j' =>
      have start : j * (g.columns + 1) + i = j' * (g.columns + 1) + i' :=
        Int.ofNat.inj (FaceKey.mk.inj same).1
      obtain ⟨rfl, rfl⟩ :=
        eq_of_rowMajor (Nat.lt_succ_of_le first.1) (Nat.lt_succ_of_le second.1) start
      rfl
    | horizontal i' j' =>
      -- up a node number grows by more than one, since there is a column
      have right := (g.nodeNumber_succ i' j').1
      obtain ⟨low, high⟩ := FaceKey.mk.inj same
      omega
  | horizontal i j =>
    have right := (g.nodeNumber_succ i j).1
    cases e with
    | vertical i' j' =>
      have up := (g.nodeNumber_succ i' j').2
      obtain ⟨low, high⟩ := FaceKey.mk.inj same
      omega
    | horizontal i' j' =>
      have start : j * (g.columns + 1) + i = j' * (g.columns + 1) + i' :=
        Int.ofNat.inj (FaceKey.mk.inj same).1
      obtain ⟨rfl, rfl⟩ :=
        eq_of_rowMajor (Nat.lt_succ_of_lt first.1) (Nat.lt_succ_of_lt second.1) start
      rfl

/-- Number of a box, row by row. -/
def boxNumber (g : Grid K) (i j : Nat) : Nat := j * g.columns + i

theorem boxNumber_lt (column : i < g.columns) (row : j < g.rows) :
    g.boxNumber i j < g.columns * g.rows := by
  calc j * g.columns + i < (j + 1) * g.columns := by rw [Nat.succ_mul]; omega
    _ ≤ g.rows * g.columns := Nat.mul_le_mul_right _ row
    _ = g.columns * g.rows := Nat.mul_comm _ _

theorem getElem?_cells (column : i < g.columns) (row : j < g.rows) :
    g.cells[g.boxNumber i j]? = some (g.boxNodes i j) := by
  have place : g.boxNumber i j % g.columns = i := by
    rw [boxNumber, Nat.mul_add_mod_self_right, Nat.mod_eq_of_lt column]
  have level : g.boxNumber i j / g.columns = j := by
    rw [boxNumber, Nat.add_comm, Nat.add_mul_div_right _ _ (Nat.zero_lt_of_lt column),
      Nat.div_eq_of_lt column, Nat.zero_add]
  rw [cells, List.getElem?_map, List.getElem?_range (boxNumber_lt column row), Option.map_some,
    place, level]

theorem exists_box {c : Nat} {nodes : CellNodes} (found : g.cells[c]? = some nodes) :
    ∃ i j, i < g.columns ∧ j < g.rows ∧ c = g.boxNumber i j ∧ nodes = g.boxNodes i j := by
  obtain ⟨bound, same⟩ := List.getElem?_eq_some_iff.mp found
  simp only [cells, List.length_map, List.length_range] at bound
  have columns : 0 < g.columns := Nat.pos_of_mul_pos_right (Nat.zero_lt_of_lt bound)
  refine ⟨c % g.columns, c / g.columns, Nat.mod_lt _ columns, Nat.div_lt_of_lt_mul bound, ?_, ?_⟩
  · exact (Nat.div_add_mod' c g.columns).symm
  · rw [← same]
    simp [cells]

/-- The owners of an edge are the boxes of which it is a face. -/
theorem mem_owners_edge (columns : 1 ≤ g.columns) (edge : g.HasEdge e) {o : Owner} :
    o ∈ (FaceTable.ofCells g.cells).owners (g.edgeKey e) ↔
      ∃ i j, i < g.columns ∧ j < g.rows ∧ o.cell = g.boxNumber i j ∧ .ofBox i j o.face = e := by
  rw [FaceTable.mem_owners_ofCells]
  constructor
  · rintro ⟨nodes, found, key⟩
    obtain ⟨i, j, column, row, number, rfl⟩ := exists_box found
    rw [key_boxNodes] at key
    exact ⟨i, j, column, row, number,
      edgeKey_injective columns (hasEdge_ofBox column row _) edge key⟩
  · rintro ⟨i, j, column, row, number, rfl⟩
    exact ⟨g.boxNodes i j, number ▸ getElem?_cells column row, g.key_boxNodes i j _⟩

/-- The box on the other side of a face. -/
def beside (g : Grid K) (i j : Nat) : Face → Option (Nat × Nat)
  | .left => if 0 < i then some (i - 1, j) else none
  | .right => if i + 1 < g.columns then some (i + 1, j) else none
  | .bottom => if 0 < j then some (i, j - 1) else none
  | .top => if j + 1 < g.rows then some (i, j + 1) else none

/-- No box lies beside a face of the outermost boxes. -/
def IsOuter (g : Grid K) (i j : Nat) : Face → Prop
  | .left => i = 0
  | .right => i + 1 = g.columns
  | .bottom => j = 0
  | .top => j + 1 = g.rows

theorem beside_eq_none_iff (column : i < g.columns) (row : j < g.rows) {f : Face} :
    g.beside i j f = none ↔ g.IsOuter i j f := by
  cases f <;> simp only [beside, IsOuter, ite_eq_right_iff, reduceCtorEq, imp_false] <;> omega

/-- The owner on the other side of a face, which is the opposite face there. -/
def across (g : Grid K) (i j : Nat) (f : Face) : Option Owner :=
  (g.beside i j f).map fun b => ⟨g.boxNumber b.1 b.2, f.opposite⟩

theorem across_eq_none_iff (column : i < g.columns) (row : j < g.rows) {f : Face} :
    g.across i j f = none ↔ g.IsOuter i j f := by
  rw [across, Option.map_eq_none_iff, beside_eq_none_iff column row]

/-- The owner on the other side of a face, by the difference of the numbers. -/
def adjacent (g : Grid K) (i j : Nat) : Face → Option Owner
  | .left => if 0 < i then some ⟨j * g.columns + i - 1, .right⟩ else none
  | .right => if i + 1 < g.columns then some ⟨j * g.columns + i + 1, .left⟩ else none
  | .bottom => if 0 < j then some ⟨j * g.columns + i - g.columns, .top⟩ else none
  | .top => if j + 1 < g.rows then some ⟨j * g.columns + i + g.columns, .bottom⟩ else none

theorem across_eq_adjacent (g : Grid K) (i j : Nat) (f : Face) :
    g.across i j f = g.adjacent i j f := by
  cases f with
  | left =>
    cases i with
    | zero => rfl
    | succ i => rfl
  | right =>
    simp only [across, adjacent, beside]
    split <;> rfl
  | bottom =>
    cases j with
    | zero => rfl
    | succ j =>
      have below : g.boxNumber i j = (j + 1) * g.columns + i - g.columns := by
        rw [boxNumber, Nat.succ_mul]
        omega
      simp [across, adjacent, beside, Face.opposite, below]
  | top =>
    have above : g.boxNumber i (j + 1) = j * g.columns + i + g.columns := by
      rw [boxNumber, Nat.succ_mul]
      omega
    simp only [across, adjacent, beside]
    split
    · simp [above, Face.opposite]
    · rfl

/-- Only boxes that lie side by side have an edge in common. -/
theorem ofBox_eq_ofBox_iff {i' j' : Nat} {f f' : Face} (column : i' < g.columns)
    (row : j' < g.rows) :
    Edge.ofBox i' j' f' = .ofBox i j f ↔
      (i' = i ∧ j' = j ∧ f' = f) ∨ (g.beside i j f = some (i', j') ∧ f' = f.opposite) := by
  cases f <;> cases f' <;> simp [Edge.ofBox, beside, Face.opposite] <;> omega

theorem beside_lt (column : i < g.columns) (row : j < g.rows) {f : Face} {b : Nat × Nat}
    (next : g.beside i j f = some b) : b.1 < g.columns ∧ b.2 < g.rows := by
  cases f <;> simp only [beside, Option.ite_none_right_eq_some, Option.some.injEq] at next <;>
    obtain ⟨inner, rfl⟩ := next <;> constructor <;> dsimp only <;> omega

theorem boxNumber_injective {i' j' : Nat} (column : i < g.columns) (column' : i' < g.columns)
    (same : g.boxNumber i j = g.boxNumber i' j') : i = i' ∧ j = j' :=
  eq_of_rowMajor column column' same

theorem mem_owners_box (column : i < g.columns) (row : j < g.rows) (f : Face) {o : Owner} :
    o ∈ (FaceTable.ofCells g.cells).owners ((g.boxNodes i j).key f) ↔
      o = ⟨g.boxNumber i j, f⟩ ∨ g.across i j f = some o := by
  have columns : 1 ≤ g.columns := by omega
  rw [key_boxNodes, mem_owners_edge columns (hasEdge_ofBox column row f)]
  obtain ⟨c, f'⟩ := o
  simp only [across, Option.map_eq_some_iff, Owner.mk.injEq]
  constructor
  · rintro ⟨i', j', column', row', rfl, same⟩
    obtain ⟨rfl, rfl, rfl⟩ | ⟨next, rfl⟩ := (ofBox_eq_ofBox_iff column' row').mp same
    · exact .inl ⟨rfl, rfl⟩
    · exact .inr ⟨_, next, rfl, rfl⟩
  · rintro (⟨rfl, rfl⟩ | ⟨⟨i', j'⟩, next, rfl, rfl⟩)
    · exact ⟨i, j, column, row, rfl, rfl⟩
    · obtain ⟨column', row'⟩ := beside_lt column row next
      exact ⟨i', j', column', row', rfl, (ofBox_eq_ofBox_iff column' row').mpr (.inr ⟨next, rfl⟩)⟩

theorem cell_of_across (column : i < g.columns) (row : j < g.rows) {f : Face} {o : Owner}
    (next : g.across i j f = some o) : o.cell ≠ g.boxNumber i j := by
  obtain ⟨⟨i', j'⟩, found, rfl⟩ := Option.map_eq_some_iff.mp next
  obtain ⟨column', -⟩ := beside_lt column row found
  intro same
  obtain ⟨rfl, rfl⟩ := boxNumber_injective column' column same
  cases f <;> simp [beside] at found <;> omega

/-- A face is on the boundary when its box has no box beside it there. -/
theorem mem_boundary_cells {o : Owner} :
    o ∈ (FaceTable.ofCells g.cells).boundary ↔
      ∃ i j, i < g.columns ∧ j < g.rows ∧ o.cell = g.boxNumber i j ∧ g.IsOuter i j o.face := by
  rw [FaceTable.mem_boundary_ofCells]
  constructor
  · rintro ⟨key, alone⟩
    have members := FaceTable.owners_eq_singleton_iff.mp alone
    obtain ⟨nodes, found, rfl⟩ := FaceTable.mem_owners_ofCells.mp ((members o).mpr rfl)
    obtain ⟨i, j, column, row, number, rfl⟩ := exists_box found
    refine ⟨i, j, column, row, number, (across_eq_none_iff column row).mp ?_⟩
    rw [Option.eq_none_iff_forall_ne_some]
    intro x next
    -- a box beside it would own the face as well
    have same : x = o := (members x).mp ((mem_owners_box column row o.face).mpr (.inr next))
    exact cell_of_across column row next (same ▸ number)
  · rintro ⟨i, j, column, row, number, outer⟩
    have nothing := (across_eq_none_iff column row).mpr outer
    refine ⟨(g.boxNodes i j).key o.face, FaceTable.owners_eq_singleton_iff.mpr fun x => ?_⟩
    rw [mem_owners_box column row, nothing, or_iff_left nofun, ← number]

/-- Boxes along a side of the grid. -/
def sideBox (g : Grid K) (k : Nat) : Face → Nat × Nat
  | .left => (0, k)
  | .right => (g.columns - 1, k)
  | .bottom => (k, 0)
  | .top => (k, g.rows - 1)

def sideLength (g : Grid K) : Face → Nat
  | .left | .right => g.rows
  | .bottom | .top => g.columns

def perimeter (g : Grid K) : List Owner :=
  Face.all.flatMap fun f => (List.range (g.sideLength f)).map fun k =>
    ⟨g.boxNumber (g.sideBox k f).1 (g.sideBox k f).2, f⟩

theorem length_perimeter (g : Grid K) : g.perimeter.length = 2 * (g.columns + g.rows) := by
  simp only [perimeter, Face.all, List.length_flatMap, List.length_map, List.length_range,
    List.map_cons, List.map_nil, List.sum_cons, List.sum_nil, sideLength]
  omega

theorem sideBox_lt (columns : 1 ≤ g.columns) (rows : 1 ≤ g.rows) {f : Face} {k : Nat}
    (inside : k < g.sideLength f) :
    (g.sideBox k f).1 < g.columns ∧ (g.sideBox k f).2 < g.rows := by
  cases f <;> simp only [sideLength] at inside <;> simp only [sideBox] <;> omega

theorem isOuter_iff (column : i < g.columns) (row : j < g.rows) {f : Face} :
    g.IsOuter i j f ↔ ∃ k < g.sideLength f, g.sideBox k f = (i, j) := by
  cases f <;> simp [IsOuter, sideBox, sideLength] <;> omega

theorem nodup_perimeter (columns : 1 ≤ g.columns) (rows : 1 ≤ g.rows) : g.perimeter.Nodup := by
  rw [perimeter, List.nodup_flatMap]
  constructor
  · intro f _
    refine List.Nodup.map_on ?_ List.nodup_range
    intro k first l second same
    obtain ⟨column, -⟩ := sideBox_lt columns rows (List.mem_range.mp first)
    obtain ⟨column', -⟩ := sideBox_lt columns rows (List.mem_range.mp second)
    obtain ⟨across, up⟩ := boxNumber_injective column column' (Owner.mk.inj same).1
    cases f with
    | left | right => exact up
    | bottom | top => exact across
  · have apart : Face.all.Nodup := by decide
    refine apart.imp fun differ => List.disjoint_left.mpr ?_
    intro o first second
    obtain ⟨k, -, rfl⟩ := List.mem_map.mp first
    obtain ⟨l, -, same⟩ := List.mem_map.mp second
    exact differ (Owner.mk.inj same).2.symm

theorem boundary_perm_perimeter (columns : 1 ≤ g.columns) (rows : 1 ≤ g.rows) :
    (FaceTable.ofCells g.cells).boundary.Perm g.perimeter := by
  rw [List.perm_ext_iff_of_nodup (FaceTable.nodup_boundary_ofCells g.cells)
    (nodup_perimeter columns rows)]
  intro o
  rw [mem_boundary_cells]
  simp only [perimeter, List.mem_flatMap, List.mem_map, List.mem_range]
  constructor
  · rintro ⟨i, j, column, row, number, outer⟩
    obtain ⟨k, inside, place⟩ := (isOuter_iff column row).mp outer
    exact ⟨o.face, o.face.mem_all, k, inside, by rw [place, ← number]⟩
  · rintro ⟨f, -, k, inside, rfl⟩
    obtain ⟨column, row⟩ := sideBox_lt columns rows inside
    exact ⟨_, _, column, row, rfl, (isOuter_iff column row).mpr ⟨k, inside, rfl⟩⟩

def edges (g : Grid K) : List Edge :=
  (List.range (g.columns + 1) ×ˢ List.range g.rows).map (fun p => .vertical p.1 p.2) ++
    (List.range g.columns ×ˢ List.range (g.rows + 1)).map fun p => .horizontal p.1 p.2

theorem mem_edges : e ∈ g.edges ↔ g.HasEdge e := by
  simp only [edges, List.mem_append, List.mem_map, Prod.exists, List.mem_product, List.mem_range,
    Nat.lt_succ_iff]
  cases e with
  | vertical i j => simp [HasEdge]
  | horizontal i j => simp [HasEdge]

theorem length_edges (g : Grid K) :
    g.edges.length = g.columns * (g.rows + 1) + g.rows * (g.columns + 1) := by
  simp only [edges, List.length_append, List.length_map, List.length_product, List.length_range]
  rw [Nat.add_comm, Nat.mul_comm (g.columns + 1)]

theorem nodup_edges (g : Grid K) : g.edges.Nodup := by
  refine List.Nodup.append ?_ ?_ ?_
  · refine List.Nodup.map ?_ (List.nodup_range.product List.nodup_range)
    exact fun p q same => Prod.ext (Edge.vertical.inj same).1 (Edge.vertical.inj same).2
  · refine List.Nodup.map ?_ (List.nodup_range.product List.nodup_range)
    exact fun p q same => Prod.ext (Edge.horizontal.inj same).1 (Edge.horizontal.inj same).2
  · rw [List.disjoint_left]
    intro e first second
    obtain ⟨p, -, rfl⟩ := List.mem_map.mp first
    obtain ⟨q, -, same⟩ := List.mem_map.mp second
    contradiction

/-- Every edge belongs to a box: the last ones of each direction to the boxes before them. -/
theorem exists_ofBox (columns : 1 ≤ g.columns) (rows : 1 ≤ g.rows) (edge : g.HasEdge e) :
    ∃ i j f, i < g.columns ∧ j < g.rows ∧ .ofBox i j f = e := by
  cases e with
  | vertical i j =>
    obtain inner | last := Nat.lt_or_eq_of_le edge.1
    · exact ⟨i, j, .left, inner, edge.2, rfl⟩
    · refine ⟨i - 1, j, .right, by omega, edge.2, ?_⟩
      rw [Edge.ofBox, Nat.sub_add_cancel (last ▸ columns)]
  | horizontal i j =>
    obtain inner | last := Nat.lt_or_eq_of_le edge.2
    · exact ⟨i, j, .bottom, edge.1, inner, rfl⟩
    · refine ⟨i, j - 1, .top, edge.1, by omega, ?_⟩
      rw [Edge.ofBox, Nat.sub_add_cancel (last ▸ rows)]

theorem keys_perm_edges (columns : 1 ≤ g.columns) (rows : 1 ≤ g.rows) :
    (FaceTable.ofCells g.cells).keys.Perm (g.edges.map g.edgeKey) := by
  have distinct : (g.edges.map g.edgeKey).Nodup :=
    List.Nodup.map_on (fun d first e second same =>
      edgeKey_injective columns (mem_edges.mp first) (mem_edges.mp second) same) g.nodup_edges
  rw [List.perm_ext_iff_of_nodup (FaceTable.nodup_keys_ofCells g.cells) distinct]
  intro key
  rw [FaceTable.mem_keys_ofCells, List.mem_map]
  constructor
  · rintro ⟨o, owner⟩
    obtain ⟨nodes, found, rfl⟩ := FaceTable.mem_owners_ofCells.mp owner
    obtain ⟨i, j, column, row, -, rfl⟩ := exists_box found
    exact ⟨_, mem_edges.mpr (hasEdge_ofBox column row o.face), (g.key_boxNodes i j o.face).symm⟩
  · rintro ⟨e, member, rfl⟩
    have edge := mem_edges.mp member
    obtain ⟨i, j, f, column, row, same⟩ := exists_ofBox columns rows edge
    exact ⟨⟨g.boxNumber i j, f⟩, (mem_owners_edge columns edge).mpr ⟨i, j, column, row, rfl, same⟩⟩

/-- The positions of the nodes have no part in it. -/
theorem neighbor_of_cells {m : Mesh K} (cells : m.cells = g.cells) (column : i < g.columns)
    (row : j < g.rows) (f : Face) :
    m.neighbor (g.boxNumber i j : Nat) f.number = .ok (g.across i j f) := by
  have found : m.cells[g.boxNumber i j]? = some (g.boxNodes i j) :=
    cells ▸ getElem?_cells column row
  have members (o : Owner) : o ∈ m.faces.owners ((g.boxNodes i j).key f) ↔
      o = ⟨g.boxNumber i j, f⟩ ∨ g.across i j f = some o := by
    rw [m.faces_eq, cells]
    exact mem_owners_box column row f
  cases next : g.across i j f with
  | none =>
    rw [Mesh.neighbor_natCast found f, Except.ok.injEq, List.find?_eq_none]
    intro o owner
    obtain rfl | impossible := (members o).mp owner
    · simp
    · rw [next] at impossible
      contradiction
  | some o =>
    refine Mesh.neighbor_of_only found ((members o).mpr (.inr next))
      (cell_of_across column row next) ?_
    intro x owner apart
    obtain rfl | same := (members x).mp owner
    · exact absurd rfl apart
    · exact Option.some.inj (same.symm.trans next)

end Incidence
end Grid
end NonconformingQuad
