import NonconformingQuad.Basis.StackInput
import NonconformingQuad.Mesh.Cell
import NonconformingQuad.Mesh.Incidence

/-! Meshes of quadrilaterals: node positions, the nodes at the corners of each cell, and the
table of faces that belongs to them. A mesh does not change. -/
namespace NonconformingQuad

/-- A mesh. Node numbers need not be in range; they are looked up when a cell is read. -/
structure Mesh (K : Type) where
  nodes : List (Point K)
  cells : List CellNodes
  faces : FaceTable
  faces_eq : faces = FaceTable.ofCells cells

namespace Mesh

variable {K : Type}

def ofCells (nodes : List (Point K)) (cells : List CellNodes) : Mesh K :=
  ⟨nodes, cells, .ofCells cells, rfl⟩

def build (nodes : List (Point K)) (cells : List CellNodes) : Run K (Mesh K) :=
  let m := ofCells nodes cells
  ⟨[.meshBuilt nodes.length cells.length m.faces.length], .ok m⟩

/-- The entry at an index; a negative one counts from the end. -/
def entry {α : Type} (xs : List α) (i : Int) : Except (Fault K) α :=
  match (Index.resolve? xs.length i).bind fun n => xs[n]? with
  | some x => .ok x
  | none => .error (.misuse .outOfRange)

def verticesOf (m : Mesh K) (nodes : CellNodes) : Except (Fault K) (Quad K) := do
  let bottomLeft ← entry m.nodes (nodes .bottomLeft)
  let bottomRight ← entry m.nodes (nodes .bottomRight)
  let topLeft ← entry m.nodes (nodes .topLeft)
  let topRight ← entry m.nodes (nodes .topRight)
  return .of bottomLeft bottomRight topLeft topRight

/-- The cell of a number; a negative number counts from the end and stays the cell's number. -/
def cell (m : Mesh K) (number : Int) : Except (Fault K) (Cell K) := do
  let nodes ← entry m.cells number
  let vertices ← m.verticesOf nodes
  return ⟨number, vertices, Corner.all.map nodes⟩

def allCells (m : Mesh K) : Except (Fault K) (List (Cell K)) :=
  (List.range m.cells.length).mapM fun (i : Nat) => m.cell (i : Int)

def cellVertices (m : Mesh K) : Except (Fault K) (List (Quad K)) :=
  m.cells.mapM m.verticesOf

/-- The first owner of a cell's face whose number is not the given one. Cell and face may be
counted from the end; the owner is compared with the number as it is given. -/
def neighbor (m : Mesh K) (number faceNumber : Int) : Except (Fault K) (Option Owner) := do
  let nodes ← entry m.cells number
  match Face.ofIndex? faceNumber with
  | some f => return (m.faces.owners (nodes.key f)).find? fun o => (o.cell : Int) != number
  | none => throw (.misuse .outOfRange)

/-- Cells and faces that no other face of the mesh coincides with. -/
def boundaryFaces (m : Mesh K) : List Owner := m.faces.boundary

def allNeighbors (m : Mesh K) : Except (Fault K) (List (List (Option Owner))) :=
  (List.range m.cells.length).mapM fun (i : Nat) =>
    Face.all.mapM fun f => m.neighbor (i : Int) (f.number : Int)

def render (m : Mesh K) : String :=
  "<QuadMesh nodes=" ++ toString m.nodes.length ++ " cells=" ++ toString m.cells.length ++ ">"

variable [Scalar K]

def shapeTables (m : Mesh K) (tol : Tolerances (Bound K)) (threshold? : Option (Bound K)) :
    Run K (List (ShapeTable K)) := do
  let cells ← .ofExcept m.cellVertices
  Stack.shapeTables tol threshold? cells

/-- Physical points on every cell, for the same reference points. The cells are looked at
first. -/
def mapPoints (m : Mesh K) (points : Listing K) : Except (Fault K) (Tensor K) := do
  let cells ← m.cellVertices
  Stack.mapPointsOn (Stack.vertexTensor cells) points.tensor

end Mesh
end NonconformingQuad
