import NonconformingQuad.Mesh.Basic

/-! Meshes as they are handed over: positions as an array with rows of two or as a list of
separate nodes, and node numbers as an array with rows of four. -/
namespace NonconformingQuad.Mesh

variable {K : Type} [Scalar K]

def cellRows : List Int → List CellNodes
  | a :: b :: c :: d :: rest =>
    (fun
      | .bottomLeft => a
      | .bottomRight => b
      | .topLeft => c
      | .topRight => d) :: cellRows rest
  | _ => []

def positionsOf (nodes : Listing K) : Except (Fault K) (List (Point K)) := do
  let t ← nodes.tensor
  match t.shape with
  | [_, 2] => return t.toPoints
  | shape => throw (.meshNodesShape shape)

/-- Positions of the nodes. They come as a list; one of separate nodes has two coordinates
in each item. -/
def positions? (separate : Bool) (nodes : Listing K) : Except (Fault K) (List (Point K)) := do
  let rows ← nodes.items.mapError .misuse
  if separate then (rows.forM Nested.checkPair).mapError .misuse
  positionsOf nodes

def connectivity? (cells : Listing Int) : Except (Fault K) (List CellNodes) := do
  let t ← cells.tensor
  match t.shape with
  | [_, 4] => return cellRows t.entries.toList
  | shape => throw (.meshCellsShape shape)

/-- The mesh of given arrays. Positions are looked at before the cells. -/
def ofInput (separate : Bool) (nodes : Listing K) (cells : Listing Int) : Run K (Mesh K) := do
  let positions ← .ofExcept (positions? separate nodes)
  let rows ← .ofExcept (connectivity? cells)
  build positions rows

end NonconformingQuad.Mesh
