import NonconformingQuad.Basis.Stack
import NonconformingQuad.Geometry.Bilinear
import NonconformingQuad.Geometry.CellInput
import NonconformingQuad.Tensor.Points

/-! Stacks of cells as they are handed over: an array of cells, each with four rows of two
coordinates, and for each cell an array of points. -/
namespace NonconformingQuad.Stack

variable {K : Type} [Scalar K]

/-- An array with one axis at least. -/
def axes (v : Listing K) : Except (Fault K) (Tensor K) := do
  let t ← v.tensor
  return if t.rank = 0 then t.leadingAxis else t

def quads : List (Point K) → List (Quad K)
  | a :: b :: c :: d :: rest => Quad.of a b c d :: quads rest
  | _ => []

/-- The cells of an array of vertices. -/
def cellsOf (t : Tensor K) : Except (Fault K) (List (Quad K)) :=
  match t.shape with
  | [_, 4, 2] => .ok (quads t.toPoints)
  | shape => .error (.stackShape shape)

def cells (vertices : Listing K) : Except (Fault K) (List (Quad K)) := do
  cellsOf (← axes vertices)

/-- Points taken `n` at a time, for `cells` cells. -/
def groups (n : Nat) : Nat → List (Point K) → List (List (Point K))
  | 0, _ => []
  | cells + 1, ps => ps.take n :: groups n cells (ps.drop n)

/-- The points of each of `n` cells. -/
def pointsOf (n : Nat) (t : Tensor K) : Except (Fault K) (PointStack K) :=
  match t.shape with
  | [m, size, 2] =>
    if m = n then .ok ⟨size, groups size n t.toPoints⟩ else .error (.stackPointsShape n t.shape)
  | shape => .error (.stackPointsShape n shape)

def shapeTablesOf (tol : Tolerances (Bound K)) (threshold? : Option (Bound K))
    (vertices : Listing K) : Run K (List (ShapeTable K)) := do
  let Vs ← .ofExcept (cells vertices)
  shapeTables tol threshold? Vs

/-- Values and gradients for an array of vertices and an array of points that may itself be
faulty. The points are looked at last. -/
def tabulateOn (tol : Tolerances (Bound K)) (threshold? : Option (Bound K)) (vertices : Tensor K)
    (points : Except (Fault K) (Tensor K)) : Run K (Tabulated K) := do
  let Vs ← .ofExcept (cellsOf vertices)
  let tables ← shapeTables tol threshold? Vs
  let t ← .ofExcept points
  let ps ← .ofExcept (pointsOf tables.length t)
  return tabulate tables ps

def tabulateOf (tol : Tolerances (Bound K)) (threshold? : Option (Bound K))
    (vertices points : Listing K) : Run K (Tabulated K) := do
  let t ← .ofExcept (axes vertices)
  tabulateOn tol threshold? t (axes points)

def mapPoints (cells : List (Quad K)) (ps : List (Point K)) : List (List (Point K)) :=
  cells.map fun V => ps.map (Bilinear.mapPoint V)

/-- Lists of `n` points each as an array by cell, point and direction. -/
def pointTensor (n : Nat) (points : List (List (Point K))) : Tensor K :=
  .stack [n, 2] (points.map Tensor.ofPoints).toArray

/-- The physical points of all cells, for an array of vertices and an array of reference points
that may itself be faulty. -/
def mapPointsOn (vertices : Tensor K) (points : Except (Fault K) (Tensor K)) :
    Except (Fault K) (Tensor K) := do
  let Vs ← cellsOf vertices
  let t ← points
  let ps ← t.pointRows
  return pointTensor ps.length (mapPoints Vs ps)

def mapPointsOf (vertices points : Listing K) : Except (Fault K) (Tensor K) := do
  mapPointsOn (← axes vertices) points.tensor

/-- The vertices of cells as an array by cell, vertex and direction. -/
def vertexTensor (cells : List (Quad K)) : Tensor K := pointTensor 4 (cells.map Quad.vertices)

def coefficientTensor (tables : List (ShapeTable K)) : Tensor K :=
  .stack [4, 3] (tables.map (·.toTensor)).toArray

namespace Tabulated

def valueTensor (t : Tabulated K) : Tensor K :=
  .tabulate [t.values.length, t.size, 4] fun is =>
    match t.values[is.getD 0 0]?.bind fun row => row[is.getD 1 0]? with
    | some f => f (.ofIndex (is.getD 2 0))
    | none => 0

def gradientTensor (t : Tabulated K) : Tensor K :=
  .tabulate [t.gradients.length, t.size, 4, 2] fun is =>
    match t.gradients[is.getD 0 0]?.bind fun row => row[is.getD 1 0]? with
    | some f =>
      let p := f (.ofIndex (is.getD 2 0))
      if is.getD 3 0 = 0 then p.x else p.y
    | none => 0

end Tabulated
end NonconformingQuad.Stack
