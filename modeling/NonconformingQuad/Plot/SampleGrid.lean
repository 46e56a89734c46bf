import NonconformingQuad.Geometry.Bilinear
import NonconformingQuad.Tensor.Product

/-! Samples of a cell. Equally spaced values in both reference directions make a square grid of
reference points: along a row of the grid the first reference coordinate grows, from row to row
the second one. The points are mapped one after the other, row after row, and only then put back
into squares. -/
namespace NonconformingQuad.Plot

open Scalar

variable {K : Type} [Scalar K]

/-- The samples of a cell: its points in a list, and their coordinates in two squares. -/
structure SampleGrid (K : Type) where
  /-- Number of samples in each direction. -/
  size : Nat
  /-- The physical points, row after row. -/
  points : List (Point K)
  x : Tensor K
  y : Tensor K

namespace SampleGrid

/-- Two lists of values as matrices of one shape: the first list is repeated as a row, the second
one as a column. -/
def coordinates? (x y : Tensor K) : Option (Tensor K × Tensor K) := do
  let shape := [y.entries.size, x.entries.size]
  return (← x.leadingAxis.extend? shape, ← y.asColumn.extend? shape)

/-- The values of a reference coordinate. -/
def ticks (n : Nat) : Tensor K := .ofList ((List.range n).map (linspace (-1) 1 (n - 1)))

/-- The reference points, row after row. -/
def reference? (n : Nat) : Option (List (Point K)) := do
  let (xi, eta) ← coordinates? (ticks n) (ticks n)
  return List.zipWith Point.mk xi.entries.toList eta.entries.toList

/-- One number for each point, as a square. -/
def square? (n : Nat) (xs : List K) : Option (Tensor K) := (Tensor.ofList xs).reshape? [n, n]

/-- The samples of a cell, `n` of them in each direction. -/
def ofCell? (V : Quad K) (n : Nat) : Option (SampleGrid K) := do
  let points := (← reference? n).map (Bilinear.mapPoint V)
  let x ← square? n (points.map (·.x))
  let y ← square? n (points.map (·.y))
  return ⟨n, points, x, y⟩

end SampleGrid
end NonconformingQuad.Plot
