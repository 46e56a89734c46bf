import NonconformingQuad.Basis.Solver

/-! The shape functions of a stack of cells at once. The formulas are written out in
coordinates; a cell without a table keeps a sine of zero, so that all bad cells of the stack
are found together. -/
namespace NonconformingQuad.Stack

open Scalar

variable {K : Type} [Scalar K]

/-- What the computation knows of one cell of a stack. -/
structure Row (K : Type) where
  /-- Sine of the angle between the midlines, zero for a cell without a table. -/
  sine : K
  table? : Option (ShapeTable K)

def row (V : Quad K) : Row K :=
  let m0x := half * ((V .bottomLeft).x + (V .topLeft).x)
  let m0y := half * ((V .bottomLeft).y + (V .topLeft).y)
  let m1x := half * ((V .bottomRight).x + (V .topRight).x)
  let m1y := half * ((V .bottomRight).y + (V .topRight).y)
  let m2x := half * ((V .bottomLeft).x + (V .bottomRight).x)
  let m2y := half * ((V .bottomLeft).y + (V .bottomRight).y)
  let m3x := half * ((V .topLeft).x + (V .topRight).x)
  let m3y := half * ((V .topLeft).y + (V .topRight).y)
  let cx := quarter * (m0x + m1x + m2x + m3x)
  let cy := quarter * (m0y + m1y + m2y + m3y)
  let d1x := m0x - m1x
  let d1y := m0y - m1y
  let d2x := m2x - m3x
  let d2y := m2y - m3y
  let det := d1x * d2y - d2x * d1y
  let scale := sqrt (d1x * d1x + d1y * d1y) * sqrt (d2x * d2x + d2y * d2y)
  if IsZero det ∨ IsZero scale ∨ !Scalar.isFinite det ∨ !Scalar.isFinite scale then ⟨0, none⟩
  else
    { sine := det / scale
      table? := some fun k =>
        let sx := match k with
          | .bottomLeft | .topLeft => half
          | .bottomRight | .topRight => -half
        let sy := match k with
          | .bottomLeft | .bottomRight => half
          | .topLeft | .topRight => -half
        let a := (d2y * sx - d1y * sy) / det
        let b := (-d2x * sx + d1x * sy) / det
        ⟨a, b, quarter - cx * a - cy * b⟩ }

namespace Row

def usable? (r : Row K) : Option (ShapeTable K) := r.table?.filter ShapeTable.isFinite

/-- The cell has to be refused. -/
def isBad (threshold : K) (r : Row K) : Bool :=
  decide (abs r.sine ≤ threshold) || r.usable?.isNone

/-- The cell has to be reported. -/
def isNear (warning : K) (r : Row K) : Bool := decide (abs r.sine ≤ warning)

end Row

/-- Positions of the items that pass a test, in ascending order. -/
def positions {α : Type} (test : α → Bool) (xs : List α) : List Nat :=
  (List.range xs.length).filter fun i => (xs[i]?).any test

/-- The shape functions of all cells, or one fault that names every degenerate cell. All
nearly degenerate cells are reported in one notice. -/
def shapeTables (tol : Tolerances (Bound K)) (threshold? : Option (Bound K))
    (cells : List (Quad K)) : Run K (List (ShapeTable K)) := do
  let rows := cells.map row
  let threshold ← .ofMisuse ((threshold?.getD tol.degeneracy).valueFor cells.length)
  let bad := positions (Row.isBad threshold) rows
  if bad.isEmpty then
    let warning ← .ofMisuse (tol.warning.valueFor cells.length)
    let near := positions (Row.isNear warning) rows
    { notices := if near.isEmpty then [] else [.nearlyDegenerateCells near]
      outcome := .ok (rows.filterMap Row.usable?) }
  else .fail (.degenerateCells bad cells.length)

/-- For each cell of a stack the same number of points. -/
structure PointStack (K : Type) where
  size : Nat
  byCell : List (List (Point K))

/-- Values and gradients by cell, point and corner. -/
structure Tabulated (K : Type) where
  size : Nat
  values : List (List (Corner → K))
  gradients : List (List (Corner → Point K))

def tabulate (tables : List (ShapeTable K)) (points : PointStack K) : Tabulated K where
  size := points.size
  values := List.zipWith (fun N ps => ps.map fun p k => (N k).a * p.x + (N k).b * p.y + (N k).c)
    tables points.byCell
  gradients :=
    List.zipWith (fun N ps => ps.map fun _ k => ⟨(N k).a, (N k).b⟩) tables points.byCell

end NonconformingQuad.Stack
