import NonconformingQuad.Mesh.Basic
import NonconformingQuad.Mesh.Input
import NonconformingQuad.Tensor.Room

/-! Structured grids: a rectangle divided into equal boxes. Nodes and cells are numbered row
by row, from the bottom row up and from left to right. -/
namespace NonconformingQuad

structure Grid (K : Type) where
  columns : Nat
  rows : Nat
  width : K
  height : K
  /-- How far each node is shifted, by its number; without shifts the lower left corner is
  the origin. -/
  offset? : Option (Nat → Point K)

namespace Grid

variable {K : Type}

def nodeNumber (g : Grid K) (i j : Nat) : Nat := j * (g.columns + 1) + i

def boxNodes (g : Grid K) (i j : Nat) : CellNodes
  | .bottomLeft => (g.nodeNumber i j : Nat)
  | .bottomRight => (g.nodeNumber i j + 1 : Nat)
  | .topLeft => (g.nodeNumber i j + (g.columns + 1) : Nat)
  | .topRight => (g.nodeNumber i j + (g.columns + 1) + 1 : Nat)

def cells (g : Grid K) : List CellNodes :=
  (List.range (g.columns * g.rows)).map fun c => g.boxNodes (c % g.columns) (c / g.columns)

variable [Scalar K]

def position (g : Grid K) (i j : Nat) : Point K :=
  let p : Point K :=
    ⟨Scalar.linspace 0 g.width g.columns i, Scalar.linspace 0 g.height g.rows j⟩
  match g.offset? with
  | some offset => p + offset (g.nodeNumber i j)
  | none => p

def nodes (g : Grid K) : List (Point K) :=
  (List.range (g.rows + 1)).flatMap fun j =>
    (List.range (g.columns + 1)).map fun i => g.position i j

def mesh (g : Grid K) : Mesh K := .ofCells g.nodes g.cells

end Grid

/-- A grid as it is asked for, with counts and lengths of any form. -/
structure GridRequest where
  columns : Literal
  rows : Literal
  width : Literal
  height : Literal
  /-- Shifts in the two coordinates, each of them for all nodes or one for each node; entries
  after the second are ignored. -/
  offset : Option (Listing Float)

namespace GridRequest

open Number

def belowOne (v : Literal) : Except Misuse Bool :=
  match v, v.int? with
  | _, some n => .ok (n < 1)
  | .float x, none => .ok (x < 1.0)
  | _, none => .error .notAnInteger

/-- The value is zero or a negative number. -/
def notPositive (v : Literal) : Except Misuse Bool :=
  match v, v.int? with
  | _, some n => .ok (n ≤ 0)
  | .float x, none => .ok (x ≤ 0.0)
  | _, none => .error .notAnInteger

/-- Entries of row `i` of an array, one for each of `n` nodes; a single entry is repeated. -/
def shifts (n : Nat) (t : Tensor Float) (i : Nat) : Except Misuse (Nat → Float) :=
  match t.shape with
  | [] => .error .outOfRange
  | rows :: rest =>
    if rows ≤ i then .error .outOfRange
    else match rest with
      | [] => .ok fun _ => t.value [i]
      | [m] =>
        if m = n then .ok fun k => t.value [i, k]
        else if m = 1 then .ok fun _ => t.value [i, 0]
        else .error .shapesDiffer
      | _ => .error .shapesDiffer

/-- How far each of `n` nodes is shifted. -/
def offsetOf (n : Nat) (v : Listing Float) : Except Misuse (Nat → Point Float) := do
  let t ← v.array
  let x ← shifts n t 0
  let y ← shifts n t 1
  return fun k => ⟨x k, y k⟩

/-- One of two conditions holds; the second is looked at only if the first does not. -/
def either (a b : Except Misuse Bool) : Except Misuse Bool := do
  if ← a then return true else b

def lift {α : Type} (r : Except Misuse α) : Except (Fault Float) α := r.mapError .misuse

/-- The grid that is asked for. Counts come first, then lengths, then the room for the nodes,
and the shifts last. -/
def grid (r : GridRequest) : Except (Fault Float) (Grid Float) := do
  if ← lift (either (belowOne r.columns) (belowOne r.rows)) then
    throw (.gridCounts r.columns r.rows)
  if ← lift (either (notPositive r.width) (notPositive r.height)) then
    throw (.gridSize r.width r.height)
  let width ← lift r.width.toFloat
  let height ← lift r.height.toFloat
  let columns := (← lift r.columns.truncated).toNat
  let rows := (← lift r.rows.truncated).toNat
  let nodes := (columns + 1) * (rows + 1)
  lift (Tensor.checkRoom [nodes, 2])
  let offset? ← match r.offset with
    | some v => some <$> lift (offsetOf nodes v)
    | none => pure none
  return { columns, rows, width, height, offset? }

end GridRequest
end NonconformingQuad
