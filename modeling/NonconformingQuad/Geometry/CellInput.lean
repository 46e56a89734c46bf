import NonconformingQuad.Geometry.PointInput
import NonconformingQuad.Geometry.Quad

/-! Cells as they are handed over: an array, a list of points, a list of nodes, or a cell that
is made before it is used. A cell is accepted when it is four points of the plane. What goes
wrong when the input is made is found before anything else is looked at; the rest when the
cell is used. -/
namespace NonconformingQuad

/-- The points of an array with four rows of two, in order. -/
def Quad.ofTensor {K : Type} [Scalar K] (t : Tensor K) : Quad K :=
  let point := fun k => (⟨t.value [k, 0], t.value [k, 1]⟩ : Point K)
  Quad.of (point 0) (point 1) (point 2) (point 3)

inductive CellForm where
  | sequence
  | array
  /-- A list of nodes; a node has two coordinates. -/
  | nodes
  | cell
deriving DecidableEq, Repr

structure CellInput (K : Type) where
  form : CellForm
  vertices : Listing K

namespace Nested

variable {K : Type}

def items : Listing K → Except Misuse (List (Listing K))
  | .list items => .ok items
  | .number _ => .error .notAList

def checkPair : Listing K → Except Misuse Unit
  | .list [_, _] => .ok ()
  | .list _ => .error .notAPair
  | .number _ => .error .notAList

def checkPairs (v : Listing K) : Except Misuse Unit := do
  let rows ← v.items
  rows.forM checkPair

end Nested

namespace CellInput

variable {K : Type} [Scalar K]

def toTensor (input : CellInput K) : Except Misuse (Tensor K) :=
  match input.form with
  | .array => input.vertices.array
  | .nodes => do
    input.vertices.checkPairs
    Nested.stacked (← input.vertices.items)
  | .sequence | .cell => do Nested.stacked (← input.vertices.items)

def toQuad (input : CellInput K) : Except (Fault K) (Quad K) := do
  let t ← input.toTensor.mapError .misuse
  if t.shape = [4, 2] then return Quad.ofTensor t else throw (.cellShape t.shape)

/-- What is checked when the input is made, before it is used. -/
def made (input : CellInput K) : Except (Fault K) Unit :=
  match input.form with
  | .sequence => .ok ()
  | .array => do let _ ← input.toTensor.mapError .misuse
  | .nodes => input.vertices.checkPairs.mapError .misuse
  | .cell => do let _ ← input.toQuad

end CellInput
end NonconformingQuad
