import NonconformingQuad.Geometry.CellInput
import NonconformingQuad.Number.Integral
import NonconformingQuad.Quadrature.Rule

/-! Single cells: a number, four vertices, and the numbers of the nodes at the corners as far
as they are known. -/
namespace NonconformingQuad

structure Cell (K : Type) where
  id : Int
  vertices : Quad K
  nodes : List Int

namespace Cell

variable {K : Type} [Scalar K]

def face (c : Cell K) (number : Literal) : Except (Fault K) (Point K × Point K) :=
  (Face.ofNumber number).map c.vertices.face

/-- End points of half of the face of a number. The half is looked at first. -/
def half (c : Cell K) (number half : Literal) : Except (Fault K) (Point K × Point K) := do
  let h ← Half.ofNumber half
  let f ← Face.ofNumber number
  return c.vertices.half f h

def faceMidpoint (c : Cell K) (number : Literal) : Except (Fault K) (Point K) :=
  (Face.ofNumber number).map c.vertices.edgeMidpoint

def hasNode (c : Cell K) (node : Literal) : Bool := c.nodes.any fun n => (Literal.int n).same node

end Cell

/-- A node on its own. Its coordinates are kept as they are given. -/
structure Node where
  id : Int
  x : Literal
  y : Literal

namespace Node

def position (n : Node) : Except Misuse (Point Float) := do
  return ⟨← n.x.toFloat, ← n.y.toFloat⟩

def integers (n : Node) : Except Misuse (List Int) := [n.x, n.y].mapM Literal.truncated64

end Node

end NonconformingQuad
