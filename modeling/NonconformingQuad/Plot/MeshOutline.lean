import NonconformingQuad.Mesh.Basic
import NonconformingQuad.Plot.Surface

/-! Drawing of a mesh: the outlines of its cells, its nodes as dots, and the numbers of the
cells at the averages of their vertices. -/
namespace NonconformingQuad.Plot

structure MeshOutline where
  nodes : Bool := true
  numbers : Bool := false
  shown : Bool := true
  /-- Axes to draw on; without any a new figure is made. -/
  axes? : Option String := none

namespace MeshOutline

variable {K : Type} [Scalar K]

def label (axes : String) (i : Nat) (V : Quad K) : Call K :=
  let p := V.vertexAverage
  ⟨some axes, "text", [.number p.x, .number p.y, .text (toString i)],
    [("color", .text "blue"), ("fontsize", .count 8), ("ha", .text "center"),
      ("va", .text "center")]⟩

def outlines (cells : List (Quad K)) : Tensor K :=
  .stack [4, 2] (cells.map fun V => Tensor.ofPoints V.outline).toArray

def lineWidth : K := Nat.cast 4 / Nat.cast 5

/-- Draws the mesh on a surface; the value is the label of the axes. -/
def drawOn {ε : Type} (r : MeshOutline) (s : Surface K ε) (m : Mesh K) : Sketch K ε String := do
  let axes ← match r.axes? with
    | some axes => pure axes
    | none => s.ask (newFigure 8 8)
  let cells ← .ofRun (.ofExcept m.cellVertices)
  let poly ← s.ask ⟨none, "PolyCollection", [.array (outlines cells)],
    [("edgecolors", .text "black"), ("facecolors", .text "none"),
      ("linewidths", .number lineWidth)]⟩
  let dots := if r.nodes then [curve axes m.nodes "k." [("markersize", .count 3)]] else []
  let labels := if r.numbers then cells.zipIdx.map fun (V, i) => label axes i V else []
  let closing := [⟨some axes, "autoscale_view", [], []⟩, equalAspect axes]
  s.askAll ([⟨some axes, "add_collection", [.object poly], []⟩] ++ dots ++ labels ++ closing ++
    showing r.shown)
  return axes

def draw (r : MeshOutline) (m : Mesh K) : Except (Fault K) (Drawing K String) :=
  (r.drawOn .recorder m).record.outcome

end MeshOutline
end NonconformingQuad.Plot
