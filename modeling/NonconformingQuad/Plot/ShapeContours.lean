import NonconformingQuad.Basis.Evaluate
import NonconformingQuad.Element.P1
import NonconformingQuad.Plot.SampleGrid
import NonconformingQuad.Plot.Selection
import NonconformingQuad.Plot.Surface
import NonconformingQuad.Tensor.Room

/-! Contour drawing of the shape functions of a cell, one pair of axes for each function. All
functions are evaluated at all samples of the cell at once; each panel takes its own row of these
values and makes it a square like the coordinates of the samples. -/
namespace NonconformingQuad.Plot

structure ShapeContours (K : Type) where
  resolution : Literal := .int 40
  functions? : Option (List Selection) := none
  levels : Argument K := .count 15
  shown : Bool := true
  /-- Axes to draw on; without any a new figure is made. -/
  axes? : Option (List String) := none

namespace ShapeContours

variable {K : Type} [Scalar K]

/-- The number of samples in each direction. There has to be room for all of them. -/
def samples (resolution : Literal) : Except Misuse Nat :=
  match resolution.int? with
  | none => .error .notAnInteger
  | some n => do
    Tensor.checkShape [n]
    Tensor.checkShape [n, n]
    return n.toNat

/-- The rows of some functions in a table of values, one below the other. -/
def rows? (values : Tensor K) (ks : List Corner) : Option (Tensor K) := do
  let rows ← ks.mapM fun k => values.sub? [(k.number : Int)]
  return .stack (values.shape.drop 1) rows.toArray

/-- Samples of the functions that are selected. They make a square of samples only if there is
just one of them, or if the square is empty. -/
def functionSamples (values : Tensor K) (n : Nat) (selection : Selection) :
    Except Misuse (Tensor K) := do
  let ks ← selection.corners
  ((rows? values ks).bind fun t => t.reshape? [n, n]).elim (.error .shapesDiffer) .ok

def contours (grid : SampleGrid K) (levels : Argument K) (axes : String) (values : Tensor K) :
    Call K :=
  ⟨some axes, "contourf", [.array grid.x, .array grid.y, .array values],
    [("cmap", .text "viridis"), ("levels", levels)]⟩

/-- The scale of colours beside some contours. -/
def colorScale (made axes : String) : Call K :=
  ⟨some surface, "colorbar", [.object made],
    [("ax", .object axes), ("shrink", .number (Nat.cast 4 / Nat.cast 5))]⟩

def closedOutline (V : Quad K) : List (Point K) := V.outline ++ [V .bottomLeft]

def line (axes : String) (ps : List (Point K)) : Call K := curve axes ps "k-" [("lw", .number 1)]

def dots (axes : String) (ps : List (Point K)) : Call K := curve axes ps "wo" [("ms", .count 4)]

def cross (axes : String) (p : Point K) : Call K := mark axes p "r+" [("ms", .count 8)]

def heading (axes : String) (text : String) : Call K :=
  ⟨some axes, "set_title", [.text text], []⟩

def title (selection : Selection) : String := P1.name ++ "  N" ++ selection.plain

/-- The outline of the cell, the midpoints of its edges with their centroid, and the title. -/
def trimmings (V : Quad K) (axes : String) (selection : Selection) : List (Call K) :=
  [line axes (closedOutline V),
    dots axes (Face.all.map V.edgeMidpoint),
    cross axes V.centroid,
    heading axes (title selection),
    equalAspect axes]

variable {ε : Type}

/-- Draws one of the functions in a table of values: its contours with their scale of colours, then
the trimmings. -/
def panel (s : Surface K ε) (V : Quad K) (grid : SampleGrid K) (levels : Argument K)
    (values : Tensor K) (axes : String) (selection : Selection) : Sketch K ε Unit := do
  let Z ← .ofMisuse (functionSamples values grid.size selection)
  let made ← s.ask (contours grid levels axes Z)
  let _ ← s.ask (colorScale made axes)
  s.askAll (trimmings V axes selection)

/-- The functions that are drawn, all of them unless some are selected. -/
def selections (r : ShapeContours K) : List Selection :=
  r.functions?.getD (Corner.all.map Selection.single)

/-- The axes to draw on. New ones are made for as many functions as there are. -/
def opening (r : ShapeContours K) (s : Surface K ε) : Sketch K ε (List String) :=
  match r.axes? with
  | some axes => pure axes
  | none => s.askRow (newRow r.selections.length (4 * r.selections.length) 4)

/-- Draws the shape functions of a cell; the value is the labels of the axes. Functions and axes are
paired up in order, and what is left of the longer list is not drawn. `n?` is the number of samples
in each direction, or why there is none. -/
def drawing (r : ShapeContours K) (s : Surface K ε) (tol : Tolerances (Bound K)) (V : Quad K)
    (n? : Except Misuse Nat) : Sketch K ε (List String) := do
  let axes ← r.opening s
  let n ← .ofMisuse n?
  let grid ← .ofMisuse ((SampleGrid.ofCell? V n).elim (.error .shapesDiffer) .ok)
  let N ← .ofRun (V.shapeTable tol none)
  let values ← .ofRun (.ofExcept (Affine.evaluate N.toTensor (.ofPoints grid.points)))
  (axes.zip r.selections).forM fun (axes, k) => panel s V grid r.levels values axes k
  s.askAll (showing r.shown)
  return axes

/-- Draws with as many samples as are asked for. -/
def drawOn (r : ShapeContours K) (s : Surface K ε) (tol : Tolerances (Bound K)) (V : Quad K) :
    Sketch K ε (List String) :=
  r.drawing s tol V (samples r.resolution)

def draw (r : ShapeContours K) (tol : Tolerances (Bound K)) (V : Quad K) :
    Run K (Drawing K (List String)) :=
  (r.drawOn .recorder tol V).record

end ShapeContours
end NonconformingQuad.Plot
