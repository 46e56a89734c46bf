import NonconformingQuad.Geometry.Face
import NonconformingQuad.Geometry.Point

/-! Quadrilaterals, convex or not. The two midlines join the midpoints of opposite edges;
they carry the shape functions, and their determinant is the signed area. -/
namespace NonconformingQuad

abbrev Quad (K : Type) := Corner → Point K

def Corner.sum {K : Type} [Scalar K] (f : Corner → K) : K :=
  f .bottomLeft + f .bottomRight + f .topLeft + f .topRight

namespace Quad

variable {K : Type} [Scalar K]

def of (bottomLeft bottomRight topLeft topRight : Point K) : Quad K
  | .bottomLeft => bottomLeft
  | .bottomRight => bottomRight
  | .topLeft => topLeft
  | .topRight => topRight

def vertices (V : Quad K) : List (Point K) := Corner.all.map V

def face (V : Quad K) (f : Face) : Point K × Point K := (V f.first, V f.second)

def edgeMidpoint (V : Quad K) (f : Face) : Point K := Point.midpoint (V f.first) (V f.second)

def half (V : Quad K) (f : Face) : Half → Point K × Point K
  | .lower => (V f.first, V.edgeMidpoint f)
  | .upper => (V.edgeMidpoint f, V f.second)

def centroid (V : Quad K) : Point K :=
  Point.scale Scalar.quarter
    (V.edgeMidpoint .left + V.edgeMidpoint .right + V.edgeMidpoint .bottom + V.edgeMidpoint .top)

/-- From the midpoint of the right edge to that of the left edge. -/
def midlineX (V : Quad K) : Point K := V.edgeMidpoint .left - V.edgeMidpoint .right

/-- From the midpoint of the top edge to that of the bottom edge. -/
def midlineY (V : Quad K) : Point K := V.edgeMidpoint .bottom - V.edgeMidpoint .top

def midlineDeterminant (V : Quad K) : K := Point.cross V.midlineX V.midlineY

/-- The corners in the order in which an outline visits them. -/
def outline (V : Quad K) : List (Point K) :=
  [V .bottomLeft, V .bottomRight, V .topRight, V .topLeft]

def vertexAverage (V : Quad K) : Point K :=
  Point.scale Scalar.quarter (V .bottomLeft + V .bottomRight + V .topLeft + V .topRight)

end Quad
end NonconformingQuad
