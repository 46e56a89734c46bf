import NonconformingQuad.Geometry.Quad

/-! The bilinear map of the reference square onto a quadrilateral, with the weights of the
four vertices and their slopes written out. -/
namespace NonconformingQuad.Bilinear

open Scalar

variable {K : Type} [Scalar K]

/-- Weight of each vertex at a reference point. -/
def weight (p : Point K) : Corner → K
  | .bottomLeft => quarter * (1 - p.x) * (1 - p.y)
  | .bottomRight => quarter * (1 + p.x) * (1 - p.y)
  | .topLeft => quarter * (1 - p.x) * (1 + p.y)
  | .topRight => quarter * (1 + p.x) * (1 + p.y)

def slope (p : Point K) : Corner → Point K
  | .bottomLeft => ⟨-quarter * (1 - p.y), -quarter * (1 - p.x)⟩
  | .bottomRight => ⟨quarter * (1 - p.y), -quarter * (1 + p.x)⟩
  | .topLeft => ⟨-quarter * (1 + p.y), quarter * (1 - p.x)⟩
  | .topRight => ⟨quarter * (1 + p.y), quarter * (1 + p.x)⟩

/-- Sum of four weighted numbers, the first one added to zero. -/
def combine (w v : Corner → K) : K :=
  0 + w .bottomLeft * v .bottomLeft + w .bottomRight * v .bottomRight + w .topLeft * v .topLeft +
    w .topRight * v .topRight

def mapPoint (V : Quad K) (p : Point K) : Point K :=
  let w := weight p
  ⟨combine w fun k => (V k).x, combine w fun k => (V k).y⟩

end NonconformingQuad.Bilinear
