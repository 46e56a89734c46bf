import NonconformingQuad.Scalar

/-! Points and vectors of the plane. The reference square and the physical plane
share the type: on the reference square `x` and `y` are the two reference coordinates. -/
namespace NonconformingQuad

@[ext] structure Point (K : Type) where
  x : K
  y : K

namespace Point

variable {K : Type} [Scalar K]

instance : Add (Point K) := ⟨fun p q => ⟨p.x + q.x, p.y + q.y⟩⟩
instance : Sub (Point K) := ⟨fun p q => ⟨p.x - q.x, p.y - q.y⟩⟩
instance : Zero (Point K) := ⟨⟨0, 0⟩⟩

@[simp] theorem add_x (p q : Point K) : (p + q).x = p.x + q.x := rfl
@[simp] theorem add_y (p q : Point K) : (p + q).y = p.y + q.y := rfl
@[simp] theorem sub_x (p q : Point K) : (p - q).x = p.x - q.x := rfl
@[simp] theorem sub_y (p q : Point K) : (p - q).y = p.y - q.y := rfl

def scale (c : K) (p : Point K) : Point K := ⟨c * p.x, c * p.y⟩

def midpoint (p q : Point K) : Point K := scale Scalar.half (p + q)

/-- Determinant of two vectors, the signed area of their parallelogram. -/
def cross (p q : Point K) : K := p.x * q.y - q.x * p.y

def dot (p q : Point K) : K := p.x * q.x + p.y * q.y

def norm (p : Point K) : K := Scalar.sqrt (dot p p)

def isFinite (p : Point K) : Bool := Scalar.isFinite p.x && Scalar.isFinite p.y

end Point
end NonconformingQuad
