import NonconformingQuad.Geometry.Quad
import NonconformingQuad.Tensor.Basic

/-! Affine functions of the plane, and tables of four of them: one for each corner of a cell. -/
namespace NonconformingQuad

@[ext] structure Affine (K : Type) where
  a : K
  b : K
  c : K

namespace Affine

variable {K : Type} [Scalar K]

def eval (N : Affine K) (p : Point K) : K := N.a * p.x + N.b * p.y + N.c

def gradient (N : Affine K) : Point K := ⟨N.a, N.b⟩

def isFinite (N : Affine K) : Bool :=
  Scalar.isFinite N.a && Scalar.isFinite N.b && Scalar.isFinite N.c

/-- Coefficient in column `j` of a table: the two slopes, then the constant. -/
def coefficient (N : Affine K) : Nat → K
  | 0 => N.a
  | 1 => N.b
  | _ => N.c

end Affine

abbrev ShapeTable (K : Type) := Corner → Affine K

namespace ShapeTable

variable {K : Type} [Scalar K]

def isFinite (N : ShapeTable K) : Bool := Corner.all.all fun k => (N k).isFinite

def toTensor (N : ShapeTable K) : Tensor K :=
  Tensor.tabulate [4, 3] fun is => (N (.ofIndex (is.getD 0 0))).coefficient (is.getD 1 0)

end ShapeTable
end NonconformingQuad
