import NonconformingQuad.Number.Dyadic

/-! Update flags: which quantities an evaluation has to compute. A request is a set of
bits; six of them name a quantity, the others are carried along. -/
namespace NonconformingQuad

/-- What can be computed at the quadrature points of a cell, a face or half of a face. -/
inductive Quantity where
  | values | gradients | hessians | points | normals | weights
deriving DecidableEq, Repr

namespace Quantity

def all : List Quantity := [values, gradients, hessians, points, normals, weights]

def index : Quantity → Nat
  | values => 0
  | gradients => 1
  | hessians => 2
  | points => 3
  | normals => 4
  | weights => 5

def flagName : Quantity → String
  | values => "VALUES"
  | gradients => "GRADIENTS"
  | hessians => "HESSIANS"
  | points => "QUADRATURE_POINTS"
  | normals => "CELL_NORMAL_VECTORS"
  | weights => "JXW_VALUES"

def title : Quantity → String
  | values => "Shape values"
  | gradients => "Shape gradients"
  | hessians => "Shape Hessians"
  | points => "Quadrature points"
  | normals => "Normal vectors"
  | weights => "JxW values"

def bufferName : Quantity → String
  | values => "shape_values"
  | gradients => "shape_gradients"
  | hessians => "shape_hessians"
  | points => "quadrature_points"
  | normals => "normal_vectors"
  | weights => "JxW_values"

end Quantity

/-- A set of requested quantities. -/
structure UpdateFlags where
  /-- Bit pattern; bits that name no quantity are kept. -/
  bits : Nat
deriving DecidableEq, Repr

namespace UpdateFlags

def has (f : UpdateFlags) (q : Quantity) : Bool := f.bits.testBit q.index

def empty : UpdateFlags := ⟨0⟩

def only (q : Quantity) : UpdateFlags := ⟨1 <<< q.index⟩

def union (f g : UpdateFlags) : UpdateFlags := ⟨f.bits ||| g.bits⟩

def ofList (qs : List Quantity) : UpdateFlags := qs.foldr (fun q f => (only q).union f) empty

def within (f g : UpdateFlags) : Bool := f.bits ||| g.bits == g.bits

def isKnown (f : UpdateFlags) : Bool := f.bits < 64

/-- The quantity that is requested, if it is the only set bit. -/
def single? (f : UpdateFlags) : Option Quantity := Quantity.all.find? fun q => f == only q

/-- Least power of two above every bit of `n`. -/
def bitSpan (n : Nat) : Nat := if n = 0 then 1 else Number.pow2 (n.log2 + 1)

/-- The request that an integer stands for. A negative one is counted down from 64, as long as
that leaves a number that is not negative; otherwise from the least power of two above its
magnitude. -/
def ofInt : Int → UpdateFlags
  | .ofNat n => ⟨n⟩
  | .negSucc n => ⟨(if n < 64 then 64 else bitSpan (n + 1)) - (n + 1)⟩

/-- Names of the requested quantities, then the number made of the other bits. -/
def parts (f : UpdateFlags) : List String :=
  (Quantity.all.filter f.has).map Quantity.flagName ++
    (if f.isKnown then [] else [toString (f.bits / 64 * 64)])

def render (f : UpdateFlags) : String :=
  if f.bits = 0 then "<UpdateFlags.DEFAULT: 0>"
  else if f.bits % 64 = 0 then "<UpdateFlags: " ++ toString f.bits ++ ">"
  else "<UpdateFlags." ++ String.intercalate "|" f.parts ++ ": " ++ toString f.bits ++ ">"

@[simp] theorem has_union (f g : UpdateFlags) (q : Quantity) :
    (f.union g).has q = (f.has q || g.has q) := by
  simp [has, union]

theorem only_has (p q : Quantity) : (only p).has q = (p == q) := by
  cases p <;> cases q <;> decide

end UpdateFlags
end NonconformingQuad
