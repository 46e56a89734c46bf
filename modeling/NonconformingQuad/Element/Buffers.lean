import NonconformingQuad.Run
import NonconformingQuad.Tensor.Broadcast
import NonconformingQuad.Tensor.Room

/-! Buffers for shape data: values, gradients and second derivatives by degree of freedom and
quadrature point. A buffer that is not requested has no entries. -/
namespace NonconformingQuad

/-- An array of zeros; no length may be negative, and there has to be room for it. -/
def Tensor.zeros? {K : Type} [Scalar K] (shape : List Int) : Except (Fault K) (Tensor K) := do
  (Tensor.checkShape shape).mapError .misuse
  return Tensor.replicate (shape.map Int.toNat) 0

/-- The three buffers that an element writes into; each may be missing. -/
structure ShapeBuffers (K : Type) where
  values : Option (Tensor K)
  gradients : Option (Tensor K)
  hessians : Option (Tensor K)

namespace ShapeBuffers

variable {K : Type}

def get (b : ShapeBuffers K) : Quantity → Option (Tensor K)
  | .values => b.values
  | .gradients => b.gradients
  | .hessians => b.hessians
  | _ => none

def set (q : Quantity) (t : Tensor K) (b : ShapeBuffers K) : ShapeBuffers K :=
  match q with
  | .values => { b with values := some t }
  | .gradients => { b with gradients := some t }
  | .hessians => { b with hessians := some t }
  | _ => b

/-- Overwrites a buffer in place. It keeps its shape, to which the new entries have to extend. -/
def write [Zero K] (q : Quantity) (entries : Tensor K) (b : ShapeBuffers K) :
    Attempt K (ShapeBuffers K) :=
  match (b.get q).bind fun t => entries.extend? t.shape with
  | some t => .done (b.set q t)
  | none => .stop b (.misuse .shapesDiffer)

def tail : Quantity → List Int
  | .gradients => [2]
  | .hessians => [2, 2]
  | _ => []

/-- The quantities that have a shape buffer, in the order in which they are checked. -/
def quantities : List Quantity := [.values, .gradients, .hessians]

/-- A buffer of zeros for `n` points, without entries if there are no points. -/
def zeros? [Scalar K] (dofs n : Int) (q : Quantity) : Except (Fault K) (Tensor K) :=
  Tensor.zeros? ((if n = 0 then 0 else dofs) :: n :: tail q)

def allocate [Scalar K] (dofs n : Int) (flags : UpdateFlags) :
    Except (Fault K) (ShapeBuffers K) := do
  let size := fun q => if flags.has q then n else 0
  let values ← zeros? dofs (size .values) .values
  let gradients ← zeros? dofs (size .gradients) .gradients
  let hessians ← zeros? dofs (size .hessians) .hessians
  return ⟨some values, some gradients, some hessians⟩

/-- Shape of a buffer; a missing one has no axes. -/
def shapeOf (t? : Option (Tensor K)) : List Nat := (t?.map (·.shape)).getD []

/-- The buffer of a quantity is there with the shape for `dofs` functions and `n` points. -/
def fits (b : ShapeBuffers K) (dofs n : Int) (q : Quantity) : Bool :=
  match b.get q with
  | some t => t.shape.map Int.ofNat == dofs :: n :: tail q
  | none => false

/-- The first requested quantity whose buffer does not fit. -/
def misfit? (b : ShapeBuffers K) (dofs n : Int) (flags : UpdateFlags) : Option Quantity :=
  quantities.find? fun q => flags.has q && !b.fits dofs n q

/-- Refuses buffers of which a requested one does not fit. -/
def check (b : ShapeBuffers K) (dofs n : Int) (flags : UpdateFlags) : Except (Fault K) Unit :=
  match b.misfit? dofs n flags with
  | some q => .error (.bufferShape q (dofs :: n :: tail q) (shapeOf (b.get q)))
  | none => .ok ()

end ShapeBuffers
end NonconformingQuad
