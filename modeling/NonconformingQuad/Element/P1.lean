import NonconformingQuad.Basis.Solver
import NonconformingQuad.Element.Buffers
import NonconformingQuad.Element.Layout
import NonconformingQuad.Flags.Closure
import NonconformingQuad.Geometry.CellInput
import NonconformingQuad.Geometry.FaceInput
import NonconformingQuad.Tensor.Product

/-! The nonconforming linear element: one degree of freedom for each corner of a cell, shape
functions that are affine on the physical cell, and one constraint on a refined face: the
new value is the average of the values at the ends. -/
namespace NonconformingQuad.P1

variable {K : Type} [Scalar K]

def name : String := "FE_P1NC"

def layout : Layout :=
  { family := "P1NCElement", name := name
    data := { dofs := [1, 0, 0], components := 1, degree := 1, conformity := .l2 } }

def dofsPerCell : Nat := 4

def dofsPerFace : Nat := 2

/-- Values need the points at which they are taken, normals come with the weights. -/
def closure : FlagClosure :=
  ⟨[⟨.values, .ofList [.values, .points]⟩, ⟨.gradients, .only .gradients⟩,
    ⟨.normals, .ofList [.normals, .weights]⟩, ⟨.hessians, .only .hessians⟩]⟩

def resolve (flags : UpdateFlags) : UpdateFlags := closure.apply flags

def constraints : Tensor K := .replicate [1, 2] Scalar.half

/-- The weights are fixed: an attempt to overwrite them fails. -/
def overwriteConstraints (_ : K) : Except (Fault K) Unit := .error (.misuse .readOnly)

def constraintSupport : Tensor K := .ofList [0]

def faceSupport : Tensor K := .ofList [-1, 1]

def restrictionIsAdditive : List Bool := [false]

/-- For each degree of freedom, the components in which it is not zero. -/
def nonzeroComponents : List (List Bool) := List.replicate dofsPerCell [true]

def applyConstraints (faceValues : Tensor K) : Except (Fault K) (Tensor K) :=
  match faceValues.shape with
  | [] => .error (.misuse .outOfRange)
  | n :: _ =>
    if n = dofsPerFace then
      match constraints.matmul? faceValues with
      | some t => .ok t
      | none => .error (.misuse .shapesDiffer)
    else .error (.faceValues dofsPerFace faceValues.shape)

structure InternalData (K : Type) where
  flags : UpdateFlags
  size : Int
  hessians : Option (Tensor K)

def prepare (requested : UpdateFlags) (n : Int) : Run K (InternalData K) := do
  let flags := resolve requested
  let hessians ← if flags.has .hessians then
      (some <$> .ofExcept (Tensor.zeros? [(dofsPerCell : Int), n, 2, 2]) : Run K _)
    else pure none
  .notify (.dataPrepared name requested flags n)
  return ⟨flags, n, hessians⟩

inductive Site where
  | cell
  | face (number : Literal)
  | half (number half : Literal)

/-- Refuses numbers out of range. The face is looked at first. -/
def Site.check : Site → Except (Fault K) Unit
  | .cell => .ok ()
  | .face n => Face.check n
  | .half n h => do
    Face.check n
    Half.check h

def valuesAt (N : ShapeTable K) (points : Tensor K) (n : Nat) : Tensor K :=
  .tabulate [dofsPerCell, n] fun is =>
    (N (.ofIndex (is.getD 0 0))).eval
      ⟨points.value [is.getD 1 0, 0], points.value [is.getD 1 0, 1]⟩

def gradientsAt (N : ShapeTable K) (n : Nat) : Tensor K :=
  .tabulate [dofsPerCell, n, 2] fun is =>
    (N (.ofIndex (is.getD 0 0))).coefficient (is.getD 2 0)

/-- Shape functions of the cell, needed only for values and gradients. -/
def tableFor (tol : Tolerances (Bound K)) (flags : UpdateFlags) (cell : Except (Fault K) (Quad K)) :
    Run K (Option (ShapeTable K)) :=
  if flags.has .values || flags.has .gradients then do
    let V ← .ofExcept cell
    some <$> V.shapeTable tol none
  else pure none

/-- Writes the requested shape data for a cell. Everything is checked before anything is
written: site, buffers, cell, and for values the physical points. -/
def fill (tol : Tolerances (Bound K)) (site : Site) (cell : Except (Fault K) (Quad K))
    (points : Tensor K) (internal : InternalData K) (out : ShapeBuffers K) :
    Run K (ShapeBuffers K) := do
  .ofExcept site.check
  let flags := internal.flags
  .ofExcept (out.check dofsPerCell internal.size flags)
  let table? ← tableFor tol flags cell
  let n := internal.size.toNat
  if flags.has .values && points.shape.map Int.ofNat != [internal.size, 2] then
    .fail (.bufferShape .points [internal.size, 2] points.shape)
  else
    let values := if flags.has .values then table?.map (valuesAt · points n) else out.values
    let gradients := if flags.has .gradients then table?.map (gradientsAt · n) else out.gradients
    let hessians :=
      if flags.has .hessians then
        match site, internal.hessians with
        | .cell, some cache => some cache
        | _, _ => some (.replicate [dofsPerCell, n, 2, 2] 0)
      else out.hessians
    return ⟨values, gradients, hessians⟩

/-- Overwrites the values at given points. Their number is looked at only here. -/
def writeValues (N : ShapeTable K) (points : Tensor K) (internal : InternalData K)
    (out : ShapeBuffers K) : Attempt K (ShapeBuffers K) :=
  if internal.flags.has .values then
    if points.shape.map Int.ofNat = [internal.size, 2] then
      out.write .values (valuesAt N points internal.size.toNat)
    else .stop out (.bufferShape .points [internal.size, 2] points.shape)
  else .done out

/-- Overwrites the gradients, one of each function for all points. -/
def writeGradients (N : ShapeTable K) (internal : InternalData K) (out : ShapeBuffers K) :
    Attempt K (ShapeBuffers K) :=
  if internal.flags.has .gradients then out.write .gradients (gradientsAt N 1) else .done out

/-- Overwrites the second derivatives by the prepared ones, or by zero if there are none and on
faces. -/
def writeHessians (site : Site) (internal : InternalData K) (out : ShapeBuffers K) :
    Attempt K (ShapeBuffers K) :=
  if internal.flags.has .hessians then
    match site, internal.hessians with
    | .cell, some cache => out.write .hessians cache
    | _, _ => out.write .hessians (.replicate [] 0)
  else .done out

/-- Overwrites the requested shape data for a cell in buffers that belong to the caller, one after
the other. Each failure leaves the buffers as far as they are written by then. -/
def fillInPlace (tol : Tolerances (Bound K)) (site : Site) (cell : Except (Fault K) (Quad K))
    (points : Tensor K) (internal : InternalData K) (out : ShapeBuffers K) :
    Attempt K (ShapeBuffers K) :=
  .after out (.ofExcept site.check) fun _ =>
  .after out (.ofExcept (out.check dofsPerCell internal.size internal.flags)) fun _ =>
  let needed := internal.flags.has .values || internal.flags.has .gradients
  let first : Attempt K (ShapeBuffers K) :=
    if needed then
      .after out (do (← .ofExcept cell).shapeTable tol none) fun N =>
        (writeValues N points internal out).next (writeGradients N internal)
    else .done out
  first.next (writeHessians site internal)

end NonconformingQuad.P1
