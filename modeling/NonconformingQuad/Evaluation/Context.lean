import NonconformingQuad.Element.P1
import NonconformingQuad.Evaluation.Mapping
import NonconformingQuad.Summation

/-! Evaluation contexts. A context is built once for a rule and a request; then it is moved
from cell to cell, or from face to face, and its buffers are filled anew each time. -/
namespace NonconformingQuad

/-- Where a context places its points. -/
inductive Placement (K : Type) where
  | cell (rule : Rule K)
  | face (order : Int)
  | half (order : Int)

namespace Placement

variable {K : Type}

def kind : Placement K → ContextKind
  | cell _ => .cell
  | face _ => .face
  | half _ => .half

def size : Placement K → Int
  | cell rule => rule.length
  | face order | half order => order

def onFace : Placement K → Bool
  | cell _ => false
  | face _ | half _ => true

def site (faceNumber halfNumber : Literal) : Placement K → P1.Site
  | cell _ => .cell
  | face _ => .face faceNumber
  | half _ => .half faceNumber halfNumber

/-- The numbers of a face and a half as far as the placement needs them; it takes no others. -/
def arguments (faceNumber? halfNumber? : Option Literal) :
    Placement K → Except Misuse (Literal × Literal)
  | cell _ =>
    match faceNumber?, halfNumber? with
    | none, none => .ok (.none, .none)
    | _, _ => .error .wrongArguments
  | face _ =>
    match faceNumber?, halfNumber? with
    | some f, none => .ok (f, .none)
    | _, _ => .error .wrongArguments
  | half _ =>
    match faceNumber?, halfNumber? with
    | some f, some h => .ok (f, h)
    | _, _ => .error .wrongArguments

def rule [Scalar K] (gauss : LineFamily K) (faceNumber halfNumber : Literal) :
    Placement K → Except (Fault K) (Rule K)
  | cell r => .ok r
  | face order => Rule.face? gauss faceNumber (.int order)
  | half order => Rule.half? gauss faceNumber halfNumber (.int order)

def mappingFace (faceNumber : Literal) (p : Placement K) : Option Literal :=
  if p.onFace then some faceNumber else none

end Placement

structure Context (K : Type) where
  placement : Placement K
  /-- The request for which the context was built. -/
  requested : UpdateFlags
  /-- The request with everything that the element needs for it. -/
  flags : UpdateFlags
  internal : P1.InternalData K
  shapes : ShapeBuffers K
  mapping : MappingBuffers K
  /-- Some cell has been evaluated. -/
  ready : Bool
  face : Option Literal
  half : Option Literal

namespace Context

variable {K : Type} [Scalar K]

def build (placement : Placement K) (requested : UpdateFlags) : Run K (Context K) := do
  let flags := P1.resolve requested
  let n := placement.size
  let internal ← P1.prepare flags n
  let shapes ← .ofExcept (ShapeBuffers.allocate P1.dofsPerCell n flags)
  let mapping ← .ofExcept (MappingBuffers.allocate n flags placement.onFace)
  .notify (.contextBuilt placement.kind P1.name n flags)
  return { placement, requested, flags, internal, shapes, mapping
           ready := false, face := none, half := none }

def mapCell (V : Quad K) (rule : Rule K) (faceNumber : Literal) (c : Context K) :
    Attempt K (Context K) :=
  (Mapping.fill V rule c.flags (c.placement.mappingFace faceNumber) c.mapping).within
    fun mapping => { c with mapping }

def fillShapes (tol : Tolerances (Bound K)) (V : Quad K) (faceNumber halfNumber : Literal)
    (c : Context K) : Attempt K (Context K) :=
  let filled := P1.fill tol (c.placement.site faceNumber halfNumber) (.ok V)
    (Tensor.ofPoints c.mapping.points) c.internal c.shapes
  .ofRun c <| filled.bind fun shapes => pure
    { c with
      shapes, ready := true
      face := if c.placement.onFace then some faceNumber else none
      half := if c.placement.kind = .half then some halfNumber else none }

/-- Evaluates on a cell, and on the face and the half of these numbers where the placement
has them. The cell is looked at first, then the rule; the geometry is written before the
shape data. -/
def reinit (tol : Tolerances (Bound K)) (gauss : LineFamily K) (cell : Except (Fault K) (Quad K))
    (faceNumber halfNumber : Literal) (c : Context K) : Attempt K (Context K) :=
  match cell with
  | .error f => .stop c f
  | .ok V =>
    match c.placement.rule gauss faceNumber halfNumber with
    | .error f => .stop c f
    | .ok rule => (c.mapCell V rule faceNumber).next (fillShapes tol V faceNumber halfNumber)

def buffer (c : Context K) : Quantity → Tensor K
  | .points => .ofPoints c.mapping.points
  | .weights => .ofList c.mapping.weights
  | .normals => .ofPoints c.mapping.normals
  | q => (c.shapes.get q).getD (.replicate [0] 0)

/-- A quantity can be read when it is in the request and some cell has been evaluated. -/
def require (c : Context K) (q : Quantity) : Except (Fault K) Unit :=
  if c.flags.has q then if c.ready then .ok () else .error (.notReady q)
  else .error (.notRequested q c.flags)

def read (c : Context K) (q : Quantity) (indices : List Literal) : Except (Fault K) (Tensor K) := do
  c.require q
  let is ← (indices.mapM Literal.index).mapError .misuse
  match (c.buffer q).sub? is with
  | some t => return t
  | none => throw (.misuse .outOfRange)

def shapeValue (c : Context K) (k q : Literal) : Except (Fault K) K :=
  (c.read .values [k, q]).map (·.value [])

def shapeGradient (c : Context K) (k q : Literal) : Except (Fault K) (Point K) :=
  (c.read .gradients [k, q]).map fun t => ⟨t.value [0], t.value [1]⟩

def shapeHessian (c : Context K) (k q : Literal) : Except (Fault K) (Tensor K) :=
  c.read .hessians [k, q]

def quadraturePoint (c : Context K) (q : Literal) : Except (Fault K) (Point K) :=
  (c.read .points [q]).map fun t => ⟨t.value [0], t.value [1]⟩

/-- Weight of point `q`, measured on the cell or the face. -/
def weight (c : Context K) (q : Literal) : Except (Fault K) K :=
  (c.read .weights [q]).map (·.value [])

/-- Outward unit normal at point `q` of a face. -/
def normal (c : Context K) (q : Literal) : Except (Fault K) (Point K) :=
  if c.placement.onFace then (c.read .normals [q]).map fun t => ⟨t.value [0], t.value [1]⟩
  else .error (.misuse .noBuffer)

def functionValues (c : Context K) (dofs : Tensor K) : Except (Fault K) (Tensor K) := do
  c.require .values
  match dofs.matmul? (c.buffer .values) with
  | some t => return t
  | none => throw (.misuse .shapesDiffer)

/-- Gradients at the points of the function with the given values at the corners; a single
value counts for all corners. -/
def functionGradients (c : Context K) (dofs : Tensor K) : Except (Fault K) (Tensor K) := do
  c.require .gradients
  let g := c.buffer .gradients
  match dofs.shape, g.shape with
  | [m], [k, n, d] =>
    if m = k ∨ m = 1 then
      return .tabulate [n, d] fun is =>
        Tensor.sumUpTo k fun i => dofs.value [if m = 1 then 0 else i] * g.value (i :: is)
    else throw (.misuse .shapesDiffer)
  | _, _ => throw (.misuse .shapesDiffer)

/-- The values of a function that is handed over as nested lists. They are looked at once the
shape values may be read. -/
def functionValuesOf (c : Context K) (dofs : Listing K) : Except (Fault K) (Tensor K) := do
  c.require .values
  let t ← dofs.tensor
  c.functionValues t

/-- The gradients of a function that is handed over as nested lists. They are looked at once
the shape gradients may be read. -/
def functionGradientsOf (c : Context K) (dofs : Listing K) : Except (Fault K) (Tensor K) := do
  c.require .gradients
  let t ← dofs.tensor
  c.functionGradients t

/-- Sum of the weights, whether they are requested or not. -/
def weightSum (c : Context K) : K := Scalar.pairwiseSum c.mapping.weights

def overwrite (q : Quantity) (x : K) (c : Context K) : Context K :=
  let all : Option (Tensor K) → Option (Tensor K) := Option.map (Tensor.map fun _ => x)
  let filled := c.mapping.filled x
  match q with
  | .values => { c with shapes := { c.shapes with values := all c.shapes.values } }
  | .gradients => { c with shapes := { c.shapes with gradients := all c.shapes.gradients } }
  | .hessians => { c with shapes := { c.shapes with hessians := all c.shapes.hessians } }
  | .points => { c with mapping := { c.mapping with points := filled.points } }
  | .weights => { c with mapping := { c.mapping with weights := filled.weights } }
  | .normals => { c with mapping := { c.mapping with normals := filled.normals } }

def overwritePrepared (x : K) (c : Context K) : Except (Fault K) (Context K) :=
  match c.internal.hessians with
  | some t => .ok { c with internal := { c.internal with hessians := some (t.map fun _ => x) } }
  | none => .error (.misuse .notPrepared)

end Context
end NonconformingQuad
