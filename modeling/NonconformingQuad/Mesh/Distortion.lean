import NonconformingQuad.Mesh.Grid
import NonconformingQuad.Mesh.Seed

/-! Displacement of interior nodes. Nodes on the bounding box stay where they are; the others
may move by up to an amplitude in each direction. How far a node is moved is not decided
here: a displacement is given for every node. -/
namespace NonconformingQuad.Distortion

open Scalar

variable {K : Type} [Scalar K]

/-- Least of a list of numbers, undefined as soon as one of them is. -/
def least : List K → K
  | [] => 0
  | x :: rest => rest.foldl lesser x

/-- Greatest of a list of numbers, undefined as soon as one of them is. -/
def greatest : List K → K
  | [] => 0
  | x :: rest => rest.foldl greater x

/-- For each number, whether it lies within `tol` of the least or the greatest one. -/
def nearEnds (tol : K) (xs : List K) : List Bool :=
  let low := least xs
  let high := greatest xs
  xs.map fun x => decide (abs (x - low) ≤ tol) || decide (abs (x - high) ≤ tol)

def onBoundary (tol : K) (nodes : List (Point K)) : List Bool :=
  List.zipWith (· || ·) (nearEnds tol (nodes.map (·.x))) (nearEnds tol (nodes.map (·.y)))

/-- The nodes with their displacements, which are dropped on the boundary. -/
def displace (tol : K) (shifts : List (Point K)) (nodes : List (Point K)) : List (Point K) :=
  List.zipWith (fun p s => p + s) nodes
    (List.zipWith (fun fixed s => if fixed then 0 else s) (onBoundary tol nodes) shifts)

/-- A displacement of at most `amplitude` in each direction. -/
def Bounded (amplitude : K) (s : Point K) : Prop :=
  -amplitude ≤ s.x ∧ s.x ≤ amplitude ∧ -amplitude ≤ s.y ∧ s.y ≤ amplitude

/-- Amplitudes have a finite span and are not negative; minus zero counts as negative. -/
def checkAmplitude (amplitude : K) : Except (Fault K) Unit :=
  if !Scalar.isFinite (amplitude - -amplitude) then .error (.misuse .overflow)
  else if amplitude < 0 ∨ 1 / amplitude < 0 then .error (.misuse .negative)
  else .ok ()

def differs (a b : K) : Bool := decide (a < b) || decide (b < a)

/-- For each node, whether one of its coordinates has changed; an undefined coordinate has not. -/
def moved (before after : List (Point K)) : List Bool :=
  List.zipWith (fun p q => differs p.x q.x || differs p.y q.y) before after

/-- The coordinates of all nodes at the same place `rest` of a node. -/
def column (t : Tensor K) (rest : List Nat) : List K :=
  (List.range (t.shape.headD 0)).map fun i => t.value (i :: rest)

/-- Coordinate `rest` of node `i` lies within `tol` of the least or the greatest of its column. -/
def isNearEnd (tol : K) (t : Tensor K) (i : Nat) (rest : List Nat) : Bool :=
  (nearEnds tol (column t rest))[i]?.getD false

/-- Coordinate `rest` of node `i` is kept: along the first axis of the node some coordinate
lies near an end of its column. -/
def isKept (tol : K) (t : Tensor K) (i : Nat) (rest : List Nat) : Bool :=
  (List.range ((t.shape.drop 1).headD 0)).any fun l => isNearEnd tol t i (l :: rest.dropLast)

def movedEntries (tol : K) (shift : Nat → K) (t : Tensor K) : List Bool :=
  let axes := t.shape.drop 1
  (List.range (t.shape.headD 0)).map fun i =>
    (List.range (Index.volume axes)).any fun n =>
      let rest := Index.ofPlace axes n
      let x := t.value (i :: rest)
      !isKept tol t i rest && differs x (x + shift i)

/-- Whether the coordinates that are kept can be marked: the marks, which have the axes of an
array without its second one, have to lie on the array's leading axes. Marks without entries
lie anywhere. -/
def marksFit : List Nat → Bool
  | _ :: d :: rest => (List.zip (d :: rest) rest).all fun (length, marks) =>
      marks == length || marks == 0
  | _ => false

/-- An array of nodes with the tolerance for its bounding box; without nodes there is none. -/
def bounded (tol : Bound K) (nodes : Listing K) : Except (Fault K) (Tensor K × K) := do
  let t ← nodes.tensor
  match t.shape with
  | [] => throw (.misuse .missingAxis)
  | 0 :: _ => throw (.misuse .noNodes)
  | shape =>
    let tol ← (tol.valueFor (Index.volume shape)).mapError .misuse
    if shape.length = 1 then throw (.misuse .missingAxis)
    return (t, tol)

/-- For each node of an array, whether it moves when it is displaced by what `shift` gives for
the amplitude and its number. The nodes are looked at first, then the seed, then the amplitude.
A node that is an array itself has to be a single row, or else it is not one thing that moves. -/
def movedInput (tol amplitude : Bound K) (seed : Seed) (shift : K → Nat → Point K)
    (nodes : Listing K) : Except (Fault K) (List Bool) := do
  let (t, tol) ← bounded tol nodes
  seed.check.mapError .misuse
  let amplitude ← amplitude.value.mapError .misuse
  checkAmplitude amplitude
  match t.shape with
  | [n, 2] =>
    let before := t.toPoints
    return moved before (displace tol ((List.range n).map (shift amplitude)) before)
  | shape =>
    if !marksFit shape then throw (.misuse .outOfRange)
    if Index.volume (shape.drop 2) ≠ 1 then throw (.misuse .ambiguous)
    return movedEntries tol (fun i => (shift amplitude i).x) t

end NonconformingQuad.Distortion

namespace NonconformingQuad.Grid

variable {K : Type} [Scalar K]

/-- The mesh of the grid with its interior nodes displaced, if an amplitude is given that is
positive. -/
def distortedMesh (g : Grid K) (tol amplitude : Bound K) (seed : Seed) (shift : Nat → Point K) :
    Run K (Mesh K) := do
  if ← .ofMisuse amplitude.isPositive then
    let tol ← .ofMisuse tol.value
    .ofMisuse seed.check
    let amplitude ← .ofMisuse amplitude.value
    .ofExcept (Distortion.checkAmplitude amplitude)
    let shifts := (List.range g.nodes.length).map shift
    Mesh.build (Distortion.displace tol shifts g.nodes) g.cells
  else Mesh.build g.nodes g.cells

end NonconformingQuad.Grid
