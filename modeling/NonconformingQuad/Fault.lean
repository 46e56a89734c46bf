import NonconformingQuad.Flags.Entry
import NonconformingQuad.Geometry.Quad

/-! Faults: why a computation stopped. Each cause carries what its message tells; causes
that only report a misuse of arrays and numbers have no message of their own. -/
namespace NonconformingQuad

inductive Misuse where
  | ragged
  | notAList
  | notASingleNumber
  | notAPair
  | wrongArguments
  | unreadable
  | tooManyAxes
  | tooManyEntries
  | noRoom
  | outOfRange
  | shapesDiffer
  | negative
  | notAnInteger
  | undefinedInteger
  | overflow
  | divisionByZero
  | notReal
  /-- Several answers, or none, where a single one is needed. -/
  | ambiguous
  | missingAxis
  | noNodes
  /-- A rule without points where Jacobians are needed. -/
  | emptyRule
  /-- A quantity that this kind of evaluation does not have. -/
  | noBuffer
  | notPrepared
  | readOnly
  | unknownConformity
  | noFingerprint
deriving DecidableEq, Repr

inductive Fault (K : Type) where
  | misuse (cause : Misuse)
  | cellShape (shape : List Nat)
  /-- A cell whose midlines are parallel up to the tolerance. -/
  | degenerateCell (determinant sine : K) (cell : Quad K)
  /-- A cell whose shape functions have coefficients that are not finite. -/
  | notRepresentable (determinant : K) (cell : Quad K)
  /-- All degenerate cells of a stack, in ascending order. -/
  | degenerateCells (indices : List Nat) (cells : Nat)
  | stackShape (shape : List Nat)
  | stackPointsShape (cells : Nat) (shape : List Nat)
  | rulePointsShape (shape : List Nat)
  | ruleWeightsShape
  | ruleOrder (order : Literal)
  | faceNumber (number : Literal)
  | halfNumber (number : Literal)
  | bufferShape (buffer : Quantity) (expected : List Int) (actual : List Nat)
  | tableKey (key : Entry)
  | tableDependencies (key : Quantity) (dependencies : Entry)
  | tableKeyMissing (key : Quantity) (dependencies : UpdateFlags)
  | tableNotClosed (key other : Quantity) (otherDependencies : UpdateFlags)
  | faceValues (expected : Int) (shape : List Nat)
  | notRequested (quantity : Quantity) (flags : UpdateFlags)
  | notReady (quantity : Quantity)
  | meshNodesShape (shape : List Nat)
  | meshCellsShape (shape : List Nat)
  | gridCounts (columns rows : Literal)
  | gridSize (width height : Literal)
  | unknownReference (name : Literal)
  | notANumber (setting : String) (text : String)

namespace Fault

open Number

/-- A shape in round brackets; a single length keeps its comma. -/
def tuple : List Int → String
  | [n] => "(" ++ toString n ++ ",)"
  | ns => "(" ++ String.intercalate ", " (ns.map toString) ++ ")"

def shapeText (shape : List Nat) : String := tuple (shape.map Int.ofNat)

def bracketed (items : List String) : String := "[" ++ String.intercalate ", " items ++ "]"

def vertexText (cell : Quad Float) : String :=
  bracketed (cell.vertices.map fun p => bracketed [shortest p.x, shortest p.y])

def shownIndices : Nat := 10

def indexText (indices : List Nat) : String :=
  bracketed ((indices.take shownIndices).map toString)

def message? : Fault Float → Option String
  | misuse _ => none
  | cellShape shape =>
    some ("A quadrilateral cell needs 4 vertices in 2D, got shape " ++ shapeText shape ++ ".")
  | degenerateCell determinant sine cell =>
    some ("Degenerate cell: midline determinant " ++ scientific 3 determinant ++ " (sin angle " ++
      scientific 3 sine ++ "); vertices " ++ vertexText cell)
  | notRepresentable _ cell =>
    some ("Shape coefficients are not representable for vertices " ++ vertexText cell)
  | degenerateCells indices cells =>
    some (toString indices.length ++ " degenerate cell(s) out of " ++ toString cells ++
      ": indices " ++ indexText indices ++ if shownIndices < indices.length then " ..." else "")
  | stackShape shape =>
    some ("vertices must have shape (n_cells, 4, 2), got " ++ shapeText shape)
  | stackPointsShape cells shape =>
    some ("points must have shape (" ++ toString cells ++ ", n_q, 2), got " ++ shapeText shape)
  | rulePointsShape shape => some ("points must have shape (n, 2), got " ++ shapeText shape)
  | ruleWeightsShape => some "weights must have one entry per point"
  | ruleOrder order => some order.plain
  | faceNumber number => some ("face_no must be in [0, 4), got " ++ number.plain)
  | halfNumber number => some ("subface_no must be in [0, 2), got " ++ number.plain)
  | bufferShape buffer expected actual =>
    some ("Output buffer '" ++ buffer.bufferName ++ "' has shape " ++ shapeText actual ++
      ", expected " ++ tuple expected ++ ".")
  | tableKey key =>
    some ("Dependency table key " ++ key.render ++ " is not a single UpdateFlags member.")
  | tableDependencies key dependencies =>
    some ("Dependencies " ++ dependencies.render ++ " of " ++ (UpdateFlags.only key).render ++
      " contain unknown flags.")
  | tableKeyMissing key dependencies =>
    some ("Dependencies of " ++ (UpdateFlags.only key).render ++
      " must contain the flag itself, got " ++ dependencies.render ++ ".")
  | tableNotClosed key other otherDependencies =>
    some ((UpdateFlags.only key).render ++ " pulls in " ++ (UpdateFlags.only other).render ++
      ", whose own dependencies " ++ otherDependencies.render ++
      " are not covered; the closure would not be idempotent.")
  | faceValues expected shape =>
    some ("Expected " ++ toString expected ++ " face values, got shape " ++ shapeText shape)
  | notRequested quantity flags =>
    some (quantity.title ++ " not available: " ++ quantity.flagName ++
      " was not requested (context flags " ++ flags.render ++ ").")
  | notReady quantity => some (quantity.title ++ " not available: call reinit() first.")
  | meshNodesShape shape => some ("nodes must have shape (n, 2), got " ++ shapeText shape)
  | meshCellsShape shape => some ("cells must have shape (n, 4), got " ++ shapeText shape)
  | gridCounts columns rows =>
    some ("nx and ny must be positive, got nx=" ++ columns.plain ++ ", ny=" ++ rows.plain)
  | gridSize width height =>
    some ("Domain size must be positive, got Lx=" ++ width.plain ++ ", Ly=" ++ height.plain)
  | unknownReference name => some name.render
  | notANumber setting text =>
    some ("Environment variable " ++ setting ++ "=" ++ Text.quoted text ++ " is not a number.")

end Fault
end NonconformingQuad
