import NonconformingQuad.Literal
import NonconformingQuad.Tensor.Points

/-! Drawings as data: the calls that a plotting surface receives, in their order. A drawing can be
looked at, compared and replayed. -/
namespace NonconformingQuad.Plot

inductive Argument (K : Type) where
  | literal (v : Literal)
  | number (x : K)
  | array (t : Tensor K)
  | sequence (items : List (Argument K))
  | object (label : String)

namespace Argument

variable {K : Type}

def text (s : String) : Argument K := literal (.text s)

def count (n : Nat) : Argument K := literal (.int n)

def row (xs : List K) : Argument K := array (.ofList xs)

end Argument

/-- A call: who receives it, its name, and its arguments. -/
structure Call (K : Type) where
  /-- Label of the receiver; a function that stands on its own has none. -/
  receiver? : Option String
  method : String
  positional : List (Argument K)
  keywords : List (String × Argument K)

namespace Call

def target {K : Type} (c : Call K) : String :=
  match c.receiver? with
  | some r => r ++ "." ++ c.method
  | none => c.method

end Call

/-- Calls in their order, and the axes that they drew on. -/
structure Drawing (K : Type) (α : Type) where
  calls : List (Call K)
  axes : α

def surface : String := "plt"

variable {K : Type}

def newFigure (width height : Nat) : Call K :=
  ⟨some surface, "subplots", [],
    [("figsize", .sequence [.count width, .count height])]⟩

def newRow (n width height : Nat) : Call K :=
  ⟨some surface, "subplots", [.count 1, .count n],
    [("figsize", .sequence [.count width, .count height]), ("squeeze", .literal (.bool false))]⟩

def curve (axes : String) (ps : List (Point K)) (format : String)
    (keywords : List (String × Argument K)) : Call K :=
  ⟨some axes, "plot", [.row (ps.map (·.x)), .row (ps.map (·.y)), .text format], keywords⟩

def mark (axes : String) (p : Point K) (format : String)
    (keywords : List (String × Argument K)) : Call K :=
  ⟨some axes, "plot", [.number p.x, .number p.y, .text format], keywords⟩

def equalAspect (axes : String) : Call K :=
  ⟨some axes, "set_aspect", [.text "equal"], [("adjustable", .text "box")]⟩

def openWindow : Call K := ⟨some surface, "show", [], []⟩

/-- The call that opens the window, if it is wanted. -/
def showing (shown : Bool) : List (Call K) := if shown then [openWindow] else []

end NonconformingQuad.Plot
