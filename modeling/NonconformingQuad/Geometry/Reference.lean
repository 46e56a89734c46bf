import NonconformingQuad.Fault

/-! The reference square as an element: one bilinear function for each of its corners,
all of them made from the table of corners. -/
namespace NonconformingQuad.Reference

open Scalar

variable {K : Type} [Scalar K]

def corner : Corner → Int × Int
  | .bottomLeft => (-1, -1)
  | .bottomRight => (1, -1)
  | .topLeft => (-1, 1)
  | .topRight => (1, 1)

def name : String := "quad"

/-- Refuses every other name. -/
def checkName (v : Literal) : Except (Fault K) Unit :=
  match v with
  | .text s => if s = name then .ok () else .error (.unknownReference v)
  | _ => .error (.unknownReference v)

/-- `1` or `-1` as a number, by the sign of a corner's coordinate. -/
def unit (s : Int) : K := if s < 0 then -1 else 1

def shape (p : Point K) (k : Corner) : K :=
  let s := corner k
  quarter * (1 + unit s.1 * p.x) * (1 + unit s.2 * p.y)

def grad (p : Point K) (k : Corner) : Point K :=
  let s := corner k
  ⟨quarter * unit s.1 + unit s.1 * unit s.2 * (p.y / Nat.cast 4),
    quarter * unit s.2 + unit s.1 * unit s.2 * (p.x / Nat.cast 4)⟩

end NonconformingQuad.Reference
