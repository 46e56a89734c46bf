import NonconformingQuad.Run
import NonconformingQuad.Tensor.Listing
import NonconformingQuad.Tensor.Points

/-! Points as they are handed over: nested lists with an even number of coordinates, or one
list that starts with the coordinates of a single point. -/
namespace NonconformingQuad

variable {K : Type}

/-- The points whose coordinates stand in an array, whatever its axes. -/
def Tensor.pointRows (t : Tensor K) : Except (Fault K) (List (Point K)) :=
  match t.pairs? with
  | some rows => .ok rows.toPoints
  | none => .error (.misuse .shapesDiffer)

namespace Nested

def points (v : Listing K) : Except (Fault K) (List (Point K)) := do
  (← v.tensor).pointRows

def coordinate (items : List (Listing K)) (i : Nat) : Except Misuse K :=
  match items[i]? with
  | some (.number x) => x
  | some (.list _) => .error .notASingleNumber
  | none => .error .outOfRange

/-- The point whose coordinates come first in a list; what follows them is ignored. -/
def point (v : Listing K) : Except (Fault K) (Point K) :=
  match v with
  | .number _ => .error (.misuse .notAList)
  | .list items => Except.mapError .misuse do
    let x ← coordinate items 0
    let y ← coordinate items 1
    return ⟨x, y⟩

def pair (v : Listing K) : Except (Fault K) (Point K) :=
  match v with
  | .list [_, _] => v.point
  | .list _ => .error (.misuse .notAPair)
  | .number _ => .error (.misuse .notAList)

end Nested
end NonconformingQuad
