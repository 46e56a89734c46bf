import NonconformingQuad.Run

/-! Rules on the interval from `-1` to `1`. The rules of the square, of its faces and of
segments in the plane are all made from one family of them, one rule for each order. -/
namespace NonconformingQuad

structure LinePoint (K : Type) where
  node : K
  weight : K

abbrev LineRule (K : Type) := List (LinePoint K)

/-- The rule of each order for which there is one; the order is the number of nodes. -/
abbrev LineFamily (K : Type) := Nat → Except Misuse (LineRule K)

namespace LineRule

variable {K : Type} [Scalar K]

/-- Weighted sum of the values at the nodes, in order. -/
def integrate (r : LineRule K) (f : K → K) : K := Scalar.sum (r.map fun p => p.weight * f p.node)

/-- The rule moved to the half of the interval below or above zero. -/
def onHalf (h : Half) (r : LineRule K) : LineRule K :=
  let shift : K := match h with
    | .lower => -Scalar.half
    | .upper => Scalar.half
  r.map fun p => ⟨Scalar.half * p.node + shift, Scalar.half * p.weight⟩

/-- The order that a value stands for. It has to be an integer, and at least one. -/
def order? (order : Literal) : Except (Fault K) Nat :=
  match order, order.int? with
  | _, some n => if n < 1 then .error (.ruleOrder order) else .ok n.toNat
  | .float x, none => .error (if x < 1.0 then .ruleOrder order else .misuse .notAnInteger)
  | _, none => .error (.misuse .notAnInteger)

/-- The rule of a family whose order a value stands for. -/
def ofOrder? (family : LineFamily K) (order : Literal) : Except (Fault K) (LineRule K) := do
  let n ← order? order
  (family n).mapError .misuse

end LineRule
end NonconformingQuad
