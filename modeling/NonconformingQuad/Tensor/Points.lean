import NonconformingQuad.Geometry.Point
import NonconformingQuad.Tensor.Nested

/-! Points of the plane as arrays with rows of two, and stacks of arrays. -/
namespace NonconformingQuad.Tensor

variable {K : Type} [Scalar K]

def ofPoint (p : Point K) : Tensor K := ofList [p.x, p.y]

def ofPoints (ps : List (Point K)) : Tensor K where
  shape := [ps.length, 2]
  entries := (ps.flatMap fun p => [p.x, p.y]).toArray
  size_entries := by
    suffices h : (ps.flatMap fun p => [p.x, p.y]).length = ps.length * 2 by
      simpa only [List.size_toArray, Index.volume, Nat.mul_one] using h
    induction ps with
    | nil => rfl
    | cons p ps ih => simp only [List.flatMap_cons, List.length_append, ih, List.length_cons,
        List.length_nil, Nat.zero_add, Nat.reduceAdd]; omega

def pairUp : List K → List (Point K)
  | x :: y :: rest => ⟨x, y⟩ :: pairUp rest
  | _ => []

def toPoints (t : Tensor K) : List (Point K) := pairUp t.entries.toList

omit [Scalar K] in
@[simp] theorem toPoints_ofPoints (ps : List (Point K)) : (ofPoints ps).toPoints = ps := by
  suffices h : pairUp (ps.flatMap fun p => [p.x, p.y]) = ps by simpa [toPoints, ofPoints] using h
  induction ps with
  | nil => rfl
  | cons p ps ih => simpa [pairUp] using ih

def stack (shape : List Nat) (ts : Array (Tensor K)) : Tensor K :=
  tabulate (ts.size :: shape) fun is =>
    match is with
    | i :: rest => (ts[i]?.map (·.value rest)).getD 0
    | [] => 0

end NonconformingQuad.Tensor
