import NonconformingQuad.Tensor.Basic

/-! Arrays of different shapes combined entry by entry. The shapes are aligned at their
last axis; an axis of length one, or a missing one, repeats its only entry. -/
namespace NonconformingQuad.Tensor

open Index

variable {K : Type}

def commonLength? (a b : Nat) : Option Nat :=
  if a = b ∨ b = 1 then some a else if a = 1 then some b else none

/-- Common shape of two lists of lengths, last axis first. -/
def commonReversed? : List Nat → List Nat → Option (List Nat)
  | [], ds => some ds
  | ds, [] => some ds
  | a :: as, b :: bs => do return (← commonLength? a b) :: (← commonReversed? as bs)

/-- The shape to which both shapes extend. -/
def commonShape? (a b : List Nat) : Option (List Nat) :=
  (commonReversed? a.reverse b.reverse).map List.reverse

/-- Index list in an array of shape `shape` for an index list in a larger array. -/
def project (shape is : List Nat) : List Nat :=
  List.zipWith (fun d i => if d = 1 then 0 else i) shape (is.drop (is.length - shape.length))

/-- The array with its entries repeated to fill a shape, if it extends to that shape. -/
def extend? [Zero K] (shape : List Nat) (t : Tensor K) : Option (Tensor K) :=
  if commonShape? shape t.shape = some shape then
    some (tabulate shape fun is => t.value (project t.shape is))
  else none

/-- Two arrays combined entry by entry in their common shape, if there is one. -/
def zipWith? [Zero K] (f : K → K → K) (a b : Tensor K) : Option (Tensor K) :=
  (commonShape? a.shape b.shape).map fun shape =>
    tabulate shape fun is => f (a.value (project a.shape is)) (b.value (project b.shape is))

end NonconformingQuad.Tensor
