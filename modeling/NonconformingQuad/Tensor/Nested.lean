import NonconformingQuad.Tensor.Basic

/-! Nested lists of numbers, as arrays are written down. They are an array exactly when all
lists at one depth have the same shape. -/
namespace NonconformingQuad

inductive Nested (K : Type) where
  | number (x : K)
  | list (items : List (Nested K))

namespace Nested

variable {K : Type}

/-- The common shape of a list of shapes; an empty list counts as having no axes. -/
def uniform? : List (List Nat) → Option (List Nat)
  | [] => some []
  | s :: rest => if rest.all (· == s) then some s else none

mutual
def shape? : Nested K → Option (List Nat)
  | number _ => some []
  | list items => do
    let shapes ← shapes? items
    let shape ← uniform? shapes
    return shapes.length :: shape
def shapes? : List (Nested K) → Option (List (List Nat))
  | [] => some []
  | item :: rest => do return (← shape? item) :: (← shapes? rest)
end

mutual
def flatten : Nested K → List K
  | number x => [x]
  | list items => flattenAll items
def flattenAll : List (Nested K) → List K
  | [] => []
  | item :: rest => flatten item ++ flattenAll rest
end

mutual
/-- Every entry replaced by its image; the first entry without one decides. -/
def mapExcept {L ε : Type} (f : K → Except ε L) : Nested K → Except ε (Nested L)
  | number x => number <$> f x
  | list items => list <$> mapExceptAll f items
def mapExceptAll {L ε : Type} (f : K → Except ε L) : List (Nested K) → Except ε (List (Nested L))
  | [] => .ok []
  | item :: rest => do return (← mapExcept f item) :: (← mapExceptAll f rest)
end

def toTensor? (v : Nested K) : Option (Tensor K) := do
  let shape ← v.shape?
  let entries := v.flatten.toArray
  if h : entries.size = Index.volume shape then
    return { shape := shape, entries := entries, size_entries := h }
  else none

end Nested
end NonconformingQuad
