import NonconformingQuad.Fault
import NonconformingQuad.Tensor.Nested

/-! Arrays as they are handed over: nested lists whose entries are numbers, or tell why they
are none. The lists have to be rectangular and not too deep; only then the entries are
looked at, from left to right. -/
namespace NonconformingQuad

abbrev Listing (K : Type) := Nested (Except Misuse K)

namespace Nested

variable {K L : Type}

/-- The largest number of axes of an array. -/
def maxAxes : Nat := 64

def array (v : Listing L) : Except Misuse (Tensor L) :=
  match v.shape? with
  | none => .error .ragged
  | some shape =>
    if maxAxes < shape.length then .error .tooManyAxes
    else do
      let numbers ← v.mapExcept id
      numbers.toTensor?.elim (.error .ragged) .ok

def tensor (v : Listing L) : Except (Fault K) (Tensor L) := v.array.mapError .misuse

/-- The array of a list whose items are made arrays one by one before they are stacked. -/
def stacked (items : List (Listing L)) : Except Misuse (Tensor L) := do
  let _ ← items.mapM array
  array (.list items)

end Nested
end NonconformingQuad
