import NonconformingQuad.Fault
import NonconformingQuad.Tensor.Basic

/-! How large an array may be. The number of its bytes has to be countable, and there has to
be room for them; an axis without entries does not count. -/
namespace NonconformingQuad.Tensor

def entryBytes : Nat := 8

/-- Lengths and numbers of bytes stay below this bound. -/
def countBound : Nat := 9223372036854775808

/-- Entries for which there is room. -/
def roomBound : Nat := 8589934592

/-- Number of entries with the axes that have none left out. -/
def extent (shape : List Nat) : Nat := Index.volume (shape.filter (0 < ·))

/-- Refuses shapes that are too large. -/
def checkRoom (shape : List Nat) : Except Misuse Unit :=
  if shape.any (countBound ≤ ·) || countBound ≤ entryBytes * extent shape then
    .error .tooManyEntries
  else if roomBound < Index.volume shape then .error .noRoom
  else .ok ()

/-- Refuses shapes with a negative length, and those that are too large. -/
def checkShape (shape : List Int) : Except Misuse Unit :=
  if shape.any (· < 0) then .error .negative else checkRoom (shape.map Int.toNat)

end NonconformingQuad.Tensor
