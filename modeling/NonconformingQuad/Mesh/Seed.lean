import NonconformingQuad.Fault
import NonconformingQuad.Tensor.Nested

/-! Seeds of random displacements: an integer, nested lists of integers, or none. What the
displacements are is not decided by a seed here; a seed is only checked. -/
namespace NonconformingQuad

abbrev Seed := Nested Literal

namespace Seed

def absent : Seed := .number .none

/-- Seeds in a list are integers that are not negative; they may be written as texts. -/
def checkItem : Literal → Except Misuse Unit
  | .text s =>
    if !s.isEmpty && s.toList.all Char.isDigit then .ok () else .error .unreadable
  | v =>
    match v.int? with
    | some n => if n < 0 then .error .negative else .ok ()
    | none => .error .notAnInteger

/-- Refuses what is no seed. -/
def check (seed : Seed) : Except Misuse Unit :=
  match seed with
  | .number .none => .ok ()
  | .number (.text _) => .error .notAnInteger
  | _ => do let _ ← seed.mapExcept checkItem

end Seed
end NonconformingQuad
