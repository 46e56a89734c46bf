import NonconformingQuad.Flags.Basic
import NonconformingQuad.Literal

/-! Entries of a dependency table as they are handed over: update flags, or values that
only look like them. -/
namespace NonconformingQuad

/-- What stands at a place of a dependency table. -/
inductive Entry where
  | flags (f : UpdateFlags)
  | literal (v : Literal)

namespace Entry

def value : Entry → Literal
  | .flags f => .int f.bits
  | .literal v => v

/-- Two entries are the same key: flags and numbers by value, texts by their characters. -/
def same (a b : Entry) : Bool := a.value.same b.value

/-- The update flags at the place, if it holds any. -/
def flags? : Entry → Option UpdateFlags
  | .flags f => some f
  | .literal _ => none

def render : Entry → String
  | .flags f => f.render
  | .literal v => v.render

end Entry
end NonconformingQuad
