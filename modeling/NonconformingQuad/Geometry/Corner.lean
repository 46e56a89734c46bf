/-! Corners of a quadrilateral, in the order in which its vertices are listed. -/
namespace NonconformingQuad

inductive Corner where
  | bottomLeft | bottomRight | topLeft | topRight
deriving DecidableEq, Repr

namespace Corner

def all : List Corner := [bottomLeft, bottomRight, topLeft, topRight]

def number : Corner → Nat
  | bottomLeft => 0
  | bottomRight => 1
  | topLeft => 2
  | topRight => 3

/-- The corner of a number; numbers from four on have none. -/
def ofIndex? (n : Nat) : Option Corner := all[n]?

/-- The corner of a number; numbers from three on stand for the last one. -/
def ofIndex : Nat → Corner
  | 0 => bottomLeft
  | 1 => bottomRight
  | 2 => topLeft
  | _ => topRight

theorem mem_all (c : Corner) : c ∈ all := by cases c <;> simp [all]

@[simp] theorem ofIndex_number (c : Corner) : ofIndex c.number = c := by cases c <;> rfl

theorem number_lt (c : Corner) : c.number < 4 := by cases c <;> decide

end Corner
end NonconformingQuad
