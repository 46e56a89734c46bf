import NonconformingQuad.Geometry.Corner

/-! Faces of a quadrilateral and their halves. A face runs from its corner of lower number
to the other one. -/
namespace NonconformingQuad

inductive Face where
  | left | right | bottom | top
deriving DecidableEq, Repr

namespace Face

def all : List Face := [left, right, bottom, top]

def number : Face → Nat
  | left => 0
  | right => 1
  | bottom => 2
  | top => 3

def first : Face → Corner
  | left => .bottomLeft
  | right => .bottomRight
  | bottom => .bottomLeft
  | top => .topLeft

def second : Face → Corner
  | left => .topLeft
  | right => .topRight
  | bottom => .bottomRight
  | top => .topRight

/-- The face of a number in `0 … 3`. -/
def ofInt? (n : Int) : Option Face := all.find? fun f => n == f.number

/-- The face of a number in `-4 … 3`; a negative number counts from the end. -/
def ofIndex? (n : Int) : Option Face := (ofInt? n).or (ofInt? (n + 4))

theorem mem_all (f : Face) : f ∈ all := by cases f <;> simp [all]

@[simp] theorem ofInt?_number (f : Face) : ofInt? f.number = some f := by cases f <;> rfl

theorem first_lt_second (f : Face) : f.first.number < f.second.number := by
  cases f <;> decide

end Face

/-- Half of a face: what a refined neighbour sees. -/
inductive Half where
  /-- The half at the face's first corner. -/
  | lower
  /-- The half at the face's second corner. -/
  | upper
deriving DecidableEq, Repr

namespace Half

def all : List Half := [lower, upper]

def number : Half → Nat
  | lower => 0
  | upper => 1

end Half
end NonconformingQuad
