import NonconformingQuad.Geometry.Face
import NonconformingQuad.Number.Integral

/-! Faces and halves of faces as they are asked for, by a number of any form. A check only asks
whether the number is in range, so a fraction passes; a match asks for the number of a face;
a look-up asks for both a number in range and an integer. -/
namespace NonconformingQuad

/-- The value is a number from zero up to, but not including, `n`. -/
def Literal.isBelow (n : Nat) (v : Literal) : Except Misuse Bool := do
  return (← (Literal.int 0).atMost v) && !(← (Literal.int n).atMost v)

namespace Face

variable {K : Type}

/-- Refuses what is no number in the range of the face numbers. -/
def check (number : Literal) : Except (Fault K) Unit := do
  if ← (number.isBelow all.length).mapError .misuse then return () else throw (.faceNumber number)

def matching (number : Literal) : Except (Fault K) Face :=
  match all.find? fun f => (Literal.int f.number).same number with
  | some f => .ok f
  | none => .error (.faceNumber number)

/-- The face of a number in range, which has to be an integer. -/
def ofNumber (number : Literal) : Except (Fault K) Face := do
  check number
  match number.int?.bind ofInt? with
  | some f => return f
  | none => throw (.misuse .notAnInteger)

/-- The face whose row in a table a number in range picks. A truth value picks all rows or
none, a fraction is no index. -/
def ofRow (number : Literal) : Except (Fault K) Face := do
  check number
  match number with
  | .bool _ => throw (.misuse .shapesDiffer)
  | .int n => (ofInt? n).elim (.error (.faceNumber number)) .ok
  | _ => throw (.misuse .outOfRange)

@[simp] theorem check_number (f : Face) : check (K := K) (.int f.number) = .ok () := by
  cases f <;> rfl

@[simp] theorem matching_number (f : Face) : matching (K := K) (.int f.number) = .ok f := by
  cases f <;> rfl

@[simp] theorem ofNumber_number (f : Face) : ofNumber (K := K) (.int f.number) = .ok f := by
  cases f <;> rfl

@[simp] theorem ofRow_number (f : Face) : ofRow (K := K) (.int f.number) = .ok f := by
  cases f <;> rfl

end Face

namespace Half

variable {K : Type}

/-- Refuses what is no number in the range of the numbers of the halves. -/
def check (number : Literal) : Except (Fault K) Unit := do
  if ← (number.isBelow all.length).mapError .misuse then return () else throw (.halfNumber number)

/-- The half of a number in range: zero is the lower half, every other number the upper one. -/
def ofNumber (number : Literal) : Except (Fault K) Half := do
  check number
  return if (Literal.int 0).same number then lower else upper

@[simp] theorem check_number (h : Half) : check (K := K) (.int h.number) = .ok () := by
  cases h <;> rfl

@[simp] theorem ofNumber_number (h : Half) : ofNumber (K := K) (.int h.number) = .ok h := by
  cases h <;> rfl

end Half
end NonconformingQuad
