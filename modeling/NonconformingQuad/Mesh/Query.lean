import NonconformingQuad.Mesh.Basic

/-! Questions to a mesh with numbers of any form. Cells are rows of a table: a fraction or a
text is no index, and a truth value or nothing picks all rows or none, which are no single
cell. Faces are looked up by integers only. -/
namespace NonconformingQuad.Mesh

variable {K : Type}

/-- The cell of a number. All rows together have their vertices looked up before they are
found to be no cell. -/
def cellOf (m : Mesh K) (number : Literal) : Except (Fault K) (Cell K) :=
  match number with
  | .int i => m.cell i
  | .float _ | .text _ => .error (.misuse .outOfRange)
  | .none => .error (.misuse .notAnInteger)
  | .bool true => do
    let _ ← m.cellVertices
    throw (.misuse .notAnInteger)
  | .bool false => .error (.cellShape [0, m.cells.length, 4, 2])

/-- The position of a face in the table of the faces; a negative one counts from the end. -/
def faceAt (face : Literal) : Except (Fault K) Face :=
  match face.int? with
  | some n => (Face.ofIndex? n).elim (.error (.misuse .outOfRange)) .ok
  | none => .error (.misuse .notAnInteger)

/-- The neighbour of a cell across a face. Of several rows only the first one could be read,
and it is no number; the first corner of a face decides what is read. -/
def neighborOf (m : Mesh K) (number face : Literal) : Except (Fault K) (Option Owner) :=
  match number with
  | .int i => do
    let _ ← entry m.cells i
    let f ← faceAt face
    m.neighbor i f.number
  | .float _ | .text _ => .error (.misuse .outOfRange)
  | .bool b => do
    let f ← faceAt face
    throw (.misuse (if b && f.first = .bottomLeft then .notAnInteger else .outOfRange))
  | .none => do
    let f ← faceAt face
    throw (.misuse (if f.first = .bottomLeft then .notAnInteger else .outOfRange))

end NonconformingQuad.Mesh
