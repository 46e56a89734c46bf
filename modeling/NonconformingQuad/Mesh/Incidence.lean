import NonconformingQuad.Geometry.Face

/-! Which cells share a face. Two cells share a face when the same two nodes end it, in
whatever order and under whatever local number. The table keeps the order in which the
faces first appear, and for each face the order of its owners. -/
namespace NonconformingQuad

abbrev CellNodes := Corner → Int

/-- A face of a mesh: its two nodes, the lower number first. -/
structure FaceKey where
  low : Int
  high : Int
deriving DecidableEq, Repr

def FaceKey.between (i j : Int) : FaceKey := if i ≤ j then ⟨i, j⟩ else ⟨j, i⟩

def CellNodes.key (nodes : CellNodes) (f : Face) : FaceKey :=
  .between (nodes f.first) (nodes f.second)

structure Owner where
  cell : Nat
  face : Face
deriving DecidableEq, Repr

/-- A face of the mesh with the cells that have it. -/
structure FaceEntry where
  key : FaceKey
  owners : List Owner
deriving DecidableEq, Repr

/-- The faces of a mesh in the order in which they first appear. -/
abbrev FaceTable := List FaceEntry

namespace FaceTable

/-- A further owner of a face; a face that is new comes last. -/
def add (key : FaceKey) (owner : Owner) : FaceTable → FaceTable
  | [] => [⟨key, [owner]⟩]
  | e :: rest =>
    if e.key = key then ⟨key, e.owners ++ [owner]⟩ :: rest else e :: add key owner rest

def incidences (cells : List CellNodes) : List (FaceKey × Owner) :=
  (cells.zipIdx).flatMap fun (nodes, c) => Face.all.map fun f => (nodes.key f, ⟨c, f⟩)

def ofCells (cells : List CellNodes) : FaceTable :=
  (incidences cells).foldl (fun t (key, owner) => add key owner t) []

def owners (t : FaceTable) (key : FaceKey) : List Owner :=
  ((t.find? fun e => e.key = key).map (·.owners)).getD []

theorem owners_add (key other : FaceKey) (owner : Owner) (t : FaceTable) :
    (add key owner t).owners other =
      if key = other then t.owners other ++ [owner] else t.owners other := by
  induction t with
  | nil => by_cases h : key = other <;> simp [add, owners, h]
  | cons e rest ih =>
    by_cases same : e.key = key
    · by_cases h : key = other <;> simp_all [add, owners]
    · by_cases here : e.key = other
      · have apart : key ≠ other := fun h => same (here.trans h.symm)
        have turned : other ≠ key := fun h => apart h.symm
        simp [add, owners, here, apart, turned]
      · simpa [add, owners, same, here] using ih

/-- The only owners of faces with one owner, in the order of the faces. -/
def boundary (t : FaceTable) : List Owner :=
  t.filterMap fun e =>
    match e.owners with
    | [o] => some o
    | _ => none

end FaceTable
end NonconformingQuad
