import NonconformingQuad.Proofs.Mesh.Neighbors

/-! Neighbours and boundary faces, under every number by which a cell and a face can be called. A
number that counts from the end is the number of no owner, so under it the first owner of the face
is given, be it the cell itself. A face is listed on the boundary when it has a single owner, but it
has no neighbour as soon as all its owners are one cell: a cell glued to itself is found by neither
side. -/
namespace NonconformingQuad.Mesh
variable {K : Type} {m : Mesh K} {number faceNumber : Int} {nodes : CellNodes} {o x : Owner}

/-- The two faces are there and have the same two nodes. -/
def Meets (m : Mesh K) (o x : Owner) : Prop :=
  ∃ others nodes, m.cells[o.cell]? = some others ∧ m.cells[x.cell]? = some nodes ∧
    others.ends o.face = nodes.ends x.face

/-- Under these numbers the mesh gives a neighbour that is another cell, the same as under the
plain numbers of the face, and gives none exactly if the face is listed on the boundary. -/
def IsConsistentAt (m : Mesh K) (number faceNumber : Int) (x : Owner) : Prop :=
  ∃ r, m.neighbor number faceNumber = .ok r ∧ (∀ o, r = some o → o.cell ≠ x.cell) ∧
    m.neighbor x.cell x.face.number = .ok r ∧ (r = none ↔ x ∈ m.boundaryFaces)

section Owners
variable (row : m.cells[x.cell]? = some nodes)
include row

theorem mem_owners_iff_meets : o ∈ m.faces.owners (nodes.key x.face) ↔ m.Meets o x := by
  rw [mem_owners, Meets]
  constructor
  · rintro ⟨others, found, same⟩
    exact ⟨others, nodes, found, row, CellNodes.key_eq_key_iff.mp same⟩
  · rintro ⟨others, nodes', found, row', ends⟩
    obtain rfl : nodes = nodes' := Option.some.inj (row.symm.trans row')
    exact ⟨others, found, CellNodes.key_eq_key_iff.mpr ends⟩

theorem meets_self : m.Meets x x := ⟨nodes, nodes, row, row, rfl⟩

theorem mem_boundaryFaces_iff : x ∈ m.boundaryFaces ↔ ∀ o, m.Meets o x → o = x := by
  have single : m.faces.owners (nodes.key x.face) = [x] ↔ ∀ o, m.Meets o x → o = x := by
    rw [m.faces_eq, FaceTable.owners_eq_singleton_iff, ← m.faces_eq]
    simp only [mem_owners_iff_meets row]
    constructor
    · intro alone o
      exact (alone o).mp
    · intro alone o
      refine ⟨alone o, ?_⟩
      rintro rfl
      exact meets_self row
  rw [← single, boundaryFaces, m.faces_eq, FaceTable.mem_boundary_ofCells]
  constructor
  · rintro ⟨key, alone⟩
    have owner : x ∈ (FaceTable.ofCells m.cells).owners key := by
      rw [alone]
      exact List.mem_singleton_self x
    obtain ⟨nodes', row', same⟩ := FaceTable.mem_owners_ofCells.mp owner
    obtain rfl : nodes = nodes' := Option.some.inj (row.symm.trans row')
    rwa [same]
  · intro alone
    exact ⟨_, alone⟩

end Owners

theorem exists_ofIndex? (low : -4 ≤ faceNumber) (high : faceNumber < 4) :
    ∃ f, Face.ofIndex? faceNumber = some f := by
  obtain rfl | rfl | rfl | rfl | rfl | rfl | rfl | rfl : faceNumber = -4 ∨ faceNumber = -3 ∨
      faceNumber = -2 ∨ faceNumber = -1 ∨ faceNumber = 0 ∨ faceNumber = 1 ∨ faceNumber = 2 ∨
      faceNumber = 3 := by omega
  all_goals exact ⟨_, rfl⟩

theorem neighbor_of_ofIndex? {f : Face} (face : Face.ofIndex? faceNumber = some f) :
    m.neighbor number faceNumber = m.neighbor number f.number := by
  have plain : Face.ofIndex? f.number = some f := by cases f <;> rfl
  rw [neighbor, neighbor, face, plain]

/-- Under its plain numbers a face is told of consistently, unless it meets its own cell again and
no other. -/
theorem isConsistentAt_natCast_iff (row : m.cells[x.cell]? = some nodes) :
    m.IsConsistentAt x.cell x.face.number x ↔
      (∃ o, m.Meets o x ∧ o.cell ≠ x.cell) ∨ ∀ o, m.Meets o x → o = x := by
  have search := neighbor_natCast row x.face
  constructor
  · rintro ⟨r, found, _, _, boundary⟩
    cases r with
    | none => exact .inr ((mem_boundaryFaces_iff row).mp (boundary.mp rfl))
    | some o =>
      have first := Except.ok.inj (search.symm.trans found)
      have meets := (mem_owners_iff_meets row).mp (List.mem_of_find?_eq_some first)
      exact .inl ⟨o, meets, by simpa using List.find?_some first⟩
  · intro shared
    refine ⟨_, search, ?_, search, ?_⟩
    · intro o first
      simpa using List.find?_some first
    · rw [List.find?_eq_none, mem_boundaryFaces_iff row]
      simp only [mem_owners_iff_meets row, bne_iff_ne, Classical.not_not]
      constructor
      · intro alone
        rcases shared with ⟨o, meets, apart⟩ | only
        · exact absurd (alone o meets) apart
        · exact only
      · intro only o meets
        rw [only o meets]

/-- Under a number that counts from the end a face is told of consistently only if it meets an
earlier cell. -/
theorem isConsistentAt_iff_of_neg (negative : number < 0)
    (found : entry (K := K) m.cells number = .ok nodes) (row : m.cells[x.cell]? = some nodes) :
    m.IsConsistentAt number x.face.number x ↔ ∃ o, m.Meets o x ∧ o.cell < x.cell := by
  obtain ⟨o, rest, owners⟩ : ∃ o rest, m.faces.owners (nodes.key x.face) = o :: rest :=
    List.exists_cons_of_ne_nil
      (List.ne_nil_of_mem ((mem_owners_iff_meets row).mpr (meets_self row)))
  have meets : m.Meets o x := by
    rw [← mem_owners_iff_meets row, owners]
    exact List.mem_cons_self
  have least (p : Owner) (other : m.Meets p x) : o.cell ≤ p.cell := by
    have ascending := FaceTable.pairwise_owners_ofCells m.cells (nodes.key x.face)
    rw [← m.faces_eq, owners, List.pairwise_cons] at ascending
    rw [← mem_owners_iff_meets row, owners] at other
    rcases List.mem_cons.mp other with rfl | later
    · exact le_rfl
    · exact ascending.1 p later
  -- no owner has a negative number, so the search ends at the first one
  have answer : m.neighbor number x.face.number = .ok (some o) := by
    rw [neighbor_eq found, owners, List.find?_cons_of_pos]
    simp only [bne_iff_ne]
    omega
  constructor
  · rintro ⟨r, given, apart, _⟩
    have same : some o = r := Except.ok.inj (answer.symm.trans given)
    exact ⟨o, meets, lt_of_le_of_ne (least x (meets_self row)) (apart o same.symm)⟩
  · rintro ⟨p, other, earlier⟩
    have before : o.cell < x.cell := (least p other).trans_lt earlier
    refine ⟨some o, answer, ?_, ?_, ?_⟩
    · intro o' same
      obtain rfl := Option.some.inj same
      exact before.ne
    · rw [neighbor_natCast row, owners, List.find?_cons_of_pos]
      simpa using before.ne
    · rw [mem_boundaryFaces_iff row]
      constructor
      · intro none
        contradiction
      · intro only
        exact absurd (congrArg Owner.cell (only o meets)) before.ne

/-- Whatever numbers a face is asked for by, the mesh tells of it consistently exactly if it meets
an earlier cell, or is asked for by the plain number of its cell and meets a later cell or nothing
at all. -/
theorem isConsistentAt_iff (m : Mesh K) (number faceNumber : Int)
    (low : -(m.cells.length : Int) ≤ number) (high : number < m.cells.length)
    (lowFace : -4 ≤ faceNumber) (highFace : faceNumber < 4) :
    ∃ x : Owner, Index.resolve? m.cells.length number = some x.cell ∧
      Face.ofIndex? faceNumber = some x.face ∧
      (m.IsConsistentAt number faceNumber x ↔
        if number < 0 then ∃ o, m.Meets o x ∧ o.cell < x.cell
        else (∃ o, m.Meets o x ∧ o.cell ≠ x.cell) ∨ ∀ o, m.Meets o x → o = x) := by
  obtain ⟨c, inside, place⟩ := Index.exists_resolve? low high
  obtain ⟨f, face⟩ := exists_ofIndex? lowFace highFace
  refine ⟨⟨c, f⟩, place, face, ?_⟩
  have row : m.cells[c]? = some m.cells[c] := List.getElem?_eq_getElem inside
  have plain : m.IsConsistentAt number faceNumber ⟨c, f⟩ ↔
      m.IsConsistentAt number f.number ⟨c, f⟩ := by
    rw [IsConsistentAt, IsConsistentAt, neighbor_of_ofIndex? face]
  rw [plain]
  split
  · next negative =>
    have found : entry (K := K) m.cells number = .ok m.cells[c] := by
      rw [entry_eq_ok_iff, place]
      exact row
    exact isConsistentAt_iff_of_neg (x := ⟨c, f⟩) negative found row
  · next nonneg =>
    obtain ⟨n, rfl⟩ := Int.eq_ofNat_of_zero_le (Int.not_lt.mp nonneg)
    rw [Index.resolve?_natCast (by omega)] at place
    obtain rfl : n = c := Option.some.inj place
    exact isConsistentAt_natCast_iff (x := ⟨n, f⟩) row

theorem isConsistentAt_iff_looped :
    -(looped.cells.length : Int) ≤ -1 ∧ -1 < (looped.cells.length : Int) ∧ (-4 : Int) ≤ -3 ∧
      (-3 : Int) < 4 ∧ looped.IsConsistentAt (-1) (-3) ⟨1, .right⟩ := by
  refine ⟨by decide, by decide, by decide, by decide, ?_⟩
  obtain ⟨⟨c, f⟩, cell, face, told⟩ :=
    isConsistentAt_iff looped (-1) (-3) (by decide) (by decide) (by decide) (by decide)
  obtain rfl : c = 1 := (Option.some.inj cell).symm
  obtain rfl : f = .right := (Option.some.inj face).symm
  rw [told, if_pos (by decide)]
  exact ⟨⟨0, .left⟩, ⟨_, _, rfl, rfl, by decide⟩, by decide⟩

/-- The bottom of the looped cell is glued to its top. It has no neighbour and is not listed on the
boundary; called by its number from the end, the cell is its own neighbour. -/
theorem looped_is_its_own_neighbor :
    looped.neighbor 0 2 = .ok none ∧ ⟨0, .bottom⟩ ∉ looped.boundaryFaces ∧
      looped.neighbor (-2) 2 = .ok (some ⟨0, .bottom⟩) := by
  refine ⟨rfl, by decide, rfl⟩

end NonconformingQuad.Mesh
