import Mathlib.Analysis.SpecialFunctions.Log.Basic
import Mathlib.Data.List.Perm.Subperm
import Mathlib.Data.Sym.Sym2
import NonconformingQuad.Mesh.Input
import NonconformingQuad.Proofs.Mesh.FaceTables
import NonconformingQuad.Proofs.Mesh.Lookup

/-! Faces and neighbours of arbitrary meshes. Edges may be collapsed, a cell may be glued to itself,
and any number of cells may meet in an edge. The table still lists each local face of each cell
once, under the nodes of the face; so the neighbours read off it are cells with the same two nodes,
and they are neighbours of each other as long as no third face has these nodes. -/
namespace NonconformingQuad

theorem FaceKey.between_eq_sorted (i j : Int) : between i j = ⟨min i j, max i j⟩ := by
  by_cases le : i ≤ j
  · rw [between, if_pos le, min_eq_left le, max_eq_right le]
  · have ge : j ≤ i := by omega
    rw [between, if_neg le, min_eq_right ge, max_eq_left ge]

namespace CellNodes
variable {nodes others : CellNodes} {f g : Face}

/-- The two nodes of a face, in no order. -/
def ends (nodes : CellNodes) (f : Face) : Sym2 Int := s(nodes f.first, nodes f.second)

theorem key_eq_key_iff : others.key g = nodes.key f ↔ others.ends g = nodes.ends f := by
  rw [ends, ends, Sym2.eq_iff]
  exact FaceKey.between_eq_iff

end CellNodes

namespace FaceTable
variable {key : FaceKey} {o x : Owner}

/-- All owners, each with the face it owns. -/
def listed (t : FaceTable) : List (FaceKey × Owner) :=
  t.flatMap fun e => e.owners.map (e.key, ·)

theorem listed_cons (e : FaceEntry) (rest : FaceTable) :
    listed (e :: rest) = e.owners.map (e.key, ·) ++ listed rest :=
  List.flatMap_cons

theorem listed_add (key : FaceKey) (o : Owner) (t : FaceTable) :
    (listed (add key o t)).Perm ((key, o) :: t.listed) := by
  induction t with
  | nil => exact .refl _
  | cons e rest ih =>
    by_cases here : e.key = key
    · subst here
      rw [add, if_pos rfl, listed_cons, listed_cons, List.map_append, List.append_assoc]
      exact List.perm_middle
    · rw [add, if_neg here, listed_cons, listed_cons]
      exact (ih.append_left _).trans List.perm_middle

theorem listed_foldl (is : List (FaceKey × Owner)) (t : FaceTable) :
    (listed (is.foldl (fun t (key, owner) => add key owner t) t)).Perm (is ++ t.listed) := by
  induction is generalizing t with
  | nil => exact .refl _
  | cons i rest ih =>
    calc listed ((i :: rest).foldl (fun t (key, owner) => add key owner t) t)
        |>.Perm (rest ++ listed (add i.1 i.2 t)) := ih _
      _ |>.Perm (rest ++ i :: t.listed) := (listed_add i.1 i.2 t).append_left _
      _ |>.Perm (i :: rest ++ t.listed) := List.perm_middle

/-- Nothing is lost and nothing is added: the table only groups the faces of the cells. -/
theorem listed_ofCells (cells : List CellNodes) :
    (ofCells cells).listed.Perm (incidences cells) := by
  have grouped := listed_foldl (incidences cells) []
  have blank : listed [] = [] := rfl
  rwa [blank, List.append_nil] at grouped

theorem mem_listed {t : FaceTable} :
    (key, o) ∈ t.listed ↔ ∃ e ∈ t, e.key = key ∧ o ∈ e.owners := by
  simp only [listed, List.mem_flatMap, List.mem_map, Prod.mk.injEq]
  constructor
  · rintro ⟨e, member, _, owner, rfl, rfl⟩
    exact ⟨e, member, rfl, owner⟩
  · rintro ⟨e, member, rfl, owner⟩
    exact ⟨e, member, o, owner, rfl, rfl⟩

theorem map_snd_listed (t : FaceTable) : t.listed.map (·.2) = t.flatMap (·.owners) := by
  rw [listed, List.map_flatMap]
  exact List.flatMap_congr fun e _ => (List.map_map ..).trans (List.map_id _)

theorem length_incidences (cells : List CellNodes) :
    (incidences cells).length = 4 * cells.length := by
  simp only [incidences, List.length_flatMap, List.length_map, Face.all, List.length_cons,
    List.length_nil, List.map_const', List.sum_replicate_nat, List.length_zipIdx]
  omega

/-- Two owners of a face are all its owners, when it has no more than two. -/
theorem eq_or_eq_of_mem_owners {cells : List CellNodes} {y : Owner}
    (few : ((ofCells cells).owners key).length ≤ 2) (first : o ∈ (ofCells cells).owners key)
    (second : x ∈ (ofCells cells).owners key) (differ : o ≠ x)
    (member : y ∈ (ofCells cells).owners key) : y = o ∨ y = x := by
  have distinct : [o, x].Nodup := by simpa using differ
  have both : [o, x] ⊆ (ofCells cells).owners key := by
    intro z listed
    rcases List.mem_pair.mp listed with rfl | rfl
    · exact first
    · exact second
  have all := (distinct.subperm both).perm_of_length_le few
  exact List.mem_pair.mp (all.mem_iff.mpr member)

end FaceTable

namespace Mesh
variable {K : Type} {m : Mesh K} {c : Nat} {nodes : CellNodes} {f : Face} {o : Owner}

theorem mem_owners (m : Mesh K) {key : FaceKey} :
    o ∈ m.faces.owners key ↔ ∃ nodes, m.cells[o.cell]? = some nodes ∧ nodes.key o.face = key :=
  m.faces_eq ▸ FaceTable.mem_owners_ofCells

theorem neighbor_eq_none_iff (row : m.cells[c]? = some nodes) :
    m.neighbor c f.number = .ok none ↔
      ∀ (d : Nat) others g,
        m.cells[d]? = some others → others.ends g = nodes.ends f → d = c := by
  rw [neighbor_natCast row, Except.ok.injEq, List.find?_eq_none]
  constructor
  · intro alone d others g found ends
    have owner : ⟨d, g⟩ ∈ m.faces.owners (nodes.key f) :=
      m.mem_owners.mpr ⟨others, found, CellNodes.key_eq_key_iff.mpr ends⟩
    simpa using alone _ owner
  · intro alone o owner
    obtain ⟨others, found, same⟩ := m.mem_owners.mp owner
    simpa using alone o.cell others o.face found (CellNodes.key_eq_key_iff.mp same)

/-- With two owners of a face, each of them finds the other. -/
theorem neighbor_symm_of_owners (row : m.cells[c]? = some nodes)
    (few : (m.faces.owners (nodes.key f)).length ≤ 2)
    (next : m.neighbor c f.number = .ok (some o)) :
    m.neighbor o.cell o.face.number = .ok (some ⟨c, f⟩) := by
  rw [neighbor_natCast row] at next
  have owner := List.mem_of_find?_eq_some (Except.ok.inj next)
  have apart : o.cell ≠ c := by simpa using List.find?_some (Except.ok.inj next)
  have differ : o ≠ ⟨c, f⟩ := fun both => apart (congrArg Owner.cell both)
  have self : ⟨c, f⟩ ∈ m.faces.owners (nodes.key f) := m.mem_owners.mpr ⟨nodes, row, rfl⟩
  obtain ⟨others, found, same⟩ := m.mem_owners.mp owner
  rw [← same] at few owner self
  refine neighbor_of_only found self apart.symm ?_
  intro x member other
  rw [m.faces_eq] at few owner self member
  obtain rfl | back := FaceTable.eq_or_eq_of_mem_owners few owner self differ member
  · exact absurd rfl other
  · exact back

/-- The table of the faces and the neighbours, told by the nodes of the cells. -/
structure IsLinked (m : Mesh K) : Prop where
  faces_distinct : (m.faces.map (·.key)).Nodup
  /-- No local face of a cell is listed twice, be it under one key or under two. -/
  owners_distinct : (m.faces.flatMap (·.owners)).Nodup
  owned : ∀ key c f, (∃ e ∈ m.faces, e.key = key ∧ ⟨c, f⟩ ∈ e.owners) ↔
    ∃ nodes, m.cells[c]? = some nodes ∧
      key = ⟨min (nodes f.first) (nodes f.second), max (nodes f.first) (nodes f.second)⟩
  owner_count : (m.faces.map (·.owners.length)).sum = 4 * m.cells.length
  neighbor_known : ∀ (c : Nat) (f : Face), c < m.cells.length → ∃ r, m.neighbor c f.number = .ok r
  neighbor_some : ∀ (c : Nat) nodes (f : Face) o, m.cells[c]? = some nodes →
    m.neighbor c f.number = .ok (some o) →
    o.cell ≠ c ∧ ∃ others, m.cells[o.cell]? = some others ∧ others.ends o.face = nodes.ends f
  neighbor_none : ∀ (c : Nat) nodes (f : Face), m.cells[c]? = some nodes →
    (m.neighbor c f.number = .ok none ↔ ∀ (d : Nat) others g,
      m.cells[d]? = some others → others.ends g = nodes.ends f → d = c)
  neighbor_symm : (∀ e ∈ m.faces, e.owners.length ≤ 2) → ∀ (c : Nat) (f : Face) o,
    c < m.cells.length → m.neighbor c f.number = .ok (some o) →
    m.neighbor o.cell o.face.number = .ok (some ⟨c, f⟩)

theorem length_owners_le (m : Mesh K) (few : ∀ e ∈ m.faces, e.owners.length ≤ 2) (key : FaceKey) :
    (m.faces.owners key).length ≤ 2 := by
  rw [FaceTable.owners]
  cases found : m.faces.find? fun e => e.key = key with
  | none => exact Nat.zero_le _
  | some e => exact few e (List.mem_of_find?_eq_some found)

theorem isLinked (m : Mesh K) : m.IsLinked where
  faces_distinct := m.faces_eq ▸ FaceTable.nodup_keys_ofCells m.cells
  owners_distinct := by
    rw [m.faces_eq, ← FaceTable.map_snd_listed]
    have grouped := (FaceTable.listed_ofCells m.cells).map (·.2)
    exact grouped.nodup_iff.mpr (FaceTable.nodup_map_snd_incidences m.cells)
  owned key c f := by
    rw [m.faces_eq, ← FaceTable.mem_listed, (FaceTable.listed_ofCells m.cells).mem_iff,
      FaceTable.mem_incidences]
    simp only [CellNodes.key, FaceKey.between_eq_sorted, eq_comm]
  owner_count := by
    have grouped := (FaceTable.listed_ofCells m.cells).length_eq
    rw [FaceTable.length_incidences, FaceTable.listed, List.length_flatMap] at grouped
    simpa only [m.faces_eq, List.length_map] using grouped
  neighbor_known c f inside :=
    ⟨_, neighbor_natCast (List.getElem?_eq_getElem inside) f⟩
  neighbor_some c nodes f o row next := by
    obtain ⟨nodes', others, row', found, same, apart⟩ := key_of_neighbor next
    obtain rfl : nodes = nodes' := Except.ok.inj ((entry_natCast row).symm.trans row')
    exact ⟨fun both => apart (congrArg Nat.cast both), others, found,
      CellNodes.key_eq_key_iff.mp same⟩
  neighbor_none _ _ _ row := neighbor_eq_none_iff row
  neighbor_symm few c f o inside next :=
    neighbor_symm_of_owners (List.getElem?_eq_getElem inside) (m.length_owners_le few _) next

/-- The first cell has a collapsed left edge, and its bottom and its top are one edge. The second
cell is attached at the collapsed edge. -/
def looped : Mesh ℤ := .ofCells [] (cellRows [0, 1, 0, 1, 2, 0, 3, 0])

theorem isLinked_looped :
    (∀ e ∈ looped.faces, e.owners.length ≤ 2) ∧
      looped.neighbor (0 : Nat) Face.left.number = .ok (some ⟨1, .right⟩) ∧
      looped.neighbor (1 : Nat) Face.right.number = .ok (some ⟨0, .left⟩) ∧
      looped.neighbor (0 : Nat) Face.bottom.number = .ok none := by
  have few : ∀ e ∈ looped.faces, e.owners.length ≤ 2 := by decide
  have next : looped.neighbor (0 : Nat) Face.left.number = .ok (some ⟨1, .right⟩) := rfl
  have back := (isLinked looped).neighbor_symm few 0 .left ⟨1, .right⟩ (by decide) next
  exact ⟨few, next, back, rfl⟩

end Mesh
end NonconformingQuad
