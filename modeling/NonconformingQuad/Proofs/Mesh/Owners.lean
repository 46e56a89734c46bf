import NonconformingQuad.Mesh.Incidence

/-! Who owns a face. The table collects the owners of a face in the order of the incidences,
so its owners are the cells with a local face between the same two nodes, and no others. -/
namespace NonconformingQuad

/-- Faces are the same when they have the same two ends. -/
theorem FaceKey.between_eq_iff {i j k l : Int} :
    between i j = between k l ↔ (i = k ∧ j = l) ∨ (i = l ∧ j = k) := by
  simp only [between]
  split <;> split <;> simp only [FaceKey.mk.injEq] <;> omega

namespace FaceTable

theorem owners_foldl (is : List (FaceKey × Owner)) (t : FaceTable) (key : FaceKey) :
    (is.foldl (fun t (key, owner) => add key owner t) t).owners key =
      t.owners key ++ (is.filter fun i => i.1 = key).map (·.2) := by
  induction is generalizing t with
  | nil => simp
  | cons i rest ih =>
    rw [List.foldl_cons, ih, owners_add]
    by_cases same : i.1 = key <;> simp [same]

theorem owners_ofCells (cells : List CellNodes) (key : FaceKey) :
    (ofCells cells).owners key = ((incidences cells).filter fun i => i.1 = key).map (·.2) := by
  rw [ofCells, owners_foldl]
  rfl

theorem mem_incidences {cells : List CellNodes} {key : FaceKey} {o : Owner} :
    (key, o) ∈ incidences cells ↔
      ∃ nodes, cells[o.cell]? = some nodes ∧ nodes.key o.face = key := by
  simp only [incidences, List.mem_flatMap, List.mem_map, Prod.exists, Prod.mk.injEq,
    List.mem_zipIdx_iff_getElem?]
  constructor
  · rintro ⟨nodes, c, found, f, _, rfl, rfl⟩
    exact ⟨nodes, found, rfl⟩
  · rintro ⟨nodes, found, rfl⟩
    exact ⟨nodes, o.cell, found, o.face, o.face.mem_all, rfl, rfl⟩

/-- A cell owns a face under a local number exactly when that face of it has the same ends. -/
theorem mem_owners_ofCells {cells : List CellNodes} {key : FaceKey} {o : Owner} :
    o ∈ (ofCells cells).owners key ↔
      ∃ nodes, cells[o.cell]? = some nodes ∧ nodes.key o.face = key := by
  rw [owners_ofCells, ← mem_incidences]
  simp

end FaceTable
end NonconformingQuad
