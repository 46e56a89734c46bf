import NonconformingQuad.Mesh.Basic
import NonconformingQuad.Proofs.Mesh.Owners
import NonconformingQuad.Proofs.Outcome

/-! Looking up cells, their vertices and their neighbours. -/
namespace NonconformingQuad
variable {K α : Type}

/-- Every index in range leads to one place; a negative one counts from the end. -/
theorem Index.exists_resolve? {length : Nat} {i : Int} (low : -(length : Int) ≤ i)
    (high : i < length) : ∃ n < length, resolve? length i = some n := by
  by_cases negative : i < 0
  · refine ⟨(i + length).toNat, by omega, ?_⟩
    simp only [resolve?, if_pos negative]
    exact if_pos ⟨by omega, by omega⟩
  · refine ⟨i.toNat, by omega, ?_⟩
    simp only [resolve?, if_neg negative]
    exact if_pos ⟨by omega, by omega⟩

namespace Mesh

theorem entry_eq_ok_iff {xs : List α} {i : Int} {x : α} :
    entry (K := K) xs i = .ok x ↔ (Index.resolve? xs.length i).bind (xs[·]?) = some x := by
  rw [entry]
  split
  · next found => simp [found]
  · next missing => simp [missing]

theorem mem_of_entry {xs : List α} {i : Int} {x : α} (found : entry (K := K) xs i = .ok x) :
    x ∈ xs := by
  obtain ⟨n, _, place⟩ := Option.bind_eq_some_iff.mp (entry_eq_ok_iff.mp found)
  exact List.mem_of_getElem? place

theorem entry_natCast {xs : List α} {n : Nat} {x : α} (found : xs[n]? = some x) :
    entry (K := K) xs n = .ok x := by
  obtain ⟨bound, _⟩ := List.getElem?_eq_some_iff.mp found
  rw [entry_eq_ok_iff, Index.resolve?_natCast bound]
  exact found

theorem getElem?_of_entry {xs : List α} {n : Nat} {x : α} (found : entry (K := K) xs n = .ok x) :
    xs[n]? = some x := by
  rw [entry_eq_ok_iff] at found
  by_cases bound : n < xs.length
  · rwa [Index.resolve?_natCast bound] at found
  · have missing : Index.resolve? xs.length n = none := by
      simp only [Index.resolve?, ite_eq_right_iff, reduceCtorEq, imp_false]
      omega
    rw [missing] at found
    contradiction

theorem exists_entry {xs : List α} {i : Int} (low : -(xs.length : Int) ≤ i)
    (high : i < xs.length) : ∃ x, entry (K := K) xs i = .ok x := by
  obtain ⟨n, bound, place⟩ := Index.exists_resolve? low high
  refine ⟨xs[n], entry_eq_ok_iff.mpr ?_⟩
  rw [place]
  exact List.getElem?_eq_getElem bound

variable {m : Mesh K} {nodes : CellNodes} {V : Quad K}

theorem verticesOf_eq_ok_iff :
    m.verticesOf nodes = .ok V ↔ ∀ k, entry (K := K) m.nodes (nodes k) = .ok (V k) := by
  simp only [verticesOf, Outcome.bind_eq_ok_iff, Outcome.pure_eq_ok_iff]
  constructor
  · rintro ⟨bottomLeft, first, bottomRight, second, topLeft, third, topRight, fourth, rfl⟩ k
    cases k <;> assumption
  · intro found
    refine ⟨_, found _, _, found _, _, found _, _, found _, funext fun k => ?_⟩
    cases k <;> rfl

theorem cell_eq_ok_iff {number : Int} {c : Cell K} :
    m.cell number = .ok c ↔
      ∃ nodes V, entry (K := K) m.cells number = .ok nodes ∧ m.verticesOf nodes = .ok V ∧
        ⟨number, V, Corner.all.map nodes⟩ = c := by
  simp only [cell, Outcome.bind_eq_ok_iff, Outcome.pure_eq_ok_iff, exists_and_left]

theorem exists_verticesOf
    (inRange : ∀ k, -(m.nodes.length : Int) ≤ nodes k ∧ nodes k < m.nodes.length) :
    ∃ V, m.verticesOf nodes = .ok V := by
  have found (k : Corner) := exists_entry (K := K) (inRange k).1 (inRange k).2
  exact ⟨fun k => (found k).choose, verticesOf_eq_ok_iff.mpr fun k => (found k).choose_spec⟩

/-- The owners of the face are looked through in their order. -/
theorem neighbor_eq {number : Int} (row : entry (K := K) m.cells number = .ok nodes) (f : Face) :
    m.neighbor number f.number =
      .ok ((m.faces.owners (nodes.key f)).find? fun o => (o.cell : Int) != number) := by
  have numbered : Face.ofIndex? f.number = some f := by cases f <;> rfl
  simp only [neighbor, Outcome.bind_eq_ok_iff, numbered, Outcome.pure_eq_ok_iff]
  exact ⟨nodes, row, rfl⟩

theorem neighbor_natCast {c : Nat} (row : m.cells[c]? = some nodes) (f : Face) :
    m.neighbor c f.number = .ok ((m.faces.owners (nodes.key f)).find? fun o => o.cell != c) := by
  have whole : (fun o : Owner => (o.cell : Int) != c) = fun o => o.cell != c := by
    funext o
    rw [Bool.eq_iff_iff, bne_iff_ne, bne_iff_ne, Ne, Ne, Int.natCast_inj]
  rw [neighbor_eq (entry_natCast row), whole]

/-- The only owner that another cell has is found, wherever it stands in the list. -/
theorem neighbor_of_only {c : Nat} {f : Face} {o : Owner} (row : m.cells[c]? = some nodes)
    (owner : o ∈ m.faces.owners (nodes.key f)) (apart : o.cell ≠ c)
    (only : ∀ x ∈ m.faces.owners (nodes.key f), x.cell ≠ c → x = o) :
    m.neighbor c f.number = .ok (some o) := by
  obtain ⟨x, first⟩ :
      ∃ x, (m.faces.owners (nodes.key f)).find? (fun o => o.cell != c) = some x := by
    rw [← Option.isSome_iff_exists, List.find?_isSome]
    exact ⟨o, owner, bne_iff_ne.mpr apart⟩
  have other : x.cell ≠ c := by simpa using List.find?_some first
  have same : x = o := only x (List.mem_of_find?_eq_some first) other
  rw [neighbor_natCast row, first, same]

/-- A neighbour has a face with the same ends. -/
theorem key_of_neighbor {number : Int} {f : Face} {o : Owner}
    (found : m.neighbor number f.number = .ok (some o)) :
    ∃ nodes other, entry (K := K) m.cells number = .ok nodes ∧ m.cells[o.cell]? = some other ∧
      other.key o.face = nodes.key f ∧ (o.cell : Int) ≠ number := by
  obtain ⟨nodes, row, -⟩ := Outcome.bind_eq_ok_iff.mp found
  rw [neighbor_eq row f] at found
  have first := Except.ok.inj found
  obtain ⟨other, cell, ends⟩ := FaceTable.mem_owners_ofCells.mp
    (m.faces_eq ▸ List.mem_of_find?_eq_some first)
  exact ⟨nodes, other, row, cell, ends, by simpa using List.find?_some first⟩

end Mesh
end NonconformingQuad
