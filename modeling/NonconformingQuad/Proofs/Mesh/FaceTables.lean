import Mathlib.Data.List.Nodup
import Mathlib.Data.List.Perm.Basic
import NonconformingQuad.Proofs.Mesh.Owners

/-! The table of faces of a mesh, face by face. No two entries are about the same face, and no cell
owns a face twice under one local number; so a face is in the table exactly when some cell has it,
and on the boundary exactly when one cell has it once. -/
namespace NonconformingQuad.FaceTable
variable {t : FaceTable} {cells : List CellNodes} {key other : FaceKey} {o : Owner} {e : FaceEntry}

def keys (t : FaceTable) : List FaceKey := t.map (·.key)

/-- A known face keeps its place, a new one comes last. -/
theorem keys_add (key : FaceKey) (o : Owner) (t : FaceTable) :
    keys (add key o t) = if key ∈ t.keys then t.keys else t.keys ++ [key] := by
  induction t with
  | nil => rfl
  | cons e rest ih =>
    by_cases here : e.key = key
    · simp [add, keys, here]
    · have apart : key ≠ e.key := fun same => here same.symm
      simp only [keys] at ih
      by_cases later : key ∈ rest.map (·.key)
      · simp [add, keys, here, ih, later]
      · simp [add, keys, here, apart, ih, later]

theorem nodup_keys_foldl (is : List (FaceKey × Owner)) (distinct : t.keys.Nodup) :
    keys (is.foldl (fun t (key, owner) => add key owner t) t) |>.Nodup := by
  induction is generalizing t with
  | nil => exact distinct
  | cons i rest ih =>
    apply ih
    rw [keys_add]
    split
    · exact distinct
    · next fresh =>
      rw [← List.concat_eq_append]
      exact distinct.concat fresh

theorem mem_keys_foldl (is : List (FaceKey × Owner)) (t : FaceTable) :
    key ∈ keys (is.foldl (fun t (key, owner) => add key owner t) t) ↔
      key ∈ t.keys ∨ key ∈ is.map (·.1) := by
  induction is generalizing t with
  | nil => simp
  | cons i rest ih =>
    rw [List.foldl_cons, ih, keys_add, List.map_cons, List.mem_cons, ← or_assoc]
    refine or_congr_left ?_
    split
    · next known =>
      refine ⟨.inl, fun either => either.elim id fun same => ?_⟩
      rwa [same]
    · rw [List.mem_append, List.mem_singleton]

theorem nodup_keys_ofCells (cells : List CellNodes) : (ofCells cells).keys.Nodup :=
  nodup_keys_foldl _ List.nodup_nil

theorem mem_keys_ofCells :
    key ∈ (ofCells cells).keys ↔ ∃ o, o ∈ (ofCells cells).owners key := by
  have blank : key ∉ keys [] := List.not_mem_nil
  rw [ofCells, mem_keys_foldl, or_iff_right blank, ← ofCells]
  simp only [List.mem_map, Prod.exists, owners_ofCells, List.mem_filter, decide_eq_true_eq]
  constructor
  · rintro ⟨_, o, member, rfl⟩
    exact ⟨o, _, o, ⟨member, rfl⟩, rfl⟩
  · rintro ⟨o, _, _, ⟨member, rfl⟩, rfl⟩
    exact ⟨_, _, member, rfl⟩

theorem owners_of_mem (distinct : t.keys.Nodup) (member : e ∈ t) : t.owners e.key = e.owners := by
  induction t with
  | nil => cases member
  | cons first rest ih =>
    obtain ⟨fresh, others⟩ := List.nodup_cons.mp distinct
    rcases List.mem_cons.mp member with rfl | later
    · simp [owners]
    · have apart : first.key ≠ e.key := fun same =>
        fresh (List.mem_map.mpr ⟨e, later, same.symm⟩)
      rw [← ih others later]
      simp [owners, apart]

theorem nodup_map_snd_incidences (cells : List CellNodes) :
    ((incidences cells).map (·.2)).Nodup := by
  have numbers : cells.zipIdx.Pairwise fun i j => i.2 ≠ j.2 := by
    rw [← List.pairwise_map, List.zipIdx_map_snd]
    exact List.nodup_range'
  simp only [incidences, List.map_flatMap, List.map_map]
  rw [List.nodup_flatMap]
  refine ⟨fun i _ => ?_, numbers.imp fun apart => List.disjoint_left.mpr ?_⟩
  · exact List.Nodup.map (fun f g same => (Owner.mk.inj same).2) (by decide)
  · intro o first second
    obtain ⟨f, -, rfl⟩ := List.mem_map.mp first
    obtain ⟨g, -, same⟩ := List.mem_map.mp second
    exact apart (Owner.mk.inj same).1.symm

theorem nodup_owners_ofCells (cells : List CellNodes) (key : FaceKey) :
    ((ofCells cells).owners key).Nodup := by
  rw [owners_ofCells]
  exact (List.filter_sublist.map _).nodup (nodup_map_snd_incidences cells)

/-- The owners of a face stand in the order of their cells. -/
theorem pairwise_owners_ofCells (cells : List CellNodes) (key : FaceKey) :
    ((ofCells cells).owners key).Pairwise fun o x => o.cell ≤ x.cell := by
  have numbers : cells.zipIdx.Pairwise fun i j => i.2 < j.2 := by
    rw [← List.pairwise_map, List.zipIdx_map_snd]
    exact List.pairwise_lt_range'
  have listed : (incidences cells).Pairwise fun i j => i.2.cell ≤ j.2.cell := by
    rw [incidences, List.pairwise_flatMap]
    refine ⟨fun i _ => ?_, numbers.imp fun below x first y second => ?_⟩
    · simp [Face.all]
    · obtain ⟨f, -, rfl⟩ := List.mem_map.mp first
      obtain ⟨g, -, rfl⟩ := List.mem_map.mp second
      exact Nat.le_of_lt below
  rw [owners_ofCells, List.pairwise_map]
  exact listed.filter _

/-- The one owner of a face is the only one that has it. -/
theorem owners_eq_singleton_iff :
    (ofCells cells).owners key = [o] ↔ ∀ x, x ∈ (ofCells cells).owners key ↔ x = o := by
  constructor
  · intro alone x
    rw [alone, List.mem_singleton]
  · intro alone
    rw [← List.perm_singleton, List.perm_ext_iff_of_nodup (nodup_owners_ofCells cells key)
      (List.nodup_singleton o)]
    simpa using alone

theorem mem_boundary : o ∈ t.boundary ↔ ∃ e ∈ t, e.owners = [o] := by
  rw [boundary, List.mem_filterMap]
  refine exists_congr fun e => and_congr_right fun _ => ?_
  split
  · next alone => simp [alone]
  · next other => exact ⟨nofun, fun alone => absurd alone (other o)⟩

theorem mem_boundary_ofCells :
    o ∈ (ofCells cells).boundary ↔ ∃ key, (ofCells cells).owners key = [o] := by
  rw [mem_boundary]
  constructor
  · rintro ⟨e, member, alone⟩
    exact ⟨e.key, (owners_of_mem (nodup_keys_ofCells cells) member).trans alone⟩
  · rintro ⟨key, alone⟩
    have known : key ∈ (ofCells cells).keys := mem_keys_ofCells.mpr ⟨o, by simp [alone]⟩
    obtain ⟨e, member, rfl⟩ := List.mem_map.mp known
    exact ⟨e, member, (owners_of_mem (nodup_keys_ofCells cells) member).symm.trans alone⟩

theorem key_of_mem_owners (member : e ∈ ofCells cells) (owned : o ∈ e.owners) :
    ∃ nodes, cells[o.cell]? = some nodes ∧ nodes.key o.face = e.key := by
  rw [← owners_of_mem (nodup_keys_ofCells cells) member] at owned
  exact mem_owners_ofCells.mp owned

/-- A cell has one face for each local number, so no owner stands on the boundary twice. -/
theorem nodup_boundary_ofCells (cells : List CellNodes) : (ofCells cells).boundary.Nodup := by
  have apart : (ofCells cells).Pairwise fun d e => d.key ≠ e.key :=
    List.pairwise_map.mp (nodup_keys_ofCells cells)
  have sole {e : FaceEntry} {o : Owner} (member : o ∈ boundary [e]) : e.owners = [o] := by
    obtain ⟨_, same, alone⟩ := mem_boundary.mp member
    rwa [List.mem_singleton.mp same] at alone
  rw [boundary, List.Nodup, List.pairwise_filterMap]
  refine apart.imp_of_mem fun {d e} first second differ o alone o' alone' same => differ ?_
  subst same
  have left : o ∈ d.owners := by
    rw [sole (List.mem_filterMap.mpr ⟨d, List.mem_singleton_self d, alone⟩)]
    exact List.mem_singleton_self o
  have right : o ∈ e.owners := by
    rw [sole (List.mem_filterMap.mpr ⟨e, List.mem_singleton_self e, alone'⟩)]
    exact List.mem_singleton_self o
  obtain ⟨nodes, found, key⟩ := key_of_mem_owners first left
  obtain ⟨nodes', found', key'⟩ := key_of_mem_owners second right
  obtain rfl : nodes = nodes' := Option.some.inj (found.symm.trans found')
  exact key.symm.trans key'

end NonconformingQuad.FaceTable
