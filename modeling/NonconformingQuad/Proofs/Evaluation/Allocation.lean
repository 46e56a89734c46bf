import NonconformingQuad.Proofs.Evaluation.Histories

/-! The buffers of a context. Their shapes are chosen when it is built: entries for every point
where a quantity is needed, and no entries at all where it is not. No history changes them, so a
buffer that is not needed has no room in which anything could be left over. -/
namespace NonconformingQuad

theorem Tensor.eq_of_volume_eq_zero {K : Type} {t u : Tensor K} (same : t.shape = u.shape)
    (empty : Index.volume t.shape = 0) : t = u := by
  have first : t.entries = #[] := Array.size_eq_zero_iff.mp (t.size_entries.trans empty)
  have second : u.entries = #[] := by
    apply Array.size_eq_zero_iff.mp
    rw [u.size_entries, ← same, empty]
  exact Tensor.ext same (first.trans second.symm)

namespace ShapeBuffers
variable {K : Type} {b c : ShapeBuffers K} {dofs n : Int} {flags : UpdateFlags} {q : Quantity}

/-- Shape of a buffer for `n` points. -/
def allocated (dofs n : Int) (flags : UpdateFlags) (q : Quantity) : List Nat :=
  let points := if flags.has q then n else 0
  ((if points = 0 then 0 else dofs) :: points :: tail q).map Int.toNat

theorem shapes_of_allocate [Scalar K] (made : allocate dofs n flags = .ok b)
    (listed : q ∈ quantities) : b.shapes q = some (allocated dofs n flags q) := by
  obtain ⟨t, found, zeros⟩ := get_of_allocate made listed
  rw [shapes, found]
  exact congrArg some (shape_of_map_ofNat (shape_of_zeros? zeros))

theorem volume_allocated (unneeded : flags.has q = false) :
    Index.volume (allocated dofs n flags q) = 0 := by
  simp only [allocated, unneeded, Bool.false_eq_true, if_false, if_true, List.map_cons,
    Int.toNat_zero, Index.volume, Nat.zero_mul]

theorem get_eq_of_unneeded (first : ∀ q ∈ quantities, b.shapes q = some (allocated dofs n flags q))
    (second : ∀ q ∈ quantities, c.shapes q = some (allocated dofs n flags q))
    (unneeded : flags.has q = false) : b.get q = c.get q := by
  by_cases listed : q ∈ quantities
  · obtain ⟨t, found, shape⟩ := Option.map_eq_some_iff.mp (first q listed)
    obtain ⟨u, present, same⟩ := Option.map_eq_some_iff.mp (second q listed)
    have empty : Index.volume t.shape = 0 := shape ▸ volume_allocated unneeded
    rw [found, present, Tensor.eq_of_volume_eq_zero (shape.trans same.symm) empty]
  · cases q with
    | values | gradients | hessians => exact absurd (by decide) listed
    | points | normals | weights => rfl

end ShapeBuffers

namespace MappingBuffers
variable {K : Type} {b : MappingBuffers K} {n : Int} {flags : UpdateFlags} {withNormals : Bool}

/-- Lengths of the buffers for `n` points. -/
def allocated (n : Int) (flags : UpdateFlags) (withNormals : Bool) : Nat × Nat × Nat :=
  let size (wanted : Bool) : Nat := if wanted then n.toNat else 0
  (size (flags.has .points), size (flags.has .weights), size (withNormals && flags.has .normals))

theorem lengths_of_allocate [Scalar K] (made : allocate n flags withNormals = .ok b) :
    b.lengths = allocated n flags withNormals := by
  simp only [allocate, Outcome.bind_eq_ok_iff, Outcome.pure_eq_ok_iff] at made
  obtain ⟨_, _, rfl⟩ := made
  simp only [lengths, allocated, List.length_replicate, apply_ite Int.toNat, Int.toNat_zero]

def IsAllocated (n : Int) (flags : UpdateFlags) (withNormals : Bool)
    (b : MappingBuffers K) : Prop :=
  b.lengths = allocated n flags withNormals

theorem IsAllocated.length_eq (held : b.IsAllocated n flags withNormals) :
    b.points.length = (if flags.has .points then n.toNat else 0) ∧
      b.weights.length = (if flags.has .weights then n.toNat else 0) ∧
      b.normals.length = (if withNormals && flags.has .normals then n.toNat else 0) := by
  simpa only [IsAllocated, lengths, allocated, Prod.mk.injEq] using held

theorem IsAllocated.eq_nil (held : b.IsAllocated n flags withNormals) :
    (flags.has .points = false → b.points = []) ∧ (flags.has .weights = false → b.weights = []) ∧
      ((withNormals && flags.has .normals) = false → b.normals = []) := by
  have blank {α : Type} {xs : List α} {wanted : Bool} (unneeded : wanted = false)
      (length : xs.length = if wanted then n.toNat else 0) : xs = [] := by
    rw [unneeded] at length
    exact List.eq_nil_of_length_eq_zero length
  obtain ⟨points, weights, normals⟩ := held.length_eq
  exact ⟨fun unneeded => blank unneeded points, fun unneeded => blank unneeded weights,
    fun unneeded => blank unneeded normals⟩

end MappingBuffers

namespace Context
variable {K : Type} [Scalar K] {placement : Placement K} {requested : UpdateFlags}
  {b c : Context K}

/-- The buffers are those that a context is built with. -/
structure HasRoom (c : Context K) : Prop where
  shapes : ∀ q ∈ ShapeBuffers.quantities, c.shapes.shapes q =
    some (ShapeBuffers.allocated P1.dofsPerCell c.placement.size c.flags q)
  mapping : c.mapping.IsAllocated c.placement.size c.flags c.placement.onFace

theorem hasRoom_of_build (built : (build placement requested).outcome = .ok b) : b.HasRoom := by
  simp only [build, Run.outcome_bind_eq_ok_iff, Run.outcome_ofExcept, Run.outcome_pure,
    Except.ok.injEq] at built
  obtain ⟨_, _, shapes, allocated, mapping, mapped, _, _, rfl⟩ := built
  refine ⟨fun q listed => ?_, ?_⟩
  · exact ShapeBuffers.shapes_of_allocate allocated listed
  · exact MappingBuffers.lengths_of_allocate mapped

omit [Scalar K] in
theorem HasRoom.congr (room : b.HasRoom) (same : b.HasPlanOf c) : c.HasRoom where
  shapes q listed := by
    rw [same.shapes, same.placement, same.flags]
    exact room.shapes q listed
  mapping := by
    rw [same.placement, same.flags]
    exact same.lengths.trans room.mapping

theorem hasPlanOf_of_reaches (built : (build placement requested).outcome = .ok b)
    (history : b.Reaches c) : b.HasPlanOf c :=
  HasPlanOf.reaches (isSound_of_build built).prepared (.refl b) history

theorem IsReached.hasRoom (reached : IsReached placement requested c) : c.HasRoom := by
  obtain ⟨b, built, history⟩ := reached
  exact (hasRoom_of_build built).congr (hasPlanOf_of_reaches built history)

/-- On a face, requested normals have a buffer as soon as there are points. -/
theorem IsReached.exists_normal (reached : IsReached placement requested c)
    (onFace : placement.onFace) (normal : c.flags.has .normals) (positive : 0 < placement.size) :
    !c.mapping.normals.isEmpty := by
  have size := reached.hasRoom.mapping.length_eq.2.2
  simp only [reached.isSound.placement_eq, onFace, normal, Bool.and_self, if_true] at size
  have present : c.mapping.normals ≠ [] := by
    rw [← List.length_pos_iff, size]
    omega
  simpa using present

end Context
end NonconformingQuad
