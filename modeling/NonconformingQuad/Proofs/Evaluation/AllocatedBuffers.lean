import NonconformingQuad.Proofs.Element.InPlace
import NonconformingQuad.Proofs.Evaluation.Allocation
import NonconformingQuad.Proofs.Tensor.Room

/-! Buffers as they are allocated, against what the check and a fill ask of them. A buffer that is
not requested has no entries on either axis. A requested one for no points is given the same shape,
although the check still asks for one row for each function: rules without points are the one case
in which allocated buffers are refused. -/
namespace NonconformingQuad

theorem Tensor.exists_zeros? {K : Type} [Scalar K] {shape : List Nat}
    (room : Tensor.checkRoom shape = .ok ()) :
    ∃ t : Tensor K, Tensor.zeros? (shape.map Int.ofNat) = .ok t := by
  rw [zeros?, checkShape_natCast, room]
  exact ⟨_, rfl⟩

namespace ShapeBuffers
variable {K : Type} {dofs n : Nat} {flags : UpdateFlags} {b : ShapeBuffers K} {q : Quantity}

/-- What the check finds wrong with allocated buffers: with no points there is no room for the
functions either, so the first requested buffer is refused. -/
def emptyFault? (dofs n : Nat) (flags : UpdateFlags) : Option (Fault K) :=
  if n = 0 ∧ dofs ≠ 0 then
    (quantities.find? flags.has).map fun q =>
      .bufferShape q (dofs :: 0 :: tail q) (0 :: 0 :: (tail q).map Int.toNat)
  else none

variable [Scalar K]

theorem fault?_check_of_allocate (made : allocate dofs n flags = .ok b) :
    (Run.ofExcept (b.check dofs n flags)).fault? = emptyFault? dofs n flags := by
  have fits {q : Quantity} (listed : q ∈ quantities) (requested : flags.has q) :
      b.fits dofs n q ↔ ¬(n = 0 ∧ dofs ≠ 0) := by
    rw [fits_of_allocate made listed requested]
    omega
  by_cases empty : n = 0 ∧ dofs ≠ 0
  · have search : b.misfit? dofs n flags = quantities.find? flags.has := by
      refine List.find?_congr fun q listed => ?_
      by_cases requested : flags.has q
      · have misfit : ¬b.fits dofs n q := fun fit => (fits listed requested).mp fit empty
        simp [requested, misfit]
      · simp [requested]
    rw [check, search, emptyFault?, if_pos empty]
    cases found : quantities.find? flags.has with
    | none => rfl
    | some q =>
      have requested : flags.has q := List.find?_some found
      have held := shapes_of_allocate made (List.mem_of_find?_eq_some found)
      have shape : shapeOf (b.get q) = 0 :: 0 :: (tail q).map Int.toNat := by
        change (b.shapes q).getD [] = _
        rw [held]
        simp [allocated, requested, empty.1]
      simp only [shape, empty.1]
      rfl
  · have accepted : b.check dofs n flags = .ok () :=
      check_eq_ok_iff.mpr fun q listed requested => (fits listed requested).mpr empty
    rw [accepted, emptyFault?, if_neg empty]
    rfl

theorem exists_zeros? (listed : q ∈ quantities) (room : Tensor.checkRoom [dofs, n, 2, 2] = .ok ())
    {m : Int} (size : m = n ∨ m = 0) : ∃ t : Tensor K, zeros? dofs m q = .ok t := by
  by_cases empty : m = 0
  · subst empty
    rw [zeros?, if_pos rfl]
    rcases mem_quantities.mp listed with rfl | rfl | rfl
    · exact Tensor.exists_zeros? (show Tensor.checkRoom [0, 0] = .ok () from rfl)
    · exact Tensor.exists_zeros? (show Tensor.checkRoom [0, 0, 2] = .ok () from rfl)
    · exact Tensor.exists_zeros? (show Tensor.checkRoom [0, 0, 2, 2] = .ok () from rfl)
  · obtain rfl : m = n := size.resolve_right empty
    rw [zeros?, if_neg empty]
    have fewer {rest : List Nat} (part : rest.Sublist [2, 2]) (small : Index.volume rest ≤ 4) :
        Tensor.checkRoom (dofs :: n :: rest) = .ok () :=
      Tensor.checkRoom_of_sublist ((part.cons_cons n).cons_cons dofs)
        (Nat.mul_le_mul_left dofs (Nat.mul_le_mul_left n small)) room
    rcases mem_quantities.mp listed with rfl | rfl | rfl
    · exact Tensor.exists_zeros? (fewer (List.nil_sublist _) (by decide))
    · exact Tensor.exists_zeros? (fewer (List.sublist_append_left [2] [2]) (by decide))
    · exact Tensor.exists_zeros? room

theorem exists_allocate (flags : UpdateFlags) (room : Tensor.checkRoom [dofs, n, 2, 2] = .ok ()) :
    ∃ b : ShapeBuffers K, allocate dofs n flags = .ok b := by
  have size (q : Quantity) : (if flags.has q then (n : Int) else 0) = n ∨
      (if flags.has q then (n : Int) else 0) = 0 := by
    split
    · exact .inl rfl
    · exact .inr rfl
  obtain ⟨values, first⟩ := exists_zeros? (K := K) (q := .values) (by decide) room (size .values)
  obtain ⟨gradients, second⟩ :=
    exists_zeros? (K := K) (q := .gradients) (by decide) room (size .gradients)
  obtain ⟨hessians, third⟩ :=
    exists_zeros? (K := K) (q := .hessians) (by decide) room (size .hessians)
  refine ⟨⟨some values, some gradients, some hessians⟩, ?_⟩
  simp only [allocate, first, second, third]
  rfl

end ShapeBuffers

namespace MappingBuffers
variable {K : Type} [Scalar K] {n : Nat}

theorem exists_allocate (flags : UpdateFlags) (withNormals : Bool)
    (room : Tensor.checkRoom [P1.dofsPerCell, n, 2, 2] = .ok ()) :
    ∃ b : MappingBuffers K, allocate n flags withNormals = .ok b := by
  have fewer {rest : List Nat} (part : rest.Sublist [2, 2]) (small : Index.volume rest ≤ 16) :
      Tensor.checkRoom (n :: rest) = .ok () := by
    refine Tensor.checkRoom_of_sublist ((part.cons_cons n).cons P1.dofsPerCell) ?_ room
    calc Index.volume (n :: rest) ≤ n * 16 := Nat.mul_le_mul_left n small
      _ = Index.volume [P1.dofsPerCell, n, 2, 2] := by simp [Index.volume, P1.dofsPerCell]; omega
  have pairs : Tensor.checkShape [(n : Int), 2] = .ok () :=
    (Tensor.checkShape_natCast [n, 2]).trans (fewer (List.sublist_append_left [2] [2]) (by decide))
  have singles : Tensor.checkShape [(n : Int)] = .ok () :=
    (Tensor.checkShape_natCast [n]).trans (fewer (List.nil_sublist _) (by decide))
  have rows (wanted : Bool) : Tensor.checkShape [if wanted then (n : Int) else 0, 2] = .ok () := by
    cases wanted with
    | false => rfl
    | true => exact pairs
  have numbers (wanted : Bool) : Tensor.checkShape [if wanted then (n : Int) else 0] = .ok () := by
    cases wanted with
    | false => rfl
    | true => exact singles
  simp only [allocate, List.forM, rows, numbers]
  exact ⟨_, rfl⟩

end MappingBuffers

namespace P1
open ShapeBuffers
variable {K : Type} [Scalar K] {n : Nat}

theorem exists_prepare (requested : UpdateFlags)
    (room : Tensor.checkRoom [dofsPerCell, n, 2, 2] = .ok ()) :
    ∃ internal : InternalData K, (prepare requested n).outcome = .ok internal := by
  obtain ⟨cache, zeros⟩ := Tensor.exists_zeros? (K := K) room
  by_cases wanted : (resolve requested).has .hessians
  · refine ⟨⟨resolve requested, n, some cache⟩, ?_⟩
    simp only [prepare, if_pos wanted, Run.outcome_bind_eq_ok_iff]
    refine ⟨some cache, ?_, (), rfl, rfl⟩
    exact Run.outcome_bind_eq_ok_iff.mpr ⟨cache, zeros, rfl⟩
  · refine ⟨⟨resolve requested, n, none⟩, ?_⟩
    simp only [prepare, if_neg wanted, Run.outcome_bind_eq_ok_iff]
    exact ⟨none, rfl, (), rfl, rfl⟩

variable {tol : Tolerances K} {place : Place} {V : Quad K} {requested : UpdateFlags}
  {withNormals : Bool} {internal : InternalData K} {out : ShapeBuffers K}
  {mapping : MappingBuffers K}

/-- A cell with shape functions fits buffers that were allocated for it, but for the check. -/
theorem fault?_fill_of_allocated (placed : place.obstacle? (K := K) = none)
    (accepted : V.IsAccepted (tol.map .number) none)
    (prepared : (prepare requested n).outcome = .ok internal)
    (made : allocate dofsPerCell n (resolve requested) = .ok out)
    (mapped : MappingBuffers.allocate n (resolve requested) withNormals = .ok mapping) :
    (fillInPlace (tol.map .number) place.site (.ok V) (.ofPoints mapping.points) internal
      out).fault? = emptyFault? dofsPerCell n (resolve requested) := by
  obtain ⟨flags, size, cached⟩ := prepared_of_prepare prepared
  have buffers : bufferObstacle? internal.flags internal.size out =
      emptyFault? dofsPerCell n (resolve requested) := by
    rw [← fault?_check_buffers, flags, size]
    exact fault?_check_of_allocate made
  have cell : cellObstacle? tol internal.flags V = none := cellObstacle?_of_isAccepted accepted
  have points : pointsObstacle? internal.flags internal.size (.ofPoints mapping.points) = none := by
    refine if_neg fun other => ?_
    obtain ⟨asked, differs⟩ := other
    rw [flags] at asked
    have count : mapping.points.length = n := by
      have lengths := MappingBuffers.lengths_of_allocate mapped
      have placed := (MappingBuffers.IsAllocated.length_eq lengths).1
      rw [placed, if_pos (has_points_of_has_values asked), Int.toNat_natCast]
    apply differs
    change [(mapping.points.length : Int), 2] = [internal.size, 2]
    rw [size, count]
  rw [fault?_fillInPlace tol place V _ out cached, obstacle?, placed, buffers, cell, points]
  cases emptyFault? (K := K) dofsPerCell n (resolve requested) <;> rfl

/-- Allocated buffers pass the check, and a cell with shape functions is written into them, unless
there are no points: then the first requested buffer is refused, because it has no rows. -/
theorem allocated_buffers_cases (tol : Tolerances K) (place : Place) (V : Quad K) (dofs n : Nat)
    (flags : UpdateFlags) (f : Int) (withNormals : Bool) (placed : place.obstacle? (K := K) = none)
    (accepted : V.IsAccepted (tol.map .number) none) :
    let resolved := resolve (.ofInt f)
    (Tensor.checkRoom [dofs, n, 2, 2] = .ok () →
        ∃ b : ShapeBuffers K, allocate dofs n flags = .ok b) ∧
      (∀ b : ShapeBuffers K, allocate dofs n flags = .ok b →
        (Run.ofExcept (b.check dofs n flags)).fault? = emptyFault? dofs n flags) ∧
      (Tensor.checkRoom [4, n, 2, 2] = .ok () →
        ∃ (internal : InternalData K) (out : ShapeBuffers K) (mapping : MappingBuffers K),
          (prepare (.ofInt f) n).outcome = .ok internal ∧ allocate 4 n resolved = .ok out ∧
            MappingBuffers.allocate n resolved withNormals = .ok mapping) ∧
      ∀ (internal : InternalData K) (out : ShapeBuffers K) (mapping : MappingBuffers K),
        (prepare (.ofInt f) n).outcome = .ok internal → allocate 4 n resolved = .ok out →
          MappingBuffers.allocate n resolved withNormals = .ok mapping →
            (fillInPlace (tol.map .number) place.site (.ok V) (.ofPoints mapping.points) internal
              out).fault? = emptyFault? 4 n resolved := by
  intro resolved
  refine ⟨?_, ?_, ?_, ?_⟩
  · intro room
    exact exists_allocate flags room
  · intro b made
    exact fault?_check_of_allocate made
  · intro room
    obtain ⟨internal, prepared⟩ := exists_prepare (K := K) (.ofInt f) room
    obtain ⟨out, made⟩ := exists_allocate (K := K) resolved room
    obtain ⟨mapping, mapped⟩ := MappingBuffers.exists_allocate (K := K) resolved withNormals room
    exact ⟨internal, out, mapping, prepared, made, mapped⟩
  · intro internal out mapping prepared made mapped
    exact fault?_fill_of_allocated placed accepted prepared made mapped

theorem allocated_buffers_arrowhead :
    let tol : Tolerances ℝ := ⟨0, 0, 0⟩
    (Place.half 3 1).obstacle? (K := ℝ) = none ∧
      Quad.arrowhead.IsAccepted (tol.map .number) none ∧
      ∃ (internal : InternalData ℝ) (out : ShapeBuffers ℝ) (mapping : MappingBuffers ℝ),
        (prepare (.ofInt 7) (2 : Nat)).outcome = .ok internal ∧
          allocate 4 (2 : Nat) (resolve (.ofInt 7)) = .ok out ∧
          (fillInPlace (tol.map .number) (Place.half 3 1).site (.ok Quad.arrowhead)
            (.ofPoints mapping.points) internal out).fault? = none := by
  intro tol
  have placed : (Place.half 3 1).obstacle? (K := ℝ) = none := rfl
  refine ⟨placed, Quad.isAccepted_arrowhead, ?_⟩
  obtain ⟨_, _, exists_, fills⟩ := allocated_buffers_cases tol (.half 3 1) Quad.arrowhead 4 2
    (.ofInt 7) 7 true placed Quad.isAccepted_arrowhead
  obtain ⟨internal, out, mapping, prepared, made, mapped⟩ := exists_ rfl
  exact ⟨internal, out, mapping, prepared, made, fills internal out mapping prepared made mapped⟩

/-- A requested buffer for no points is allocated without rows, and then refused for it. -/
theorem allocated_for_no_points_is_refused :
    ∃ b : ShapeBuffers Float, allocate 4 0 (.only .values) = .ok b ∧
      b.check 4 0 (.only .values) = .error (.bufferShape .values [4, 0] [0, 0]) := by
  exact ⟨_, rfl, rfl⟩

end P1
end NonconformingQuad
