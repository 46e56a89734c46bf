import NonconformingQuad.Proofs.Element.Filling
import NonconformingQuad.Proofs.Outcome

/-! Shapes of the element's buffers. Allocation chooses them, the check compares them with the
data of the element, and a fill writes buffers of the shapes that were there before. -/
namespace NonconformingQuad

namespace ShapeBuffers
variable {K : Type} {b c : ShapeBuffers K} {dofs n : Int} {flags : UpdateFlags} {q : Quantity}

def shapes (b : ShapeBuffers K) (q : Quantity) : Option (List Nat) := (b.get q).map (·.shape)

theorem shape_of_map_ofNat {shape : List Nat} {lengths : List Int}
    (agree : shape.map Int.ofNat = lengths) : shape = lengths.map Int.toNat := by
  rw [← agree, List.map_map]
  exact (List.map_id shape).symm

theorem check_eq_ok_iff :
    b.check dofs n flags = .ok () ↔ ∀ q ∈ quantities, flags.has q → b.fits dofs n q := by
  have search : b.misfit? dofs n flags = none ↔
      ∀ q ∈ quantities, flags.has q → b.fits dofs n q := by
    simp [misfit?, List.find?_eq_none]
  rw [← search, check]
  cases b.misfit? dofs n flags <;> simp

theorem fits_iff :
    b.fits dofs n q ↔
      ∃ shape, b.shapes q = some shape ∧ shape.map Int.ofNat = dofs :: n :: tail q := by
  cases found : b.get q <;> simp [fits, shapes, found]

theorem mem_quantities : q ∈ quantities ↔ q = .values ∨ q = .gradients ∨ q = .hessians := by
  simp only [quantities, List.mem_cons, List.not_mem_nil, or_false]

/-- The check looks at shapes only. -/
theorem check_congr (same : b.shapes = c.shapes) :
    b.check dofs n flags = .ok () ↔ c.check dofs n flags = .ok () := by
  simp only [check_eq_ok_iff, fits_iff, same]

theorem shapes_of_check (accepted : b.check dofs n flags = .ok ()) (listed : q ∈ quantities)
    (requested : flags.has q) : b.shapes q = some ((dofs :: n :: tail q).map Int.toNat) := by
  obtain ⟨shape, found, agree⟩ := fits_iff.mp (check_eq_ok_iff.mp accepted q listed requested)
  rw [found, shape_of_map_ofNat agree]

variable [Scalar K]

/-- An array of zeros has the shape that was asked for; no length of it is negative. -/
theorem shape_of_zeros? {lengths : List Int} {t : Tensor K}
    (made : Tensor.zeros? lengths = .ok t) : t.shape.map Int.ofNat = lengths := by
  simp only [Tensor.zeros?, Outcome.bind_eq_ok_iff, Outcome.mapError_eq_ok_iff,
    Outcome.pure_eq_ok_iff] at made
  obtain ⟨⟨⟩, accepted, rfl⟩ := made
  rw [Tensor.checkShape] at accepted
  split at accepted
  · contradiction
  · next nonneg =>
    have same : ∀ d ∈ lengths, Int.ofNat d.toNat = d := fun d inside =>
      Int.toNat_of_nonneg (Int.not_lt.mp fun negative =>
        nonneg (List.any_eq_true.mpr ⟨d, inside, decide_eq_true negative⟩))
    rw [Tensor.replicate, List.map_map]
    exact (List.map_congr_left same).trans (List.map_id lengths)

theorem get_of_allocate (made : allocate dofs n flags = .ok b) (listed : q ∈ quantities) :
    ∃ t, b.get q = some t ∧ zeros? dofs (if flags.has q then n else 0) q = .ok t := by
  simp only [allocate, Outcome.bind_eq_ok_iff, Outcome.pure_eq_ok_iff] at made
  obtain ⟨values, first, gradients, second, hessians, third, rfl⟩ := made
  rcases mem_quantities.mp listed with rfl | rfl | rfl
  · exact ⟨values, rfl, first⟩
  · exact ⟨gradients, rfl, second⟩
  · exact ⟨hessians, rfl, third⟩

/-- A requested buffer fits, unless it is for no points: then it has no rows either. -/
theorem fits_of_allocate (made : allocate dofs n flags = .ok b) (listed : q ∈ quantities)
    (requested : flags.has q) : b.fits dofs n q ↔ ¬(n = 0 ∧ dofs ≠ 0) := by
  obtain ⟨t, found, zeros⟩ := get_of_allocate made listed
  rw [if_pos requested] at zeros
  rw [fits_iff, shapes, found]
  simp only [Option.map_some, Option.some.injEq, exists_eq_left', shape_of_zeros? zeros,
    List.cons.injEq, and_true]
  split <;> omega

theorem check_of_allocate (pointed : n ≠ 0) (made : allocate dofs n flags = .ok b) :
    b.check dofs n flags = .ok () := by
  rw [check_eq_ok_iff]
  intro q listed requested
  exact (fits_of_allocate made listed requested).mpr fun empty => pointed empty.1

end ShapeBuffers

namespace P1
open ShapeBuffers
variable {K : Type} [Scalar K] {tol : Tolerances (Bound K)} {site : Site} {V : Quad K}
  {points : Tensor K} {internal : InternalData K} {out filled : ShapeBuffers K}

/-- The prepared second derivatives have the shape of their buffer. -/
def InternalData.IsPrepared (internal : InternalData K) : Prop :=
  ∀ t, internal.hessians = some t → t.shape = [dofsPerCell, internal.size.toNat, 2, 2]

theorem prepared_of_prepare {requested : UpdateFlags} {n : Int}
    (made : (prepare requested n).outcome = .ok internal) :
    internal.flags = resolve requested ∧ internal.size = n ∧ internal.IsPrepared := by
  simp only [prepare] at made
  split at made
  · simp only [Run.outcome_bind_eq_ok_iff, Run.outcome_pure, Except.ok.injEq] at made
    obtain ⟨cache?, found, _, _, rfl⟩ := made
    obtain ⟨cache, zeros, made⟩ := Run.outcome_bind_eq_ok_iff.mp found
    obtain rfl : some cache = cache? := Except.ok.inj made
    refine ⟨rfl, rfl, fun t present => ?_⟩
    obtain rfl : cache = t := Option.some.inj present
    exact shape_of_map_ofNat (shape_of_zeros? zeros)
  · simp only [Run.outcome_bind_eq_ok_iff, Run.outcome_pure, Except.ok.injEq] at made
    obtain ⟨_, rfl, _, _, rfl⟩ := made
    exact ⟨rfl, rfl, fun t present => by contradiction⟩

theorem hessians_of_prepare {requested : UpdateFlags} {n : Int}
    (made : (prepare requested n).outcome = .ok internal)
    (wanted : internal.flags.has .hessians) :
    internal.hessians = some (.replicate [dofsPerCell, n.toNat, 2, 2] 0) := by
  have flags := (prepared_of_prepare made).1
  rw [flags] at wanted
  simp only [prepare, if_pos wanted, Run.outcome_bind_eq_ok_iff, Run.outcome_pure,
    Except.ok.injEq] at made
  obtain ⟨cache?, found, _, _, rfl⟩ := made
  obtain ⟨cache, zeros, put⟩ := Run.outcome_bind_eq_ok_iff.mp found
  obtain rfl : some cache = cache? := Except.ok.inj put
  simp only [Run.outcome_ofExcept, Tensor.zeros?, Outcome.bind_eq_ok_iff,
    Outcome.pure_eq_ok_iff] at zeros
  obtain ⟨_, _, rfl⟩ := zeros
  rfl

theorem shapes_written {table? : Option (ShapeTable K)} (prepared : internal.IsPrepared)
    (accepted : out.check dofsPerCell internal.size internal.flags = .ok ())
    (solved : internal.flags.has .values ∨ internal.flags.has .gradients → table?.isSome) :
    (written site table? points internal out).shapes = out.shapes := by
  funext q
  by_cases requested : internal.flags.has q
  · cases q with
    | values =>
      obtain ⟨N, rfl⟩ := Option.isSome_iff_exists.mp (solved (.inl requested))
      rw [shapes_of_check accepted (by decide) requested]
      simp [written, shapes, ShapeBuffers.get, requested, valuesAt, tail]
    | gradients =>
      obtain ⟨N, rfl⟩ := Option.isSome_iff_exists.mp (solved (.inr requested))
      rw [shapes_of_check accepted (by decide) requested]
      simp [written, shapes, ShapeBuffers.get, requested, gradientsAt, tail]
    | hessians =>
      rw [shapes_of_check accepted (by decide) requested]
      simp only [written, shapes, ShapeBuffers.get, requested, if_true]
      split
      · next cache found => simp [prepared cache found, tail]
      · simp [Tensor.replicate, tail]
    | points | normals | weights => rfl
  · cases q <;> simp [written, shapes, ShapeBuffers.get, requested]

theorem shapes_fill (prepared : internal.IsPrepared)
    (succeeded : (fill tol site (.ok V) points internal out).outcome = .ok filled) :
    filled.shapes = out.shapes := by
  obtain ⟨_, accepted, table?, found, _, rfl⟩ := outcome_fill_eq_ok_iff.mp succeeded
  refine shapes_written prepared accepted fun wanted => ?_
  obtain ⟨N, _, rfl⟩ := (outcome_tableFor_eq_ok_iff wanted).mp found
  rfl

end P1
end NonconformingQuad
