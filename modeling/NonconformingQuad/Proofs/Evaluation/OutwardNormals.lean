import Mathlib.Analysis.SpecialFunctions.Log.Basic
import NonconformingQuad.Proofs.Evaluation.Calls
import NonconformingQuad.Proofs.Geometry.Normals

/-! The normals of contexts on faces and on halves of faces. Both place their points on the face,
so on a convex cell the direction at each of them leads out of the whole cell. -/
noncomputable section
namespace NonconformingQuad

/-- The rule that is carried along a face stays within the interval. -/
theorem Placement.within_lineRule {r : LineRule ℝ} (placement : Placement ℝ) (h : Half)
    (within : ∀ p ∈ r, -1 ≤ p.node ∧ p.node ≤ 1) :
    ∀ p ∈ placement.lineRule r h, -1 ≤ p.node ∧ p.node ≤ 1 := by
  cases placement with
  | half order => exact LineRule.within_onHalf within h
  | _ => exact within

namespace Context

/-- On a cell with one orientation the context tells the same normal at all points of a face, and at
all points of half of it. -/
theorem call_normal {n : Nat} {gauss : LineFamily ℝ} {r : LineRule ℝ} {placement : Placement ℝ}
    {V : Quad ℝ} {requested : UpdateFlags} {c : Context ℝ} {s : ℝ} (tol : Tolerances (Bound ℝ))
    (positive : 1 ≤ n) (placed : placement = .face n ∨ placement = .half n)
    (found : gauss n = .ok r) (nodes : r.length = n) (within : ∀ p ∈ r, -1 ≤ p.node ∧ p.node ≤ 1)
    (oriented : V.HasOrientation s) (reached : IsReached placement requested c)
    (normals : requested.has .normals)
    (solved : c.flags.has .values ∨ c.flags.has .gradients → V.IsAccepted tol none)
    (f : Face) (h : Half) :
    let evaluated := c.call tol gauss (.ofIntegers placement (.ok V) f.number h.number)
    evaluated.fault? = none ∧ ∀ q < n, evaluated.state.normal (.int q) =
      .ok (Point.scale (s / (V.halfEdge f).norm) (V.outward f)) := by
  intro evaluated
  obtain ⟨onFace, size⟩ : placement.onFace ∧ placement.size = n := by
    obtain rfl | rfl := placed <;> exact ⟨rfl, rfl⟩
  have requestedNormals := reached.isSound.has_of_requested normals
  have line : LineRule.ofOrder? gauss (.int placement.size) = .ok r := by
    rw [size]
    exact LineRule.ofOrder?_int positive found
  obtain ⟨succeeded, mapping⟩ : evaluated.fault? = none ∧ evaluated.state.mapping =
      Mapping.written V (Rule.onFace f (placement.lineRule r h)) c.flags (some f) c.mapping :=
    call_onFace tol reached onFace line (by rw [size, nodes])
      (List.ne_nil_of_length_pos (nodes ▸ positive)) solved f h
  have room := reached.exists_normal onFace requestedNormals (by omega)
  have held : evaluated.state.mapping.normals =
      (Rule.onFace f (placement.lineRule r h)).map fun p => Mapping.normalAt V f p.point := by
    rw [mapping, Mapping.normals_written requestedNormals room]
  have same : c.HasPlanOf evaluated.state := reached.isSound.hasPlanOf_reinit ..
  have facing : evaluated.state.placement.onFace := by
    rw [same.placement, reached.isSound.placement_eq]
    exact onFace
  refine ⟨succeeded, fun q bound => ?_⟩
  have inside : q < (Rule.onFace f (placement.lineRule r h)).length := by
    rwa [Rule.length_onFace, placement.length_lineRule, nodes]
  rw [normal_eq_ok held facing (same.flags ▸ requestedNormals) (ready_of_reinit succeeded)
    (by simpa using inside), List.getElem_map]
  obtain ⟨t, -, point⟩ := List.mem_map.mp (List.getElem_mem inside)
  have place := Rule.isInside_of_mem_onFace (placement.within_lineRule h within)
    (List.getElem_mem inside)
  rw [← point] at place ⊢
  exact congrArg Except.ok (Quad.normalAt_pointAt oriented place)

/-- On every face and half of a face of a strictly convex cell, the normal at each point is the
outward unit normal of the face. -/
theorem normals_point_outward (n : Nat) (gauss : LineFamily ℝ) (r : LineRule ℝ)
    (placement : Placement ℝ) (tol : Tolerances (Bound ℝ)) (V : Quad ℝ) (requested : UpdateFlags)
    (c : Context ℝ) (f : Face) (h : Half) (positive : 1 ≤ n)
    (placed : placement = .face n ∨ placement = .half n) (found : gauss n = .ok r)
    (nodes : r.length = n) (within : ∀ p ∈ r, -1 < p.node ∧ p.node < 1)
    (convex : V.IsStrictlyConvex) (reached : IsReached placement requested c)
    (normals : requested.has .normals)
    (solved : c.flags.has .values ∨ c.flags.has .gradients → V.IsAccepted tol none) :
    let evaluated := c.call tol gauss (.ofIntegers placement (.ok V) f.number h.number)
    evaluated.fault? = none ∧
      ∀ q < n, ∃ v, evaluated.state.normal (.int q) = .ok v ∧ V.PointsOutward f v := by
  intro evaluated
  obtain ⟨s, oriented⟩ := convex.exists_orientation
  have closed : ∀ p ∈ r, -1 ≤ p.node ∧ p.node ≤ 1 := fun p member =>
    ⟨(within p member).1.le, (within p member).2.le⟩
  obtain ⟨succeeded, told⟩ := call_normal tol positive placed found nodes closed oriented reached
    normals solved f h
  exact ⟨succeeded, fun q bound => ⟨_, told q bound, Quad.pointsOutward oriented f⟩⟩

/-- The upper half of the right face of a cell that is turned over. -/
theorem normals_point_outward_mirrored :
    let gauss : LineFamily ℝ := fun _ => .ok [⟨0, 2⟩]
    ∃ c : Context ℝ, (build (.half 1) (.only .normals)).outcome = .ok c ∧
      ∃ v, (c.call ((⟨0, 0, 0⟩ : Tolerances ℝ).map .number) gauss
          (.ofIntegers (.half 1) (.ok .mirrored) 1 1)).state.normal (.int 0) = .ok v ∧
        Quad.mirrored.PointsOutward .right v := by
  intro gauss
  obtain ⟨c, built⟩ : ∃ c : Context ℝ, (build (.half 1) (.only .normals)).outcome = .ok c :=
    ⟨_, rfl⟩
  have within : ∀ p ∈ ([⟨0, 2⟩] : LineRule ℝ), -1 < p.node ∧ p.node < 1 := by
    intro p member
    rw [List.mem_singleton.mp member]
    norm_num
  obtain ⟨-, each⟩ := normals_point_outward 1 gauss [⟨0, 2⟩] (.half 1)
    ((⟨0, 0, 0⟩ : Tolerances ℝ).map .number) .mirrored (.only .normals) c .right .upper
    (by decide) (.inr rfl) rfl rfl within Quad.isStrictlyConvex_mirrored ⟨c, built, .refl c⟩
    (by decide) fun _ => Quad.isAccepted_mirrored
  exact ⟨c, built, each 0 (by decide)⟩

end Context
end NonconformingQuad
end
