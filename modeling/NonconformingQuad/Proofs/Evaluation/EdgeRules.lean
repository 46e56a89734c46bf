import Mathlib.Analysis.SpecialFunctions.Log.Basic
import NonconformingQuad.Mesh.Cell
import NonconformingQuad.Proofs.Evaluation.Calls
import NonconformingQuad.Proofs.Quadrature.Segments

/-! Contexts on edges. A cell tells the ends of its edges and of their halves; a context on a face
or on half of one goes through the reference square instead. Both ways lead to the same points and
weights, in the same order: those of the line rule on the segment between the two ends. -/
noncomputable section
namespace NonconformingQuad

namespace Placement
variable {K : Type} [Scalar K]

/-- Ends of the segment on which a context places its points: an edge, or half of it. -/
def ends (V : Quad K) (f : Face) (h : Half) : Placement K → Point K × Point K
  | half _ => V.half f h
  | _ => V.face f

variable (placement : Placement ℝ) (V : Quad ℝ) (f : Face) (h : Half) (r : LineRule ℝ)

theorem pointsOf_lineRule : Mapping.pointsOf V (Rule.onFace f (placement.lineRule r h)) =
    Segment.pointsOf (placement.ends V f h).1 (placement.ends V f h).2 r := by
  cases placement with
  | half order => exact V.pointsOf_onHalf f h r
  | _ => exact V.pointsOf_onFace f r

theorem lengthWeight_lineRule :
    (Rule.onFace f (placement.lineRule r h)).map (Mapping.lengthWeight V f) = r.map fun t =>
      t.weight * (Point.scale Scalar.half
        ((placement.ends V f h).2 - (placement.ends V f h).1)).norm := by
  cases placement with
  | half order => exact V.lengthWeight_onHalf f h r
  | _ => exact V.lengthWeight_onFace f r

end Placement

namespace Context
variable {gauss : LineFamily ℝ} {n : Nat} {r : LineRule ℝ}

/-- The context holds and tells the points and the weights of the line rule of order `n` on the
segment between two points, entry by entry and in order. -/
def FollowsSegment (gauss : LineFamily ℝ) (n : Nat) (ends : Point ℝ × Point ℝ)
    (c : Context ℝ) : Prop :=
  ∃ points weights : Tensor ℝ,
    Segment.rule? gauss (.ofPoint ends.1) (.ofPoint ends.2) (.int n) = .ok (points, weights) ∧
      points.shape = [n, 2] ∧ weights.shape = [n] ∧
      c.buffer .points = points ∧ c.buffer .weights = weights ∧
      ∀ q < n, c.quadraturePoint (.int q) = .ok ⟨points.value [q, 0], points.value [q, 1]⟩ ∧
        c.weight (.int q) = .ok (weights.value [q])

theorem followsSegment_of_mapping {c : Context ℝ} {p q : Point ℝ} (positive : 1 ≤ n)
    (found : gauss n = .ok r) (nodes : r.length = n) (ready : c.ready = true)
    (pointed : c.flags.has .points) (weighted : c.flags.has .weights)
    (points : c.mapping.points = Segment.pointsOf p q r)
    (weights : c.mapping.weights =
      r.map fun t => t.weight * (Point.scale Scalar.half (q - p)).norm) :
    c.FollowsSegment gauss n (p, q) := by
  have line := LineRule.ofOrder?_int positive found
  have ruled := Segment.rule?_ofPoint line p q
  rw [Segment.norm_ofPoint] at ruled
  have size : (Segment.pointsOf p q r).length = n := (List.length_map _).trans nodes
  refine ⟨_, _, ruled, ?_, ?_, ?_, ?_, fun k bound => ⟨?_, ?_⟩⟩
  · rw [← size]
    rfl
  · rw [← nodes, ← List.length_map]
    rfl
  · exact congrArg Tensor.ofPoints points
  · exact congrArg Tensor.ofList weights
  · have inside : k < (Segment.pointsOf p q r).length := size.symm ▸ bound
    obtain ⟨x, y⟩ := Tensor.value_ofPoints inside
    rw [x, y]
    exact read_point pointed ready (congrArg Tensor.ofPoints points) inside
  · have inside :
        k < (r.map fun t => t.weight * (Point.scale Scalar.half (q - p)).norm).length := by
      rwa [List.length_map, nodes]
    rw [Tensor.value_ofList inside]
    exact weight_eq_ok weights weighted ready inside

/-- On a face or on half of one, an evaluation takes the rule of the segment to the edge. -/
theorem call_followsSegment {placement : Placement ℝ} {requested : UpdateFlags} {c : Context ℝ}
    {V : Quad ℝ} (tol : Tolerances (Bound ℝ)) (onFace : placement.onFace)
    (size : placement.size = n) (positive : 1 ≤ n) (found : gauss n = .ok r)
    (nodes : r.length = n) (reached : IsReached placement requested c)
    (pointed : c.flags.has .points) (weighted : c.flags.has .weights)
    (solved : c.flags.has .values ∨ c.flags.has .gradients → V.IsAccepted tol none)
    (f : Face) (h : Half) :
    let evaluated := c.call tol gauss (.ofIntegers placement (.ok V) f.number h.number)
    let ends := placement.ends V f h
    evaluated.fault? = none ∧ evaluated.state.FollowsSegment gauss n ends ∧
      ((r.map (·.weight)).sum = 2 → evaluated.state.weightSum = (ends.2 - ends.1).norm) := by
  intro evaluated ends
  have sound := reached.isSound
  have line : LineRule.ofOrder? gauss (.int placement.size) = .ok r := by
    rw [size]
    exact LineRule.ofOrder?_int positive found
  obtain ⟨succeeded, mapping⟩ : evaluated.fault? = none ∧ evaluated.state.mapping =
      Mapping.written V (Rule.onFace f (placement.lineRule r h)) c.flags (some f) c.mapping :=
    call_onFace tol reached onFace line (by rw [size, nodes])
      (List.ne_nil_of_length_pos (nodes ▸ positive)) solved f h
  have points : evaluated.state.mapping.points = Segment.pointsOf ends.1 ends.2 r := by
    rw [mapping, Mapping.written, if_pos pointed]
    exact placement.pointsOf_lineRule V f h r
  have weights : evaluated.state.mapping.weights =
      r.map fun t => t.weight * (Point.scale Scalar.half (ends.2 - ends.1)).norm := by
    rw [mapping, Mapping.written, if_pos weighted]
    exact placement.lengthWeight_lineRule V f h r
  have flags : evaluated.state.flags = c.flags := (sound.hasPlanOf_reinit ..).flags
  refine ⟨succeeded, ?_, fun total => ?_⟩
  · exact followsSegment_of_mapping positive found nodes (ready_of_reinit succeeded)
      (flags ▸ pointed) (flags ▸ weighted) points weights
  · rw [weightSum, weights, Scalar.pairwiseSum_real, Segment.sum_weights total]

/-- On every cell a context on a face has the points and weights of the line rule on the edge that
the cell names, and a context on half of a face those of the line rule on that half of the edge.
The weights therefore add up to the length of the edge, and to half of it. -/
theorem follows_edges (n : Nat) (gauss : LineFamily ℝ) (r : LineRule ℝ) (cell : Cell ℝ)
    (tol : Tolerances (Bound ℝ)) (requested : UpdateFlags) (c d : Context ℝ) (f : Face) (h : Half)
    (positive : 1 ≤ n) (found : gauss n = .ok r) (nodes : r.length = n)
    (pointed : requested.has .points) (weighted : requested.has .weights)
    (onFace : IsReached (.face n) requested c) (onHalf : IsReached (.half n) requested d)
    (solved : (P1.resolve requested).has .values ∨ (P1.resolve requested).has .gradients →
      cell.vertices.IsAccepted tol none) :
    let face := c.call tol gauss (.ofIntegers (.face n) (.ok cell.vertices) f.number h.number)
    let half := d.call tol gauss (.ofIntegers (.half n) (.ok cell.vertices) f.number h.number)
    face.fault? = none ∧ half.fault? = none ∧
      ∃ edge piece, cell.face (.int f.number) = .ok edge ∧
        cell.half (.int f.number) (.int h.number) = .ok piece ∧
        face.state.FollowsSegment gauss n edge ∧ half.state.FollowsSegment gauss n piece ∧
        ((r.map (·.weight)).sum = 2 →
          face.state.weightSum = (edge.2 - edge.1).norm ∧
          half.state.weightSum = (edge.2 - edge.1).norm / 2) := by
  intro face half
  have sound := onFace.isSound
  have sound' := onHalf.isSound
  obtain ⟨first, whole, length⟩ := call_followsSegment tol rfl rfl positive found nodes onFace
    (sound.has_of_requested pointed) (sound.has_of_requested weighted) (sound.flags_eq ▸ solved) f h
  obtain ⟨second, part, length'⟩ := call_followsSegment tol rfl rfl positive found nodes onHalf
    (sound'.has_of_requested pointed) (sound'.has_of_requested weighted)
    (sound'.flags_eq ▸ solved) f h
  refine ⟨first, second, cell.vertices.face f, cell.vertices.half f h, ?_, ?_, whole, part,
    fun total => ⟨length total, ?_⟩⟩
  · rw [Cell.face, Face.ofNumber_number]
    rfl
  · rw [Cell.half, Half.ofNumber_number, Face.ofNumber_number]
    rfl
  · exact (length' total).trans (cell.vertices.norm_half f h)

/-- The top edge of a cell without area, and the half of it at the second end. -/
theorem follows_edges_flattened :
    let gauss : LineFamily ℝ := fun _ => .ok [⟨-(1 / Real.sqrt 3), 1⟩, ⟨1 / Real.sqrt 3, 1⟩]
    let cell : Cell ℝ := ⟨0, .flattened, []⟩
    let tol : Tolerances (Bound ℝ) := ⟨.number 0, .number 0, .number 0⟩
    ∃ c d : Context ℝ, (build (.face 2) (.ofList [.points, .weights])).outcome = .ok c ∧
      (build (.half 2) (.ofList [.points, .weights])).outcome = .ok d ∧
      (c.call tol gauss (.ofIntegers (.face 2) (.ok cell.vertices) 3 1)).fault? = none ∧
      (d.call tol gauss (.ofIntegers (.half 2) (.ok cell.vertices) 3 1)).fault? = none ∧
      ∃ edge piece, cell.face (.int 3) = .ok edge ∧ cell.half (.int 3) (.int 1) = .ok piece ∧
        (c.call tol gauss (.ofIntegers (.face 2) (.ok cell.vertices) 3 1)).state.weightSum =
          (edge.2 - edge.1).norm ∧
        (d.call tol gauss (.ofIntegers (.half 2) (.ok cell.vertices) 3 1)).state.FollowsSegment
          gauss 2 piece := by
  intro gauss cell tol
  obtain ⟨c, built⟩ : ∃ c : Context ℝ,
      (build (.face 2) (.ofList [.points, .weights])).outcome = .ok c := ⟨_, rfl⟩
  obtain ⟨d, built'⟩ : ∃ d : Context ℝ,
      (build (.half 2) (.ofList [.points, .weights])).outcome = .ok d := ⟨_, rfl⟩
  obtain ⟨first, second, edge, piece, named, named', -, part, length⟩ :=
    follows_edges 2 gauss _ cell tol (.ofList [.points, .weights]) c d .top .upper (by decide) rfl
      rfl (by decide) (by decide) ⟨c, built, .refl c⟩ ⟨d, built', .refl d⟩
      fun wanted => absurd wanted (by decide)
  exact ⟨c, d, built, built', first, second, edge, piece, named, named',
    (length (by norm_num)).1, part⟩

end Context
end NonconformingQuad
end
