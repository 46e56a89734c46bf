import Mathlib.Analysis.SpecialFunctions.Log.Basic
import NonconformingQuad.Proofs.Geometry.Normals
import NonconformingQuad.Proofs.Geometry.Numbering
import NonconformingQuad.Proofs.Outcome
import NonconformingQuad.Proofs.Summation
import NonconformingQuad.Proofs.Tensor.Broadcasting
import NonconformingQuad.Quadrature.Segment

/-! Line rules on segments of the plane. Two points are arrays of one axis; what is broadcast from
them is, point for point, the middle of the segment and half of it scaled by the node. An edge of a
cell and each half of it are such segments, so the rule of the segment is the rule of the reference
face mapped onto the cell. -/
noncomputable section
namespace NonconformingQuad

/-- A point as it is handed over. -/
def Nested.ofPoint {K : Type} (p : Point K) : Listing K :=
  .list [.number (.ok p.x), .number (.ok p.y)]

namespace Segment
open Tensor Index
variable {K : Type} [Scalar K] {gauss : LineFamily K} {r : LineRule K} {order : Literal}

omit [Scalar K] in
theorem tensor_ofPoint (p : Point K) :
    (Nested.ofPoint p).tensor = (.ok (ofPoint p) : Except (Fault K) (Tensor K)) := rfl

theorem ofPoint_eq_tabulate {p : Point K} {f : List Nat → K} (first : p.x = f [0])
    (second : p.y = f [1]) : ofPoint p = tabulate [2] f := by
  refine eq_tabulate rfl fun is within => ?_
  rcases is with _ | ⟨_ | _ | i, _ | _⟩
  · exact within.elim
  · exact first
  · exact within.2.elim
  · exact second
  · exact within.2.elim
  · exact absurd within.1 (by omega)
  · exact within.2.elim

omit [Scalar K] in
theorem map_tabulate {L : Type} (g : K → L) (shape : List Nat) (f : List Nat → K) :
    (tabulate shape f).map g = tabulate shape fun is => g (f is) := by
  simp only [Tensor.map, tabulate, Array.map_ofFn]
  rfl

/-- Half of the sum or of the difference of two points. -/
theorem zipWith?_ofPoint (f : K → K → K) (p q : Point K) :
    (zipWith? f (ofPoint p) (ofPoint q)).map (Tensor.map (Scalar.half * ·)) =
      some (ofPoint (Point.scale Scalar.half ⟨f p.x q.x, f p.y q.y⟩)) := by
  have common : zipWith? f (ofPoint p) (ofPoint q) =
      some (tabulate [2] fun is => f ((ofPoint p).value is) ((ofPoint q).value is)) :=
    zipWith?_vector f rfl rfl
  rw [common, Option.map_some, map_tabulate]
  exact congrArg some (ofPoint_eq_tabulate rfl rfl).symm

/-- The points of a segment that belong to the nodes of a rule. -/
def pointsOf (p q : Point K) (r : LineRule K) : List (Point K) :=
  r.map fun t => Point.midpoint p q + Point.scale t.node (Point.scale Scalar.half (q - p))

/-- The middle of a segment, moved along it by each node of a rule. -/
theorem zipWith?_nodes (middle half : Point K) (r : LineRule K) :
    let nodes : Tensor K := tabulate [r.length, 1] fun is =>
      (r[is.getD 0 0]?.map (·.node)).getD 0
    ∃ along, zipWith? (· * ·) nodes (ofPoint half).leadingAxis = some along ∧
      zipWith? (· + ·) (ofPoint middle).leadingAxis along =
        some (ofPoints (r.map fun t => middle + Point.scale t.node half)) := by
  intro nodes
  refine ⟨_, zipWith?_outer (m := r.length) (n := 2) (· * ·) rfl rfl, ?_⟩
  rw [zipWith?_row (m := r.length) (n := 2) (· + ·) rfl rfl]
  refine congrArg some (eq_tabulate (by simp [ofPoints]) fun is within => ?_).symm
  obtain ⟨i, j, rfl, first, second⟩ := exists_of_within_two within
  have inside : Within [r.length, 1] [i, 0] := ⟨first, Nat.one_pos, trivial⟩
  have node : nodes.value [i, 0] = r[i].node := by
    rw [value_tabulate _ inside]
    simp [first]
  have bound : i < (r.map fun t => middle + Point.scale t.node half).length := by simpa using first
  obtain ⟨x, y⟩ := value_ofPoints bound
  rw [List.getElem_map] at x y
  rw [value_tabulate _ within]
  simp only [List.getD_cons_zero, List.getD_cons_succ, node, value_leadingAxis]
  rcases j with _ | _ | j
  · exact x
  · exact y
  · omega

theorem rule?_ofPoint (line : LineRule.ofOrder? gauss order = .ok r) (p q : Point K) :
    rule? gauss (.ofPoint p) (.ofPoint q) order =
      .ok (ofPoints (pointsOf p q r),
        ofList (r.map fun t => t.weight * norm (ofPoint (Point.scale Scalar.half (q - p))))) := by
  have middle := zipWith?_ofPoint (· + ·) p q
  have half := zipWith?_ofPoint (· - ·) q p
  obtain ⟨along, stretched, moved⟩ :=
    zipWith?_nodes (Point.midpoint p q) (Point.scale Scalar.half (q - p)) r
  have axes : ¬((ofPoint (Point.midpoint p q)).rank = 0 ∨
      (ofPoint (Point.midpoint p q)).rank = Nested.maxAxes) := by
    simp [rank, ofPoint, ofList, Nested.maxAxes]
  have given {array? : Option (Tensor K)} {t : Tensor K} (found : array? = some t) :
      array?.elim (.error (.misuse .shapesDiffer)) .ok = (.ok t : Except (Fault K) (Tensor K)) := by
    rw [found]
    rfl
  rw [rule?]
  simp only [Outcome.bind_eq_ok_iff]
  refine ⟨r, line, _, tensor_ofPoint p, _, tensor_ofPoint q, ofPoint (Point.midpoint p q),
    given middle, ofPoint (Point.scale Scalar.half (q - p)), given half, ?_⟩
  rw [if_neg axes]
  simp only [Outcome.bind_eq_ok_iff]
  exact ⟨along, given stretched, _, given moved, rfl⟩

/-- Over the reals the length of an array of two entries is that of the vector. -/
theorem norm_ofPoint (v : Point ℝ) : norm (ofPoint v) = v.norm := by
  have squares : Scalar.sum ((ofPoint v).entries.toList.map fun x => x * x) = Point.dot v v := by
    rw [Scalar.sum_real]
    simp [ofPoint, ofList, Point.dot]
  rw [norm, squares, Point.norm]

theorem sum_weights {r : LineRule ℝ} (total : (r.map (·.weight)).sum = 2) (p q : Point ℝ) :
    (r.map fun t => t.weight * (Point.scale Scalar.half (q - p)).norm).sum = (q - p).norm := by
  rw [List.sum_map_mul_right, total, Point.norm_scale, Scalar.half_real, abs_of_pos one_half_pos]
  ring

end Segment

namespace Quad
variable (V : Quad ℝ) (f : Face) (h : Half) (r : LineRule ℝ)

/-- The reference face, mapped onto the cell, is the edge between its two vertices. -/
theorem pointsOf_onFace :
    Mapping.pointsOf V (Rule.onFace f r) = Segment.pointsOf (V.face f).1 (V.face f).2 r := by
  rw [Mapping.pointsOf, Rule.onFace, List.map_map]
  refine List.map_congr_left fun t _ => ?_
  exact V.mapPoint_pointAt f t.node

theorem lengthWeight_onFace :
    (Rule.onFace f r).map (Mapping.lengthWeight V f) = r.map fun t =>
      t.weight * (Point.scale Scalar.half ((V.face f).2 - (V.face f).1)).norm := by
  rw [Rule.onFace, List.map_map]
  refine List.map_congr_left fun t _ => ?_
  have tangent : Mapping.tangentAt V f (f.pointAt t.node) = V.halfEdge f :=
    V.along_tangent f t.node
  simp only [Function.comp_apply, Mapping.lengthWeight, tangent]
  exact mul_comm _ _

/-- Each half of an edge is half of it as a vector. -/
theorem half_snd_sub_fst : (V.half f h).2 - (V.half f h).1 = V.halfEdge f := by
  cases h <;> apply Point.ext <;>
    simp only [half, halfEdge, Point.scale, Point.sub_x, Point.sub_y, edgeMidpoint_x,
      edgeMidpoint_y, Scalar.half_real] <;>
    ring

/-- The reference half, mapped onto the cell, is the half of the edge at the same end. -/
theorem pointsOf_onHalf :
    Mapping.pointsOf V (Rule.onFace f (r.onHalf h)) =
      Segment.pointsOf (V.half f h).1 (V.half f h).2 r := by
  rw [Mapping.pointsOf, Rule.onFace, LineRule.onHalf.eq_def, List.map_map, List.map_map]
  refine List.map_congr_left fun t _ => ?_
  simp only [Function.comp_apply, mapPoint_pointAt, half_snd_sub_fst]
  cases h <;> apply Point.ext <;>
    simp only [half, halfEdge, Point.midpoint, Point.scale, Point.add_x, Point.add_y, Point.sub_x,
      Point.sub_y, edgeMidpoint_x, edgeMidpoint_y, Scalar.half_real] <;>
    ring

theorem lengthWeight_onHalf :
    (Rule.onFace f (r.onHalf h)).map (Mapping.lengthWeight V f) = r.map fun t =>
      t.weight * (Point.scale Scalar.half ((V.half f h).2 - (V.half f h).1)).norm := by
  rw [lengthWeight_onFace, LineRule.onHalf.eq_def, List.map_map, half_snd_sub_fst]
  refine List.map_congr_left fun t _ => ?_
  rw [Point.norm_scale _ (V.halfEdge f), Scalar.half_real, abs_of_pos one_half_pos]
  simp only [Function.comp_apply, face, halfEdge, Scalar.half_real]
  ring

theorem norm_half : ((V.half f h).2 - (V.half f h).1).norm =
    ((V.face f).2 - (V.face f).1).norm / 2 := by
  rw [half_snd_sub_fst, halfEdge, Point.norm_scale, Scalar.half_real, abs_of_pos one_half_pos, face]
  ring

end Quad
end NonconformingQuad
end
