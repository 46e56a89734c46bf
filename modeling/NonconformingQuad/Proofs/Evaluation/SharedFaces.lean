import Mathlib.Analysis.SpecialFunctions.Log.Basic
import NonconformingQuad.Proofs.Evaluation.EdgeRules
import NonconformingQuad.Proofs.Evaluation.OutwardNormals
import NonconformingQuad.Proofs.Mesh.PlacedGrid

/-! Two contexts on the two sides of a face. In a structured grid both cells see their common edge
from the same end, though as opposite faces of theirs. So the points of a rule come in the same
order on both sides and weigh the same, and only the turn from the edge to the outside differs. -/
noncomputable section
namespace NonconformingQuad

theorem Face.turn_opposite (f : Face) : (f.opposite.turn : ℝ) = -f.turn := by
  cases f with
  | left | top => rfl
  | right | bottom => exact (neg_neg 1).symm

namespace Quad
variable {V W : Quad ℝ} {f g : Face}

theorem half_congr (same : W.face g = V.face f) (h : Half) : W.half g h = V.half f h := by
  obtain ⟨first, second⟩ := Prod.ext_iff.mp same
  simp only [face] at first second
  cases h with
  | lower => simp only [half, edgeMidpoint, first, second]
  | upper => simp only [half, edgeMidpoint, first, second]

theorem halfEdge_congr (same : W.face g = V.face f) : W.halfEdge g = V.halfEdge f := by
  obtain ⟨first, second⟩ := Prod.ext_iff.mp same
  simp only [face] at first second
  rw [halfEdge, halfEdge, first, second]

/-- What is outside for one cell is inside for the other. -/
theorem outward_opposite (same : W.face f.opposite = V.face f) :
    W.outward f.opposite = ⟨-(V.outward f).x, -(V.outward f).y⟩ := by
  simp only [outward, Face.turn_opposite, halfEdge_congr same, Point.scale]
  apply Point.ext
  · exact neg_mul _ _
  · exact neg_mul _ _

end Quad

theorem Placement.ends_congr {V W : Quad ℝ} {f g : Face} (placement : Placement ℝ)
    (same : W.face g = V.face f) (h : Half) : placement.ends W g h = placement.ends V f h := by
  cases placement with
  | half order => exact Quad.half_congr same h
  | cell rule => exact same
  | face order => exact same

namespace Context
variable {gauss : LineFamily ℝ} {n : Nat} {r : LineRule ℝ} {placement : Placement ℝ}
  {requested : UpdateFlags} {c d : Context ℝ} {V W : Quad ℝ} {f : Face}

/-- Point by point and in order, both contexts tell the same points and weights, and opposite
normals. -/
def MeetsAcross (n : Nat) (c d : Context ℝ) : Prop :=
  ∀ q < n, ∃ (p : Point ℝ) (w : ℝ) (v : Point ℝ),
    c.quadraturePoint (.int q) = .ok p ∧ d.quadraturePoint (.int q) = .ok p ∧
      c.weight (.int q) = .ok w ∧ d.weight (.int q) = .ok w ∧
      c.normal (.int q) = .ok v ∧ d.normal (.int q) = .ok ⟨-v.x, -v.y⟩

theorem FollowsSegment.same {ends : Point ℝ × Point ℝ} {q : Nat}
    (first : c.FollowsSegment gauss n ends) (second : d.FollowsSegment gauss n ends)
    (bound : q < n) :
    ∃ p w, c.quadraturePoint (.int q) = .ok p ∧ d.quadraturePoint (.int q) = .ok p ∧
      c.weight (.int q) = .ok w ∧ d.weight (.int q) = .ok w := by
  obtain ⟨points, weights, ruled, -, -, -, -, told⟩ := first
  obtain ⟨points', weights', ruled', -, -, -, -, told'⟩ := second
  obtain ⟨rfl, rfl⟩ : points = points' ∧ weights = weights' :=
    Prod.mk.inj (Except.ok.inj (ruled.symm.trans ruled'))
  exact ⟨_, _, (told q bound).1, (told' q bound).1, (told q bound).2, (told' q bound).2⟩

theorem call_meetsAcross (tol : Tolerances (Bound ℝ)) (positive : 1 ≤ n)
    (placed : placement = .face n ∨ placement = .half n) (found : gauss n = .ok r)
    (nodes : r.length = n) (within : ∀ p ∈ r, -1 ≤ p.node ∧ p.node ≤ 1)
    (near : IsReached placement requested c) (far : IsReached placement requested d)
    (pointed : requested.has .points) (normals : requested.has .normals)
    (convex : V.TurnsLeft ∧ W.TurnsLeft)
    (solved : (P1.resolve requested).has .values ∨ (P1.resolve requested).has .gradients →
      V.IsAccepted tol none ∧ W.IsAccepted tol none)
    (same : W.face f.opposite = V.face f) (h : Half) :
    let here := c.call tol gauss (.ofIntegers placement (.ok V) f.number h.number)
    let there := d.call tol gauss (.ofIntegers placement (.ok W) f.opposite.number h.number)
    here.fault? = none ∧ there.fault? = none ∧ here.state.MeetsAcross n there.state := by
  intro here there
  have sound := near.isSound
  have sound' := far.isSound
  obtain ⟨onFace, size⟩ : placement.onFace ∧ placement.size = n := by
    obtain rfl | rfl := placed <;> exact ⟨rfl, rfl⟩
  have solved_near : c.flags.has .values ∨ c.flags.has .gradients → V.IsAccepted tol none :=
    fun asked => (solved (sound.flags_eq ▸ asked)).1
  have solved_far : d.flags.has .values ∨ d.flags.has .gradients → W.IsAccepted tol none :=
    fun asked => (solved (sound'.flags_eq ▸ asked)).2
  obtain ⟨-, points, -⟩ := call_followsSegment tol onFace size positive found nodes near
    (sound.has_of_requested pointed) (sound.has_weights (sound.has_of_requested normals))
    solved_near f h
  obtain ⟨-, points', -⟩ := call_followsSegment tol onFace size positive found nodes far
    (sound'.has_of_requested pointed) (sound'.has_weights (sound'.has_of_requested normals))
    solved_far f.opposite h
  obtain ⟨succeeded, told⟩ := call_normal tol positive placed found nodes within
    convex.1.hasOrientation near normals solved_near f h
  obtain ⟨succeeded', told'⟩ := call_normal tol positive placed found nodes within
    convex.2.hasOrientation far normals solved_far f.opposite h
  rw [placement.ends_congr same] at points'
  rw [Quad.halfEdge_congr same, Quad.outward_opposite same] at told'
  refine ⟨succeeded, succeeded', fun q bound => ?_⟩
  obtain ⟨p, w, point, point', weight, weight'⟩ := points.same points' bound
  refine ⟨p, w, _, point, point', weight, weight', told q bound, ?_⟩
  rw [told' q bound]
  simp only [Point.scale, mul_neg]

/-- Across a face of a mesh with the cells of a structured grid, wherever its nodes lie: both cells
have the same points in the same order, with the same weights, and opposite normals. -/
theorem meetsAcross_neighbor (g : Grid ℝ) (m : Mesh ℝ) (n : Nat) (gauss : LineFamily ℝ)
    (r : LineRule ℝ) (placement : Placement ℝ) (tol : Tolerances (Bound ℝ))
    (requested : UpdateFlags) (c d : Context ℝ) (number : Nat) (f : Face) (o : Owner) (h : Half)
    (cells : m.cells = g.cells) (count : (g.columns + 1) * (g.rows + 1) ≤ m.nodes.length)
    (positive : 1 ≤ n) (placed : placement = .face n ∨ placement = .half n)
    (found : gauss n = .ok r) (nodes : r.length = n) (within : ∀ p ∈ r, -1 ≤ p.node ∧ p.node ≤ 1)
    (near : IsReached placement requested c) (far : IsReached placement requested d)
    (pointed : requested.has .points) (normals : requested.has .normals)
    (neighbor : m.neighbor number f.number = .ok (some o))
    (convex : ∀ cell, m.cell number = .ok cell ∨ m.cell o.cell = .ok cell →
      cell.vertices.TurnsLeft)
    (solved : ∀ cell, m.cell number = .ok cell ∨ m.cell o.cell = .ok cell →
      (P1.resolve requested).has .values ∨ (P1.resolve requested).has .gradients →
      cell.vertices.IsAccepted tol none) :
    ∃ cell other, m.cell number = .ok cell ∧ m.cell o.cell = .ok other ∧
      let here := c.call tol gauss (.ofIntegers placement (.ok cell.vertices) f.number h.number)
      let there := d.call tol gauss
        (.ofIntegers placement (.ok other.vertices) o.face.number h.number)
      here.fault? = none ∧ there.fault? = none ∧ here.state.MeetsAcross n there.state := by
  obtain ⟨P, at_nodes⟩ := Grid.exists_isPlacedAt cells count
  obtain ⟨corners, -, listed, -⟩ := Mesh.key_of_neighbor neighbor
  have box : g.cells[number]? = some corners := cells ▸ Mesh.getElem?_of_entry listed
  obtain ⟨i, j, column, row, rfl, -⟩ := Grid.exists_box box
  rw [at_nodes.neighbor column row, Except.ok.injEq, Grid.across, Option.map_eq_some_iff]
    at neighbor
  obtain ⟨b, next, rfl⟩ := neighbor
  obtain ⟨column', row'⟩ := Grid.beside_lt column row next
  have here := at_nodes.cell column row
  have there := at_nodes.cell column' row'
  refine ⟨_, _, here, there, ?_⟩
  exact call_meetsAcross tol positive placed found nodes within near far pointed normals
    ⟨convex _ (.inl here), convex _ (.inr there)⟩
    (fun asked => ⟨solved _ (.inl here) asked, solved _ (.inr there) asked⟩)
    (Grid.face_ofBox next) h

/-- Two boxes side by side, with the upper end of their common edge pulled up. -/
def tent : Mesh ℝ :=
  .ofCells [⟨-1, -1⟩, ⟨0, -1⟩, ⟨1, -1⟩, ⟨-1, 0⟩, ⟨0, 1⟩, ⟨1, 0⟩]
    (Grid.cells ⟨2, 1, (1 : ℝ), 1, none⟩)

theorem turnsLeft_tent (cell : Cell ℝ)
    (found : tent.cell (0 : Nat) = .ok cell ∨ tent.cell (1 : Nat) = .ok cell) :
    cell.vertices.TurnsLeft := by
  have left : tent.cell (0 : Nat) =
      .ok ⟨(0 : Nat), .of ⟨-1, -1⟩ ⟨0, -1⟩ ⟨-1, 0⟩ ⟨0, 1⟩, [0, 1, 3, 4]⟩ := rfl
  have right : tent.cell (1 : Nat) =
      .ok ⟨(1 : Nat), .of ⟨0, -1⟩ ⟨1, -1⟩ ⟨0, 1⟩ ⟨1, 0⟩, [1, 2, 4, 5]⟩ := rfl
  obtain rfl | rfl := found.imp (fun found => Except.ok.inj (left.symm.trans found))
      fun found => Except.ok.inj (right.symm.trans found)
  all_goals
    intro k
    rw [Jacobian.determinant_real]
    cases k <;> norm_num [Quad.of, Point.cross, Reference.jacobian, Reference.vertex,
      Reference.grad, Reference.corner, Reference.unit, Corner.sum]

theorem meetsAcross_neighbor_tent :
    let tol : Tolerances (Bound ℝ) := ⟨.number 0, .number 0, .number 0⟩
    let gauss : LineFamily ℝ := fun _ => .ok [⟨0, 2⟩]
    ∃ c : Context ℝ, (build (.half 1) (.ofList [.points, .normals])).outcome = .ok c ∧
      ∃ cell other, tent.cell (0 : Nat) = .ok cell ∧ tent.cell (1 : Nat) = .ok other ∧
        let here := c.call tol gauss (.ofIntegers (.half 1) (.ok cell.vertices) 1 1)
        let there := c.call tol gauss (.ofIntegers (.half 1) (.ok other.vertices) 0 1)
        here.fault? = none ∧ there.fault? = none ∧ here.state.MeetsAcross 1 there.state := by
  intro tol gauss
  obtain ⟨c, built⟩ : ∃ c : Context ℝ,
      (build (.half 1) (.ofList [.points, .normals])).outcome = .ok c := ⟨_, rfl⟩
  have within : ∀ p ∈ ([⟨0, 2⟩] : LineRule ℝ), -1 ≤ p.node ∧ p.node ≤ 1 := by
    intro p member
    rw [List.mem_singleton.mp member]
    norm_num
  have reached : IsReached (.half 1) (.ofList [.points, .normals]) c := ⟨c, built, .refl c⟩
  exact ⟨c, built, meetsAcross_neighbor ⟨2, 1, 1, 1, none⟩ tent 1 gauss [⟨0, 2⟩] (.half 1) tol
    (.ofList [.points, .normals]) c c 0 .right ⟨1, .left⟩ .upper rfl (by decide) (by decide)
    (.inr rfl) rfl rfl within reached reached (by decide) (by decide) rfl turnsLeft_tent
    fun _ _ asked => absurd asked (by decide)⟩

end Context
end NonconformingQuad
end
