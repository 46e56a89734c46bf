import Mathlib.Analysis.SpecialFunctions.Log.Basic
import NonconformingQuad.Mesh.Input
import NonconformingQuad.Proofs.Evaluation.FaceMidpoint
import NonconformingQuad.Proofs.Mesh.Lookup

/-! Continuity at the middle of a face. Functions of the element are not continuous from cell
to cell; but two cells that share a face see the same function at its midpoint, because each
of them sees the average of the same two node values. Local numbers and directions of the
face do not matter: an average forgets them. -/
noncomputable section
namespace NonconformingQuad

/-- The value that the constraints give to the middle of a face is the average of the ends. -/
theorem P1.applyConstraints_pair (x y : ℝ) :
    applyConstraints (.ofList [x, y]) = .ok (.tabulate [1] fun _ => (x + y) / 2) := by
  have product : (constraints (K := ℝ)).matmul? (.ofList [x, y]) = some (.tabulate [1] fun _ =>
      Tensor.sumUpTo 2 fun l => constraints.value [0, l] * (Tensor.ofList [x, y]).value [l]) :=
    Tensor.matmul?_column rfl rfl
  have sum : (Tensor.sumUpTo 2 fun l => constraints.value [0, l] * (Tensor.ofList [x, y]).value [l])
      = (x + y) / 2 := by
    change Scalar.half * x + Scalar.half * y = (x + y) / 2
    rw [Scalar.half_real]
    ring
  rw [sum] at product
  have shape : (Tensor.ofList [x, y]).shape = [dofsPerFace] := rfl
  simp only [applyConstraints, shape, product, if_true]

namespace Mesh
variable {m : Mesh ℝ} {nodes other : CellNodes} {V W : Quad ℝ} {f g : Face}

theorem edgeMidpoint_of_key (first : m.verticesOf nodes = .ok V)
    (second : m.verticesOf other = .ok W) (same : other.key g = nodes.key f) :
    W.edgeMidpoint g = V.edgeMidpoint f := by
  rw [verticesOf_eq_ok_iff] at first second
  have position {k l : Corner} (node : other k = nodes l) : W k = V l :=
    Except.ok.inj ((second k).symm.trans (node ▸ first l))
  obtain ⟨low, high⟩ | ⟨low, high⟩ := FaceKey.between_eq_iff.mp same
  · simp only [Quad.edgeMidpoint, position low, position high]
  · simp only [Quad.edgeMidpoint, position low, position high]
    exact Point.midpoint_comm _ _

theorem average_of_key (u : Int → ℝ) (same : other.key g = nodes.key f) :
    u (other g.first) + u (other g.second) = u (nodes f.first) + u (nodes f.second) := by
  obtain ⟨low, high⟩ | ⟨low, high⟩ := FaceKey.between_eq_iff.mp same
  · rw [low, high]
  · rw [low, high, add_comm]

/-- Both sides of a shared face have the same point and the same value there, which is the one
that the constraints make from the values at the two end nodes. -/
theorem continuous_at_faceMidpoint (tol : Tolerances ℝ) (gauss : LineFamily ℝ) (m : Mesh ℝ)
    (u : Int → ℝ) (requested : UpdateFlags) (c d : Context ℝ) (number : Int) (f : Face) (o : Owner)
    (midpoint : gauss 1 = .ok [⟨0, 2⟩]) (nonneg : 0 ≤ tol.degeneracy)
    (inRange : ∀ nodes ∈ m.cells, ∀ k, -(m.nodes.length : Int) ≤ nodes k ∧ nodes k < m.nodes.length)
    (accepted : ∀ i cell, m.cell i = .ok cell → cell.vertices.IsAccepted (tol.map .number) none)
    (values : requested.has .values) (near : Context.IsReached (.face 1) requested c)
    (far : Context.IsReached (.face 1) requested d)
    (neighbor : m.neighbor number f.number = .ok (some o)) :
    ∃ cell other i j p t, m.cell number = .ok cell ∧ m.cell o.cell = .ok other ∧
      cell.nodes[f.first.number]? = some i ∧ cell.nodes[f.second.number]? = some j ∧
      let here := c.reinit (tol.map .number) gauss (.ok cell.vertices) (.int f.number) .none
      let there := d.reinit (tol.map .number) gauss (.ok other.vertices) (.int o.face.number) .none
      here.fault? = none ∧ there.fault? = none ∧
      here.state.quadraturePoint (.int 0) = .ok p ∧ there.state.quadraturePoint (.int 0) = .ok p ∧
      here.state.functionValues (.ofList (cell.nodes.map u)) = .ok t ∧
      there.state.functionValues (.ofList (other.nodes.map u)) = .ok t ∧
      P1.applyConstraints (.ofList [u i, u j]) = .ok t := by
  obtain ⟨nodes, others, row, place, ends, _⟩ := key_of_neighbor neighbor
  have row' : entry (K := ℝ) m.cells o.cell = .ok others := entry_natCast place
  obtain ⟨V, first⟩ := exists_verticesOf (inRange nodes (mem_of_entry row))
  obtain ⟨W, second⟩ := exists_verticesOf (inRange others (mem_of_entry row'))
  have here := cell_eq_ok_iff.mpr ⟨nodes, V, row, first, rfl⟩
  have there := cell_eq_ok_iff.mpr ⟨others, W, row', second, rfl⟩
  have corner (nodes : CellNodes) (k : Corner) :
      (Corner.all.map nodes)[k.number]? = some (nodes k) := by
    cases k <;> rfl
  obtain ⟨done, point, value⟩ := Context.reinit_faceMidpoint midpoint nonneg values near
    (accepted _ _ here) f fun k => u (nodes k)
  obtain ⟨done', point', value'⟩ := Context.reinit_faceMidpoint midpoint nonneg values far
    (accepted _ _ there) o.face fun k => u (others k)
  rw [edgeMidpoint_of_key first second ends] at point'
  rw [average_of_key u ends] at value'
  exact ⟨_, _, nodes f.first, nodes f.second, V.edgeMidpoint f, _, here, there, corner nodes _,
    corner nodes _, done, done', point, point', value, value', P1.applyConstraints_pair _ _⟩

/-- Two squares side by side. The second one is turned: the edge that is the right one of the
first square is its bottom edge, and runs the other way. -/
def hinge : Mesh ℝ :=
  .ofCells [⟨-1, 0⟩, ⟨0, 0⟩, ⟨-1, 1⟩, ⟨0, 1⟩, ⟨1, 0⟩, ⟨1, 1⟩]
    (cellRows [0, 1, 2, 3, 3, 1, 5, 4])

theorem inRange_hinge : ∀ nodes ∈ hinge.cells, ∀ k,
    -(hinge.nodes.length : Int) ≤ nodes k ∧ nodes k < hinge.nodes.length := by
  intro nodes listed k
  rcases listed with _ | ⟨_, _ | ⟨_, ⟨⟩⟩⟩ <;> cases k <;> decide

theorem isAccepted_hinge (i : Int) (cell : Cell ℝ) (found : hinge.cell i = .ok cell) :
    cell.vertices.IsAccepted ((⟨0, 0, 0⟩ : Tolerances ℝ).map .number) none := by
  obtain ⟨nodes, V, row, vertices, rfl⟩ := cell_eq_ok_iff.mp found
  rw [Quad.isAccepted_exact_iff]
  have square : V = .of ⟨-1, 0⟩ ⟨0, 0⟩ ⟨-1, 1⟩ ⟨0, 1⟩ ∨ V = .of ⟨0, 1⟩ ⟨0, 0⟩ ⟨1, 1⟩ ⟨1, 0⟩ := by
    rcases mem_of_entry row with _ | ⟨_, _ | ⟨_, ⟨⟩⟩⟩
    · exact .inl (Except.ok.inj vertices).symm
    · exact .inr (Except.ok.inj vertices).symm
  rcases square with rfl | rfl <;> norm_num [Quad.midlineDeterminant_eq, Quad.of]

theorem continuous_at_faceMidpoint_hinge :
    ∃ (c : Context ℝ) (cell other : Cell ℝ) (p : Point ℝ) (t : Tensor ℝ),
      hinge.cell 0 = .ok cell ∧ hinge.cell 1 = .ok other ∧
      let here := c.reinit ⟨.number 0, .number 0, .number 0⟩ (fun _ => .ok [⟨0, 2⟩])
        (.ok cell.vertices) (.int 1) .none
      let there := c.reinit ⟨.number 0, .number 0, .number 0⟩ (fun _ => .ok [⟨0, 2⟩])
        (.ok other.vertices) (.int 2) .none
      here.state.quadraturePoint (.int 0) = .ok p ∧ there.state.quadraturePoint (.int 0) = .ok p ∧
      here.state.functionValues (.ofList (cell.nodes.map fun i : Int => (i : ℝ))) = .ok t ∧
      there.state.functionValues (.ofList (other.nodes.map fun i : Int => (i : ℝ))) = .ok t := by
  obtain ⟨b, built⟩ : ∃ b : Context ℝ,
      (Context.build (.face 1) (.only .values)).outcome = .ok b := ⟨_, rfl⟩
  have reached : Context.IsReached (.face 1) (.only .values) b := ⟨b, built, .refl b⟩
  obtain ⟨cell, other, _, _, p, t, first, second, _, _, _, _, here, there, value, value', _⟩ :=
    continuous_at_faceMidpoint ⟨0, 0, 0⟩ (fun _ => .ok [⟨0, 2⟩]) hinge (fun i => (i : ℝ)) _ b b
      0 .right ⟨1, .bottom⟩ rfl le_rfl inRange_hinge isAccepted_hinge (by decide) reached reached
      rfl
  exact ⟨b, cell, other, p, t, first, second, here, there, value, value'⟩

end Mesh
end NonconformingQuad
end
