import Mathlib.Analysis.SpecialFunctions.Log.Basic
import NonconformingQuad.Proofs.Basis.Evaluation
import NonconformingQuad.Proofs.Basis.StackAgreement
import NonconformingQuad.Proofs.Basis.StackInput
import NonconformingQuad.Proofs.Evaluation.Success

/-! A stack of cells and a context that is moved from cell to cell. The stack is mapped and
tabulated at once, the context writes one cell after the other into its own buffers, and a product
of matrices gives the values once more; entry by entry the three are the same. -/
noncomputable section
namespace NonconformingQuad

/-- At cell `e` and its `n` points the table holds what the context tells, and what the shape
functions of the cell have at the points of the context. -/
structure Stack.Tabulated.IsShownBy {K : Type} [Scalar K] (t : Tabulated K) (e n : Nat)
    (N : ShapeTable K) (c : Context K) : Prop where
  value : ∀ q < n, ∀ k : Corner,
    c.shapeValue (.int k.number) (.int q) = .ok (t.valueTensor.value [e, q, k.number])
  gradient : ∀ q < n, ∀ k : Corner, c.shapeGradient (.int k.number) (.int q) =
    .ok ⟨t.gradientTensor.value [e, q, k.number, 0], t.gradientTensor.value [e, q, k.number, 1]⟩
  product : ∃ E, Affine.evaluate N.toTensor (c.buffer .points) = .ok E ∧
    ∀ q < n, ∀ k : Corner, E.value [k.number, q] = t.valueTensor.value [e, q, k.number]

namespace Context
section Cell
variable {K : Type} [Scalar K] {tol : Tolerances (Bound K)} {gauss : LineFamily K}
  {requested : UpdateFlags} {rule : Rule K} {c : Context K} {V : Quad K}

/-- Inside a cell only the solver stops an evaluation. -/
theorem fault?_reinit_cell (reached : IsReached (.cell rule) requested c) (pointed : rule ≠ [])
    (values : requested.has .values) :
    (c.reinit tol gauss (.ok V) .none .none).fault? = (V.shapeTable tol none).fault? := by
  have valued := reached.isSound.has_of_requested values
  rw [fault?_reinit reached.isSound rfl pointed rfl rfl rfl, valued]
  rfl

variable {cells : List (Quad K)} {e : Nat}

theorem length_of_mem_mapPoints_rule :
    ∀ ps ∈ Stack.mapPoints cells rule.points, ps.length = rule.length :=
  fun ps member => (Stack.length_of_mem_mapPoints ps member).trans (List.length_map _)

theorem getElem_mapPoints (cell : e < cells.length)
    (mapped : e < (Stack.mapPoints cells rule.points).length) :
    (Stack.mapPoints cells rule.points)[e] = rule.points.map (Bilinear.mapPoint cells[e]) :=
  List.getElem_map _

/-- The points of a stack at one of its cells are those of a context that has gone there. -/
theorem points_agree (tol : Tolerances (Bound K)) (gauss : LineFamily K)
    (reached : IsReached (.cell rule) requested c) (pointed : rule ≠ [])
    (values : requested.has .values) (cell : e < cells.length) :
    let evaluated := c.reinit tol gauss (.ok cells[e]) .none .none
    let mapped := Stack.pointTensor rule.length (Stack.mapPoints cells rule.points)
    mapped.sub? [(e : Int)] = some (evaluated.state.buffer .points) ∧
      (evaluated.fault? = none → ∀ q < rule.length, evaluated.state.quadraturePoint (.int q) =
        .ok ⟨mapped.value [e, q, 0], mapped.value [e, q, 1]⟩) := by
  intro evaluated mapped
  have inside : e < (Stack.mapPoints cells rule.points).length :=
    cell.trans_eq (Stack.length_mapPoints ..).symm
  have held : evaluated.state.buffer .points =
      .ofPoints (Stack.mapPoints cells rule.points)[e] := by
    rw [getElem_mapPoints cell inside]
    exact congrArg Tensor.ofPoints (points_reinit_cell reached pointed values)
  refine ⟨?_, fun succeeded q bound => ?_⟩
  · rw [held]
    exact Stack.sub?_pointTensor length_of_mem_mapPoints_rule inside
  · have point : q < ((Stack.mapPoints cells rule.points)[e]).length := by
      rwa [length_of_mem_mapPoints_rule _ (List.getElem_mem inside)]
    have placed := reached.isSound.has_points (reached.isSound.has_of_requested values)
    have flags : evaluated.state.flags = c.flags := (reached.isSound.hasPlanOf_reinit ..).flags
    rw [Stack.value_pointTensor length_of_mem_mapPoints_rule inside point]
    exact read_point (flags ▸ placed) (ready_of_reinit succeeded) held point

/-- A table for a stack holds what a context tells after an evaluation on one of its cells. -/
theorem isShownBy_reinit (reached : IsReached (.cell rule) requested c) (pointed : rule ≠ [])
    (values : requested.has .values) (gradients : requested.has .gradients)
    (cell : e < cells.length)
    (succeeded : (c.reinit tol gauss (.ok cells[e]) .none .none).fault? = none) :
    (Stack.tabulate (cells.map Quad.coefficients)
        ⟨rule.length, Stack.mapPoints cells rule.points⟩).IsShownBy e rule.length
      cells[e].coefficients (c.reinit tol gauss (.ok cells[e]) .none .none).state := by
  have inside : e < (Stack.mapPoints cells rule.points).length :=
    cell.trans_eq (Stack.length_mapPoints ..).symm
  have each : (cells.map Quad.coefficients).length = (Stack.mapPoints cells rule.points).length :=
    (List.length_map _).trans (Stack.length_mapPoints ..).symm
  have placed : (c.reinit tol gauss (.ok cells[e]) .none .none).state.mapping.points =
      (Stack.mapPoints cells rule.points)[e] :=
    (points_reinit_cell reached pointed values).trans (getElem_mapPoints cell inside).symm
  have point {q : Nat} (bound : q < rule.length) :
      q < ((Stack.mapPoints cells rule.points)[e]).length := by
    rwa [length_of_mem_mapPoints_rule _ (List.getElem_mem inside)]
  have shapes {q : Nat} (bound : q < rule.length) (k : Corner) :=
    shapes_reinit_cell reached pointed values gradients succeeded
      (bound.trans_eq (List.length_map _).symm) k
  generalize (c.reinit tol gauss (.ok cells[e]) .none .none).state = d at *
  constructor
  · intro q bound k
    rw [(shapes bound k).1, Stack.value_valueTensor each length_of_mem_mapPoints_rule inside
      (point bound) k]
    simp only [getElem_mapPoints cell inside, List.getElem_map]
  · intro q bound k
    rw [Stack.value_gradientTensor each length_of_mem_mapPoints_rule inside (point bound) k,
      List.getElem_map]
    exact (shapes bound k).2
  · have held : d.buffer .points = .ofPoints (Stack.mapPoints cells rule.points)[e] :=
      congrArg Tensor.ofPoints placed
    rw [held]
    refine ⟨_, Affine.evaluate_toTensor _ _, fun q bound k => ?_⟩
    rw [Stack.value_valueTensor each length_of_mem_mapPoints_rule inside (point bound) k,
      List.getElem_map]
    exact P1.value_valuesAt_ofPoints _ k (point bound)

end Cell

/-- The stack and the context agree on the points, on the values, on the gradients, and on the
cells that have none. -/
theorem stack_agrees_with_context (cells : List (Quad ℝ)) (rule : Rule ℝ) (tol : Tolerances ℝ)
    (gauss : LineFamily ℝ) (requested : UpdateFlags) (c : Context ℝ) (pointed : rule ≠ [])
    (nonneg : 0 ≤ tol.degeneracy) (asked : requested.has .values ∧ requested.has .gradients)
    (reached : IsReached (.cell rule) requested c) :
    let evaluated (V : Quad ℝ) := c.reinit (tol.map .number) gauss (.ok V) .none .none
    ∃ mapped, Stack.mapPointsOn (Stack.vertexTensor cells) (.ok (.ofPoints rule.points)) =
        .ok mapped ∧ mapped.shape = [cells.length, rule.length, 2] ∧
      (∀ e (cell : e < cells.length),
        mapped.sub? [(e : Int)] = some ((evaluated cells[e]).state.buffer .points) ∧
        ((evaluated cells[e]).fault? = none → ∀ q < rule.length,
          (evaluated cells[e]).state.quadraturePoint (.int q) =
            .ok ⟨mapped.value [e, q, 0], mapped.value [e, q, 1]⟩)) ∧
      let stack := Stack.tabulateOn (tol.map .number) none (Stack.vertexTensor cells) (.ok mapped)
      ((∃ t, stack.outcome = .ok t) ∨ ∃ f, stack.outcome = .error f ∧ f.isDegeneracy) ∧
      ((∃ f, stack.outcome = .error f ∧ f.isDegeneracy) ↔
        ∃ V ∈ cells, ∃ f, (evaluated V).fault? = some f ∧ f.isDegeneracy) ∧
      ∀ t, stack.outcome = .ok t →
        t.valueTensor.shape = [cells.length, rule.length, 4] ∧
        t.gradientTensor.shape = [cells.length, rule.length, 4, 2] ∧
        ∀ e (cell : e < cells.length), (evaluated cells[e]).fault? = none ∧
          ∃ N, (cells[e].shapeTable (tol.map .number) none).outcome = .ok N ∧
            t.IsShownBy e rule.length N (evaluated cells[e]).state := by
  intro evaluated
  obtain ⟨values, gradients⟩ := asked
  have solver (V : Quad ℝ) :
      (evaluated V).fault? = (V.shapeTable (tol.map .number) none).fault? :=
    fault?_reinit_cell reached pointed values
  have count : rule.points.length = rule.length := List.length_map _
  have each : (cells.map Quad.coefficients).length = (Stack.mapPoints cells rule.points).length :=
    (List.length_map _).trans (Stack.length_mapPoints ..).symm
  refine ⟨Stack.pointTensor rule.length (Stack.mapPoints cells rule.points), ?_, ?_, ?_, ?_⟩
  · rw [Stack.mapPointsOn_vertexTensor, count]
  · simp [Stack.pointTensor, Stack.length_mapPoints, Tensor.stack]
  · exact fun e cell => points_agree (tol.map .number) gauss reached pointed values cell
  intro stack
  by_cases regular : ∀ V ∈ cells, V.IsAccepted (tol.map .number) none
  · have outcome : stack.outcome = .ok (Stack.tabulate (cells.map Quad.coefficients)
        ⟨rule.length, Stack.mapPoints cells rule.points⟩) :=
      Stack.tabulateOn_of_ok (@Stack.outcome_of_regular tol none cells nonneg regular)
        length_of_mem_mapPoints_rule each
    have succeeds (V : Quad ℝ) (member : V ∈ cells) : (evaluated V).fault? = none := by
      rw [solver]
      exact Run.fault?_eq_none_iff.mpr (regular V member)
    refine ⟨.inl ⟨_, outcome⟩, iff_of_false ?_ ?_, ?_⟩
    · rintro ⟨f, stopped, -⟩
      rw [outcome] at stopped
      cases stopped
    · rintro ⟨V, member, f, stopped, -⟩
      rw [succeeds V member] at stopped
      cases stopped
    · intro t returned
      obtain rfl := Except.ok.inj (outcome.symm.trans returned)
      refine ⟨?_, ?_, fun e cell => ?_⟩
      · simp [Stack.Tabulated.valueTensor, Stack.tabulate, Stack.length_mapPoints]
      · simp [Stack.Tabulated.gradientTensor, Stack.tabulate, Stack.length_mapPoints]
      · have succeeded := succeeds cells[e] (List.getElem_mem cell)
        obtain ⟨N, solved⟩ := regular cells[e] (List.getElem_mem cell)
        obtain rfl := Quad.eq_coefficients solved
        exact ⟨succeeded, _, solved,
          isShownBy_reinit reached pointed values gradients cell succeeded⟩
  · obtain ⟨V, member, refused⟩ : ∃ V ∈ cells, ¬V.IsAccepted (tol.map .number) none := by
      push Not at regular
      exact regular
    obtain ⟨bad, named⟩ := @Stack.outcome_of_degenerate tol none cells V nonneg member refused
    have outcome : stack.outcome = .error (.degenerateCells bad cells.length) :=
      Stack.tabulateOn_of_error _ named
    obtain ⟨f, stopped, degenerate⟩ := @Quad.refuses_of_not_isAccepted tol none V refused
    refine ⟨.inr ⟨_, outcome, rfl⟩,
      iff_of_true ⟨_, outcome, rfl⟩ ⟨V, member, f, ?_, degenerate⟩, ?_⟩
    · rw [solver]
      exact Run.fault?_eq_some_iff.mpr stopped
    · intro t returned
      rw [outcome] at returned
      cases returned

/-- Two cells, the second one turned over: what the stack has at the second cell is what a context
tells that goes there. -/
theorem stack_agrees_with_context_mirrored :
    let cells : List (Quad ℝ) := [.arrowhead, .mirrored]
    let rule : Rule ℝ := [⟨⟨0, 0⟩, 4⟩]
    let tol := (⟨0, 0, 0⟩ : Tolerances ℝ).map Bound.number
    ∃ c : Context ℝ, (build (.cell rule) (.ofList [.values, .gradients])).outcome = .ok c ∧
      ∃ mapped, Stack.mapPointsOn (Stack.vertexTensor cells) (.ok (.ofPoints rule.points)) =
          .ok mapped ∧
        ∃ t, (Stack.tabulateOn tol none (Stack.vertexTensor cells) (.ok mapped)).outcome = .ok t ∧
          (c.reinit tol (fun _ => .ok []) (.ok .mirrored) .none .none).state.shapeValue (.int 3)
            (.int 0) = .ok (t.valueTensor.value [1, 0, 3]) := by
  intro cells rule tol
  obtain ⟨c, built⟩ : ∃ c : Context ℝ, (build (.cell rule)
      (.ofList [.values, .gradients])).outcome = .ok c := ⟨_, rfl⟩
  obtain ⟨mapped, maps, -, -, returned, fails_iff, table⟩ := stack_agrees_with_context cells rule
    ⟨0, 0, 0⟩ (fun _ => .ok []) (.ofList [.values, .gradients]) c (List.cons_ne_nil _ _) le_rfl
    (by decide) ⟨c, built, .refl c⟩
  have accepted : ∀ V ∈ cells, V.IsAccepted tol none := by
    intro V member
    simp only [cells, List.mem_cons, List.not_mem_nil, or_false] at member
    obtain rfl | rfl := member
    · exact Quad.isAccepted_arrowhead
    · exact Quad.isAccepted_mirrored
  obtain ⟨t, outcome⟩ := returned.resolve_right fun fails => by
    obtain ⟨V, member, f, stopped, -⟩ := fails_iff.mp fails
    rw [fault?_reinit_cell ⟨c, built, .refl c⟩ (List.cons_ne_nil _ _) (by decide),
      Run.fault?_eq_none_iff.mpr (accepted V member)] at stopped
    cases stopped
  obtain ⟨-, -, each⟩ := table t outcome
  obtain ⟨-, N, -, shown⟩ := each 1 (by decide)
  exact ⟨c, built, mapped, maps, t, outcome, shown.value 0 (by decide) .topRight⟩

end Context
end NonconformingQuad
end
