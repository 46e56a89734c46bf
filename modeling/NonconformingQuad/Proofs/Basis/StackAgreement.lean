import Mathlib.Analysis.SpecialFunctions.Log.Basic
import Mathlib.Data.List.Forall2
import NonconformingQuad.Basis.Stack
import NonconformingQuad.Proofs.Basis.Acceptance
import NonconformingQuad.Proofs.Geometry.Midlines

/-! A stack of cells is judged cell by cell. The formulas of the stack are those of the solver
written out in coordinates; a cell that they leave without a table has a sine of zero, which no
threshold lets pass. So the stack has shape functions exactly when every cell has, they are the
same functions, and the cells that it names are those that are refused or reported alone. -/
noncomputable section
namespace NonconformingQuad.Stack
open Scalar

/-- The positions of the items with a property, in ascending order and without repetition. -/
def ArePositions {α : Type} (P : α → Prop) (xs : List α) (is : List Nat) : Prop :=
  is.Pairwise (· < ·) ∧ ∀ i, i ∈ is ↔ ∃ x, xs[i]? = some x ∧ P x

theorem arePositions_positions {α β : Type} {P : α → Prop} {test : β → Bool} {f : α → β}
    (decides : ∀ x, test (f x) = true ↔ P x) (xs : List α) :
    ArePositions P xs (positions test (xs.map f)) := by
  constructor
  · exact List.pairwise_lt_range.filter _
  · intro i
    simp only [positions, List.mem_filter, List.mem_range, List.length_map, List.getElem?_map,
      Option.any_map, Option.any_eq_true, decides]
    constructor
    · rintro ⟨_, x, found, holds⟩
      exact ⟨x, found, holds⟩
    · rintro ⟨x, found, holds⟩
      exact ⟨(List.getElem?_eq_some_iff.mp found).1, x, found, holds⟩

theorem ArePositions.congr {α : Type} {P Q : α → Prop} {xs : List α} {is : List Nat}
    (positions : ArePositions P xs is) (same : ∀ x ∈ xs, P x ↔ Q x) : ArePositions Q xs is := by
  refine ⟨positions.1, fun i => (positions.2 i).trans ?_⟩
  constructor
  · rintro ⟨x, found, holds⟩
    exact ⟨x, found, (same x (List.mem_of_getElem? found)).mp holds⟩
  · rintro ⟨x, found, holds⟩
    exact ⟨x, found, (same x (List.mem_of_getElem? found)).mpr holds⟩

theorem ArePositions.eq_nil_iff {α : Type} {P : α → Prop} {xs : List α} {is : List Nat}
    (positions : ArePositions P xs is) : is = [] ↔ ∀ x ∈ xs, ¬P x := by
  constructor
  · rintro rfl x member holds
    obtain ⟨i, found⟩ := List.mem_iff_getElem?.mp member
    exact List.not_mem_nil ((positions.2 i).mpr ⟨x, found, holds⟩)
  · intro none
    apply List.eq_nil_iff_forall_not_mem.mpr
    intro i member
    obtain ⟨x, found, holds⟩ := (positions.2 i).mp member
    exact none x (List.mem_of_getElem? found) holds

/-- The coordinates of the stack are those of the solver. -/
theorem row_eq {K : Type} [Scalar K] (V : Quad K) :
    row V =
      if IsZero V.midlineDeterminant ∨ IsZero V.midlineScale ∨
          !Scalar.isFinite V.midlineDeterminant ∨ !Scalar.isFinite V.midlineScale then ⟨0, none⟩
      else ⟨V.midlineDeterminant / V.midlineScale, some V.coefficients⟩ := by
  rfl

variable {V : Quad ℝ}

/-- Over the reals only parallel midlines leave a cell without a table. -/
theorem row_real (V : Quad ℝ) :
    row V = if V.midlineDeterminant = 0 then ⟨0, none⟩
      else ⟨V.midlineSine, some V.coefficients⟩ := by
  rw [row_eq, Quad.midlineSine_real]
  by_cases parallel : V.midlineDeterminant = 0
  · simp [parallel]
  · simp [parallel, Quad.midlineScale_ne_zero parallel]

theorem sine_row (V : Quad ℝ) : (row V).sine = V.midlineSine := by
  rw [row_real]
  split
  · next parallel => rw [Quad.midlineSine_real, parallel, zero_div]
  · rfl

theorem usable?_row (independent : V.midlineDeterminant ≠ 0) :
    (row V).usable? = some V.coefficients := by
  rw [row_real, if_neg independent]
  simp [Row.usable?, ShapeTable.isFinite, Affine.isFinite]

theorem isNear_row (warning : ℝ) (V : Quad ℝ) :
    (row V).isNear warning = true ↔ |V.midlineSine| ≤ warning := by
  simp only [Row.isNear, sine_row, abs_real, decide_eq_true_eq]

/-- A cell without a table is refused by its sine already. -/
theorem isBad_row {threshold : ℝ} (nonneg : 0 ≤ threshold) (V : Quad ℝ) :
    (row V).isBad threshold = true ↔ |V.midlineSine| ≤ threshold := by
  simp only [Row.isBad, sine_row, abs_real, Bool.or_eq_true, decide_eq_true_eq]
  constructor
  · rintro (small | missing)
    · exact small
    · by_contra large
      have independent : V.midlineDeterminant ≠ 0 := by
        intro parallel
        rw [Quad.midlineSine_real, parallel, zero_div, abs_zero] at large
        exact large nonneg
      rw [usable?_row independent] at missing
      contradiction
  · exact Or.inl

/-- The whole stack over the reals: one list of refused cells, and if it is empty one list of
reported cells. -/
theorem shapeTables_real (tol : Tolerances ℝ) (rtol? : Option ℝ) (cells : List (Quad ℝ)) :
    shapeTables (tol.map .number) (rtol?.map .number) cells =
      let bad := positions (Row.isBad (rtol?.getD tol.degeneracy)) (cells.map row)
      let near := positions (Row.isNear tol.warning) (cells.map row)
      if bad.isEmpty then
        ⟨if near.isEmpty then [] else [.nearlyDegenerateCells near],
          .ok ((cells.map row).filterMap Row.usable?)⟩
      else .fail (.degenerateCells bad cells.length) := by
  have threshold : ((rtol?.map Bound.number).getD (tol.map Bound.number).degeneracy).valueFor
      cells.length = .ok (rtol?.getD tol.degeneracy) := by
    cases rtol? <;> rfl
  have warning : (tol.map Bound.number).warning.valueFor cells.length = .ok tol.warning := rfl
  simp only [shapeTables, threshold, warning, Run.ofMisuse_ok_bind]

/-- Usable rows are the results of the solver, in order. -/
theorem forall₂_usable {tol : Tolerances ℝ} {rtol? : Option ℝ} {cells : List (Quad ℝ)}
    (nonneg : 0 ≤ rtol?.getD tol.degeneracy)
    (regular : ∀ V ∈ cells, rtol?.getD tol.degeneracy < |V.midlineSine|) :
    List.Forall₂
      (fun V N => (V.shapeTable (tol.map .number) (rtol?.map .number)).outcome = .ok N)
      cells ((cells.map row).filterMap Row.usable?) := by
  induction cells with
  | nil => exact .nil
  | cons V rest ih =>
    have accepted := Quad.isAccepted_iff.mpr (regular V List.mem_cons_self)
    have usable := usable?_row (accepted.midlineDeterminant_ne_zero nonneg)
    rw [List.map_cons, List.filterMap_cons_some usable]
    refine .cons (Quad.outcome_eq_ok_iff.mpr ⟨regular V List.mem_cons_self, rfl⟩) (ih ?_)
    exact fun W member => regular W (List.mem_cons_of_mem V member)

theorem outcome_of_regular {tol : Tolerances ℝ} {rtol? : Option ℝ} {cells : List (Quad ℝ)}
    (nonneg : 0 ≤ rtol?.getD tol.degeneracy)
    (accepted : ∀ V ∈ cells, V.IsAccepted (tol.map .number) (rtol?.map .number)) :
    (shapeTables (tol.map .number) (rtol?.map .number) cells).outcome =
      .ok (cells.map Quad.coefficients) := by
  have none : positions (Row.isBad (rtol?.getD tol.degeneracy)) (cells.map row) = [] :=
    (arePositions_positions (isBad_row nonneg) cells).eq_nil_iff.mpr fun V member =>
      not_le.mpr (Quad.isAccepted_iff.mp (accepted V member))
  have usable : (cells.map row).filterMap Row.usable? = cells.map Quad.coefficients := by
    rw [List.filterMap_map, ← List.filterMap_eq_map]
    refine List.filterMap_congr fun V member => ?_
    exact usable?_row ((accepted V member).midlineDeterminant_ne_zero nonneg)
  rw [shapeTables_real, none, usable]
  rfl

theorem outcome_of_degenerate {tol : Tolerances ℝ} {rtol? : Option ℝ} {cells : List (Quad ℝ)}
    {V : Quad ℝ} (nonneg : 0 ≤ rtol?.getD tol.degeneracy) (member : V ∈ cells)
    (refused : ¬V.IsAccepted (tol.map .number) (rtol?.map .number)) :
    ∃ bad, (shapeTables (tol.map .number) (rtol?.map .number) cells).outcome =
      .error (.degenerateCells bad cells.length) := by
  have some : positions (Row.isBad (rtol?.getD tol.degeneracy)) (cells.map row) ≠ [] := by
    intro none
    have regular := (arePositions_positions (isBad_row nonneg) cells).eq_nil_iff.mp none V member
    exact refused (Quad.isAccepted_iff.mpr (not_le.mp regular))
  rw [shapeTables_real]
  simp only [List.isEmpty_iff, some, if_false]
  exact ⟨_, rfl⟩

/-- A stack has shape functions exactly when each of its cells has, and then the same ones;
otherwise it names the cells that have none. The cells it warns of are those that the solver
warns of. -/
theorem shapeTables_iff_each (tol : Tolerances ℝ) (rtol? : Option ℝ) (cells : List (Quad ℝ))
    (nonneg : 0 ≤ rtol?.getD tol.degeneracy) :
    let single := Quad.shapeTable (tol.map .number) (rtol?.map .number)
    let stack := shapeTables (tol.map .number) (rtol?.map .number) cells
    ((∃ tables, stack.outcome = .ok tables) ↔ ∀ V ∈ cells, ∃ N, (single V).outcome = .ok N) ∧
      (∀ tables, stack.outcome = .ok tables →
        List.Forall₂ (fun V N => (single V).outcome = .ok N) cells tables ∧
        ∃ near, stack.notices = (if near.isEmpty then [] else [.nearlyDegenerateCells near]) ∧
          ArePositions (fun V => (single V).notices.any Notice.isWarning) cells near) ∧
      ((¬∃ tables, stack.outcome = .ok tables) →
        ∃ bad, stack.outcome = .error (.degenerateCells bad cells.length) ∧
          ArePositions (fun V => ∃ fault, (single V).outcome = .error fault ∧ fault.isDegeneracy)
            cells bad) := by
  intro single stack
  have bad := arePositions_positions (isBad_row nonneg) cells
  have near := arePositions_positions (isNear_row tol.warning) cells
  have whole := shapeTables_real tol rtol? cells
  by_cases regular : ∀ V ∈ cells, ¬|V.midlineSine| ≤ rtol?.getD tol.degeneracy
  · have agree := forall₂_usable nonneg fun V member => not_le.mp (regular V member)
    simp only [bad.eq_nil_iff.mpr regular, List.isEmpty_nil, if_true] at whole
    have outcome : stack.outcome = .ok _ := congrArg Run.outcome whole
    refine ⟨iff_of_true ⟨_, outcome⟩ fun V member => ?_, ?_, fun none => (none ⟨_, outcome⟩).elim⟩
    · exact Quad.isAccepted_iff.mpr (not_le.mp (regular V member))
    · intro tables returned
      obtain rfl := Except.ok.inj (returned.symm.trans outcome)
      refine ⟨agree, _, congrArg Run.notices whole, near.congr fun V member => ?_⟩
      exact (Quad.warns_iff (not_le.mp (regular V member))).symm
  · have some : positions (Row.isBad (rtol?.getD tol.degeneracy)) (cells.map row) ≠ [] :=
      fun none => regular (bad.eq_nil_iff.mp none)
    simp only [List.isEmpty_iff, some, if_false] at whole
    have outcome : stack.outcome = .error _ := congrArg Run.outcome whole
    have stopped : ¬∃ tables, stack.outcome = .ok tables := by
      rintro ⟨tables, returned⟩
      rw [outcome] at returned
      contradiction
    refine ⟨iff_of_false stopped fun accepted => regular fun V member => ?_,
      fun tables returned => (stopped ⟨tables, returned⟩).elim, fun _ => ⟨_, outcome, ?_⟩⟩
    · exact not_le.mpr (Quad.isAccepted_iff.mp (accepted V member))
    · exact bad.congr fun V _ => Quad.refuses_iff.symm

theorem shapeTables_iff_each_flattened :
    ∃ bad, (shapeTables ⟨.number 1, .number 1, .number 1⟩ (some (.number 0))
        [Quad.arrowhead, Quad.flattened]).outcome = .error (.degenerateCells bad 2) ∧
      bad.Pairwise (· < ·) ∧ ∀ i, i ∈ bad ↔ i = 1 := by
  have regular := (Quad.isAccepted_zero_iff Quad.arrowhead ⟨1, 1, 1⟩).mpr
    (Quad.midlineDeterminant_arrowhead.trans_ne one_ne_zero)
  have degenerate : ¬Quad.flattened.IsAccepted _ _ := fun accepted =>
    (Quad.isAccepted_zero_iff Quad.flattened ⟨1, 1, 1⟩).mp accepted
      Quad.midlineDeterminant_flattened
  obtain ⟨each, -, report⟩ := shapeTables_iff_each ⟨1, 1, 1⟩ (some 0)
    [Quad.arrowhead, Quad.flattened] le_rfl
  obtain ⟨bad, outcome, sorted, named⟩ :=
    report (each.not.mpr fun all => degenerate (all Quad.flattened (by simp)))
  refine ⟨bad, outcome, sorted, fun i => (named i).trans ⟨?_, ?_⟩⟩
  · rintro ⟨V, found, refused⟩
    match i, found with
    | 0, found =>
      obtain rfl := Option.some.inj found
      exact (not_le.mpr (Quad.isAccepted_iff.mp regular) (Quad.refuses_iff.mp refused)).elim
    | 1, _ => rfl
  · rintro rfl
    refine ⟨Quad.flattened, rfl, Quad.refuses_iff.mpr (not_lt.mp fun sine => ?_)⟩
    exact degenerate (Quad.isAccepted_iff.mpr sine)

end NonconformingQuad.Stack
end
