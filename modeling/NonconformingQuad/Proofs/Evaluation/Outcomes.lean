import Mathlib.Analysis.SpecialFunctions.Log.Basic
import NonconformingQuad.Proofs.Evaluation.Calls

/-! What may become of evaluations and of answers. A context for a rule with as many points as its
order fails for a number out of range, or for a cell that has no shape functions although these
are needed, and in no other way: its buffers always have room for what is computed. Its answers
depend on the request and on one earlier success, and on nothing else. -/
namespace NonconformingQuad

theorem Fault.isOutOfRange_of_isDegeneracy {K : Type} {e : Fault K} (degenerate : e.isDegeneracy) :
    e.isOutOfRange = false := by
  cases e <;> first | rfl | contradiction

namespace Placement
variable {K : Type} [Scalar K] {gauss : LineFamily K} {placement : Placement K} {n : Nat}
  {r : LineRule K} {i j : Int}

/-- The points are those of the rule of order `n`. -/
def IsOfOrder (gauss : LineFamily K) (n : Nat) : Placement K → Prop
  | cell rule => Rule.square? gauss (.int n) = .ok rule
  | face order | half order => order = n

/-- In range there is a rule, on a face that exists, with the points of the placement. -/
theorem exists_rule (positive : 1 ≤ n) (found : gauss n = .ok r) (nodes : r.length = n)
    (placed : placement.IsOfOrder gauss n) (inside : placement.InRange i j) :
    let face := (placement.numbers i j).1
    let half := (placement.numbers i j).2
    ∃ rule face?, placement.rule gauss face half = .ok rule ∧ rule ≠ [] ∧
      (rule.length : Int) = placement.size ∧ (placement.site face half).check (K := K) = .ok () ∧
      (placement.mappingFace face).mapM (Face.ofRow (K := K)) = .ok face? := by
  have line := LineRule.ofOrder?_int positive found
  have pointed : r ≠ [] := by
    rw [← List.length_pos_iff, nodes]
    exact positive
  have length (p : Placement K) (f : Face) (h : Half) :
      (Rule.onFace f (p.lineRule r h)).length = n :=
    (Rule.length_onFace f _).trans ((p.length_lineRule r h).trans nodes)
  have present (p : Placement K) (f : Face) (h : Half) : Rule.onFace f (p.lineRule r h) ≠ [] := by
    rw [← List.length_pos_iff, length]
    exact positive
  cases placement with
  | cell rule =>
    have square : Rule.square r = rule :=
      Except.ok.inj ((Rule.square?_eq_ok line).symm.trans placed)
    exact ⟨rule, none, rfl, square ▸ Rule.square_ne_nil pointed, rfl, rfl, rfl⟩
  | face order =>
    obtain rfl : order = n := placed
    obtain ⟨f, rfl⟩ := Face.exists_number inside
    obtain ⟨ruled, site, row⟩ := rule_onFace (.face n) rfl line f .lower
    exact ⟨_, some f, ruled, present _ f .lower, congrArg Int.ofNat (length _ f .lower), site, row⟩
  | half order =>
    obtain rfl : order = n := placed
    obtain ⟨f, rfl⟩ := Face.exists_number inside.1
    obtain ⟨h, rfl⟩ := Half.exists_number inside.2
    obtain ⟨ruled, site, row⟩ := rule_onFace (.half n) rfl line f h
    exact ⟨_, some f, ruled, present _ f h, congrArg Int.ofNat (length _ f h), site, row⟩

end Placement

/-- The element needs the shape functions of the cell, and the solver refuses it. -/
def P1.Refuses {K : Type} [Scalar K] (flags : UpdateFlags) (tol : Tolerances K) (V : Quad K) :
    Prop :=
  (flags.has .values ∨ flags.has .gradients) ∧
    (Scalar.abs V.midlineSine ≤ tol.degeneracy ∨ ¬V.coefficients.isFinite)

/-- The answer is given under the condition; otherwise the quantity is said to be unavailable. -/
def IsAnsweredIff {K α : Type} (answer : Except (Fault K) α) (condition : Prop) : Prop :=
  (condition → ∃ x, answer = .ok x) ∧ (¬condition → ∃ e, answer = .error e ∧ e.isUnavailable)

theorem IsAnsweredIff.map {K α β : Type} {answer : Except (Fault K) α} {condition : Prop}
    (given : IsAnsweredIff answer condition) (f : α → β) :
    IsAnsweredIff (answer.map f) condition := by
  refine ⟨fun holds => ?_, fun fails => ?_⟩
  · obtain ⟨x, found⟩ := given.1 holds
    exact ⟨f x, by rw [found]; rfl⟩
  · obtain ⟨e, refused, unavailable⟩ := given.2 fails
    exact ⟨e, by rw [refused]; rfl, unavailable⟩

namespace Context
variable {K : Type} [Scalar K] {c : Context K}

/-- The accessors answer for all functions and points of the context as soon as the quantity that
they read is available, and refuse before. There are no normals inside a cell. -/
structure AnswersWhen (available : Quantity → Prop) (c : Context K) : Prop where
  value : ∀ k < P1.dofsPerCell, ∀ q < c.placement.size.toNat,
    IsAnsweredIff (c.shapeValue (.int k) (.int q)) (available .values)
  gradient : ∀ k < P1.dofsPerCell, ∀ q < c.placement.size.toNat,
    IsAnsweredIff (c.shapeGradient (.int k) (.int q)) (available .gradients)
  hessian : ∀ k < P1.dofsPerCell, ∀ q < c.placement.size.toNat,
    IsAnsweredIff (c.shapeHessian (.int k) (.int q)) (available .hessians)
  point : ∀ q < c.placement.size.toNat,
    IsAnsweredIff (c.quadraturePoint (.int q)) (available .points)
  weight : ∀ q < c.placement.size.toNat, IsAnsweredIff (c.weight (.int q)) (available .weights)
  normal : c.placement.onFace → ∀ q < c.placement.size.toNat,
    IsAnsweredIff (c.normal (.int q)) (available .normals)

section Entries
variable {quantity : Quantity} {k q : Nat}

theorem read_answered {indices : List Literal} {is : List Int}
    (given : indices.mapM Literal.index = .ok is)
    (entry : c.flags.has quantity → ∃ t, (c.buffer quantity).sub? is = some t) :
    IsAnsweredIff (c.read quantity indices) (c.flags.has quantity ∧ c.ready) := by
  refine ⟨?_, fun missing => ?_⟩
  · rintro ⟨requested, ready⟩
    obtain ⟨t, found⟩ := entry requested
    exact ⟨t, read_eq_ok given requested ready found⟩
  · obtain ⟨e, refused, unavailable⟩ := require_of_unavailable missing
    exact ⟨e, read_of_require refused, unavailable⟩

variable (room : c.HasRoom) (point : q < c.placement.size.toNat)
include room point

theorem exists_shape_entry (listed : quantity ∈ ShapeBuffers.quantities)
    (requested : c.flags.has quantity) (function : k < P1.dofsPerCell) :
    ∃ t, (c.buffer quantity).sub? [(k : Int), (q : Int)] = some t := by
  obtain ⟨t, held, shape⟩ := Option.map_eq_some_iff.mp (room.shapes quantity listed)
  have buffer : c.buffer quantity = t := by
    cases quantity with
    | values | gradients | hessians => simp only [Context.buffer, held, Option.getD_some]
    | points | normals | weights => exact absurd listed (by decide)
  have pointed : c.placement.size ≠ 0 := by omega
  have axes : t.shape = [P1.dofsPerCell, c.placement.size.toNat] ++
      (ShapeBuffers.tail quantity).map Int.toNat := by
    simp [shape, ShapeBuffers.allocated, requested, pointed]
  rw [buffer]
  exact ⟨_, Tensor.sub?_of_within _ _ [k, q] axes ⟨function, point, trivial⟩⟩

theorem exists_geometry_entry (quantity : Quantity)
    (geometric : quantity ∉ ShapeBuffers.quantities)
    (possible : quantity = .normals → c.placement.onFace) (requested : c.flags.has quantity) :
    ∃ t, (c.buffer quantity).sub? [(q : Int)] = some t := by
  obtain ⟨points, weights, normals⟩ := room.mapping.length_eq
  cases quantity with
  | points =>
    rw [if_pos requested] at points
    exact ⟨_, Tensor.sub?_singleton (t := .ofPoints c.mapping.points) rfl (points ▸ point)⟩
  | weights =>
    rw [if_pos requested] at weights
    exact ⟨_, Tensor.sub?_singleton (t := .ofList c.mapping.weights) rfl (weights ▸ point)⟩
  | normals =>
    rw [if_pos (by rw [possible rfl, requested]; rfl)] at normals
    exact ⟨_, Tensor.sub?_singleton (t := .ofPoints c.mapping.normals) rfl (normals ▸ point)⟩
  | values | gradients | hessians => exact absurd (by decide) geometric

omit point in
theorem HasRoom.answersWhen : c.AnswersWhen fun quantity => c.flags.has quantity ∧ c.ready where
  value _ function _ point :=
    (read_answered rfl fun asked =>
      exists_shape_entry room point (by decide) asked function).map _
  gradient _ function _ point :=
    (read_answered rfl fun asked =>
      exists_shape_entry room point (by decide) asked function).map _
  hessian _ function _ point :=
    read_answered rfl fun asked => exists_shape_entry room point (by decide) asked function
  point _ point :=
    (read_answered rfl (exists_geometry_entry room point .points (by decide) nofun)).map _
  weight _ point :=
    (read_answered rfl (exists_geometry_entry room point .weights (by decide) nofun)).map _
  normal onFace _ point := by
    rw [normal, if_pos onFace]
    exact (read_answered rfl
      (exists_geometry_entry room point .normals (by decide) fun _ => onFace)).map _

end Entries

section Calls
variable {placement : Placement K} {requested : UpdateFlags} {gauss : LineFamily K} {n : Nat}
  {r : LineRule K}

/-- One call, in the three ways in which it may end. -/
theorem call_cases (tol : Tolerances K) (V : Quad K) (i j : Int)
    (sound : IsSound placement requested c) (positive : 1 ≤ n)
    (found : gauss n = .ok r) (nodes : r.length = n) (placed : placement.IsOfOrder gauss n) :
    let fault? := (c.call (tol.map .number) gauss (.ofIntegers placement (.ok V) i j)).fault?
    (¬placement.InRange i j ∧ ∃ e, fault? = some e ∧ e.isOutOfRange) ∨
      (placement.InRange i j ∧ P1.Refuses c.flags tol V ∧ ∃ e, fault? = some e ∧ e.isDegeneracy) ∨
      (placement.InRange i j ∧ ¬P1.Refuses c.flags tol V ∧ fault? = none) := by
  intro fault?
  by_cases inside : placement.InRange i j
  · right
    obtain ⟨rule, face?, ruled, pointed, size, site, row⟩ :=
      Placement.exists_rule positive found nodes placed inside
    have outcome : fault? = if c.flags.has .values || c.flags.has .gradients then
        (V.shapeTable (tol.map .number) none).fault? else none :=
      fault?_reinit sound ruled pointed size site row
    rw [V.fault?_shapeTable tol] at outcome
    by_cases wanted : c.flags.has .values ∨ c.flags.has .gradients
    · rw [if_pos (by simpa using wanted)] at outcome
      split at outcome
      · next small => exact .inl ⟨inside, ⟨wanted, .inl small⟩, _, outcome, rfl⟩
      · next large =>
        split at outcome
        · next finite =>
          exact .inr ⟨inside, fun refused => refused.2.elim large (absurd finite), outcome⟩
        · next infinite => exact .inl ⟨inside, ⟨wanted, .inr infinite⟩, _, outcome, rfl⟩
    · rw [if_neg (by simpa using wanted)] at outcome
      exact .inr ⟨inside, fun refused => wanted refused.1, outcome⟩
  · left
    obtain ⟨e, missing, outOfRange⟩ := Placement.rule_of_not_inRange gauss inside
    have ordered : ∃ r, LineRule.ofOrder? gauss (.int placement.size) = .ok r := by
      cases placement with
      | cell rule => exact absurd trivial inside
      | face order | half order =>
        obtain rfl : order = n := placed
        exact ⟨r, LineRule.ofOrder?_int positive found⟩
    obtain ⟨s, line⟩ := ordered
    refine ⟨inside, e, ?_, outOfRange s line⟩
    have stopped : c.call (tol.map .number) gauss (.ofIntegers placement (.ok V) i j) =
        .stop c e := by
      simp only [call, reinit, Call.ofIntegers, sound.placement_eq, missing]
    exact congrArg Attempt.fault? stopped

/-- After any sequence of calls, with success or without, the next call fails for a number out of
range, or for a cell without shape functions where these are needed, and otherwise succeeds. Every
accessor answers when its quantity is needed for the request and some call has succeeded. -/
theorem safe_after_calls (placement : Placement K) (f : Int) (b : Context K) (tol : Tolerances K)
    (gauss : LineFamily K) (n : Nat) (r : LineRule K) (calls : List (Call K)) (V : Quad K)
    (i j : Int) (positive : 1 ≤ n) (found : gauss n = .ok r) (nodes : r.length = n)
    (placed : placement.IsOfOrder gauss n)
    (built : (build placement (.ofInt f)).outcome = .ok b) :
    let flags := P1.resolve (.ofInt f)
    let c := b.after (tol.map .number) gauss calls
    let fault? := (c.call (tol.map .number) gauss (.ofIntegers placement (.ok V) i j)).fault?
    ((∃ e, fault? = some e ∧ e.isOutOfRange) ↔ ¬placement.InRange i j) ∧
      ((∃ e, fault? = some e ∧ e.isDegeneracy) ↔ placement.InRange i j ∧ P1.Refuses flags tol V) ∧
      (fault? = none ↔ placement.InRange i j ∧ ¬P1.Refuses flags tol V) ∧
      (∀ e, fault? = some e → e.isOutOfRange ∨ e.isDegeneracy) ∧
      c.AnswersWhen fun quantity =>
        flags.has quantity ∧ b.successes (tol.map .number) gauss calls ≠ [] := by
  intro flags c fault?
  have reached : IsReached placement (.ofInt f) c := ⟨b, built, reaches_after b calls⟩
  have sound := reached.isSound
  have answers : c.AnswersWhen fun quantity =>
      flags.has quantity ∧ b.successes (tol.map .number) gauss calls ≠ [] := by
    have ready : c.ready = true ↔ b.successes (tol.map .number) gauss calls ≠ [] := by
      simp [c, ready_after, ready_of_build built]
    have available := reached.hasRoom.answersWhen
    simp only [sound.flags_eq, ready] at available
    exact available
  have cases : (¬placement.InRange i j ∧ ∃ e, fault? = some e ∧ e.isOutOfRange) ∨
      (placement.InRange i j ∧ P1.Refuses c.flags tol V ∧ ∃ e, fault? = some e ∧ e.isDegeneracy) ∨
      (placement.InRange i j ∧ ¬P1.Refuses c.flags tol V ∧ fault? = none) :=
    call_cases tol V i j sound positive found nodes placed
  have resolved : c.flags = flags := sound.flags_eq
  rw [resolved] at cases
  clear_value fault?
  obtain ⟨outside, e, rfl, outOfRange⟩ | ⟨inside, refused, e, rfl, degenerate⟩ |
    ⟨inside, accepted, rfl⟩ := cases
  · have known : ¬e.isDegeneracy := fun degenerate => by
      simp [Fault.isOutOfRange_of_isDegeneracy degenerate] at outOfRange
    simp [outside, outOfRange, known, answers]
  · have known : e.isOutOfRange = false := Fault.isOutOfRange_of_isDegeneracy degenerate
    simp [inside, refused, known, degenerate, answers]
  · simp [inside, accepted, answers]

theorem safe_after_calls_arrowhead :
    ∃ b : Context ℝ, (build (.half 1) (.ofInt (-1))).outcome = .ok b ∧
      let tol := (⟨0, 0, 0⟩ : Tolerances ℝ).map .number
      let gauss : LineFamily ℝ := fun _ => .ok [⟨0, 2⟩]
      let upper := Call.ofIntegers (.half 1) (.ok Quad.arrowhead) 3 1
      (b.call tol gauss upper).fault? = none ∧
        ∃ x, (b.after tol gauss [upper]).shapeHessian (.int 2) (.int 0) = .ok x := by
  obtain ⟨b, built⟩ : ∃ b : Context ℝ,
      (build (.half 1) (.ofInt (-1))).outcome = .ok b := ⟨_, rfl⟩
  refine ⟨b, built, ?_⟩
  intro tol gauss upper
  have shaped :
      ¬P1.Refuses (P1.resolve (.ofInt (-1))) (⟨0, 0, 0⟩ : Tolerances ℝ) Quad.arrowhead := by
    obtain ⟨large, finite⟩ := (Quad.isAccepted_number_iff _ _).mp Quad.isAccepted_arrowhead
    exact fun refused => refused.2.elim large (absurd finite)
  obtain ⟨_, _, succeeds, _⟩ := safe_after_calls (.half 1) (-1) b ⟨0, 0, 0⟩ gauss 1 _ []
    Quad.arrowhead 3 1 le_rfl rfl rfl rfl built
  have succeeded : (b.call tol gauss upper).fault? = none := succeeds.mpr ⟨by decide, shaped⟩
  obtain ⟨_, _, _, _, answers⟩ := safe_after_calls (.half 1) (-1) b ⟨0, 0, 0⟩ gauss 1 _ [upper]
    Quad.arrowhead 3 1 le_rfl rfl rfl rfl built
  have some : b.successes tol gauss [upper] ≠ [] := by
    simp [successes, succeeded]
  have size := placement_after tol gauss built [upper]
  exact ⟨succeeded, (answers.hessian 2 (by decide) 0 (by rw [size]; decide)).1 ⟨by decide, some⟩⟩

/-- A cell so large that its midlines are independent, but that no double is the value of its
shape functions at the origin. -/
def farCell : Quad Float := .of ⟨2e150, 1e150⟩ ⟨2e150, 1e-160⟩ ⟨1e150, -1e150⟩ ⟨1e150, 0⟩

theorem far_cell_is_refused :
    let placement : Placement Float := .cell (Rule.square [⟨0, 2⟩])
    let tol := Tolerances.standard
    ∃ b : Context Float, (build placement (.ofInt 2)).outcome = .ok b ∧
      tol.degeneracy < Scalar.abs farCell.midlineSine ∧
      ∃ e, (b.call (tol.map .number) (fun _ => .ok [⟨0, 2⟩])
        (.ofIntegers placement (.ok farCell) 0 0)).fault? = some e ∧ e.isDegeneracy := by
  intro placement tol
  obtain ⟨b, built⟩ : ∃ b : Context Float, (build placement (.ofInt 2)).outcome = .ok b := ⟨_, rfl⟩
  have sound := isSound_of_build built
  have regular : tol.degeneracy < Scalar.abs farCell.midlineSine := by decide +kernel
  have infinite : ¬farCell.coefficients.isFinite := by decide +kernel
  refine ⟨b, built, regular, ?_⟩
  have wanted : b.flags.has .gradients := sound.has_of_requested (by decide)
  have placed : placement.IsOfOrder (fun _ => .ok [⟨0, 2⟩]) 1 := rfl
  obtain ⟨outside, _⟩ | ⟨_, _, stopped⟩ | ⟨_, accepted, _⟩ :=
    call_cases tol farCell 0 0 sound le_rfl rfl rfl placed
  · exact absurd trivial outside
  · exact stopped
  · exact absurd ⟨.inr wanted, .inr infinite⟩ accepted

end Calls

end Context
end NonconformingQuad
