import Mathlib.Analysis.SpecialFunctions.Log.Basic
import NonconformingQuad.Proofs.Evaluation.Allocation
import NonconformingQuad.Proofs.Evaluation.Success

/-! Evaluations leave nothing of the past. Two contexts that were built alike may hold different
numbers; an evaluation still stops at the same point in both of them, and once it has gone through
they are the same context. What an evaluation does therefore never depends on the history before. -/
namespace NonconformingQuad

namespace Attempt
variable {K σ τ α : Type} {R S : σ → σ → Prop} {a b : Attempt K σ}

/-- Two operations stop with the same fault or succeed both, with related states then. -/
structure Agrees (R : σ → σ → Prop) (a b : Attempt K σ) : Prop where
  notices : a.notices = b.notices
  fault : a.fault? = b.fault?
  state : a.fault? = none → R a.state b.state

theorem agrees_done {s t : σ} (related : R s t) : (done s : Attempt K σ).Agrees R (done t) :=
  ⟨rfl, rfl, fun _ => related⟩

theorem agrees_stop (s t : σ) (e : Fault K) : (stop s e).Agrees R (stop t e) :=
  ⟨rfl, rfl, nofun⟩

theorem Agrees.mono (agree : a.Agrees R b) (weaker : ∀ s t, R s t → S s t) : a.Agrees S b :=
  ⟨agree.notices, agree.fault, fun success => weaker _ _ (agree.state success)⟩

theorem Agrees.next {f g : σ → Attempt K σ} (first : a.Agrees R b)
    (second : ∀ s t, R s t → (f s).Agrees S (g t)) : (a.next f).Agrees S (b.next g) := by
  cases stopped : a.fault? with
  | some e =>
    have same : b.fault? = some e := first.fault ▸ stopped
    rw [next_of_fault f stopped, next_of_fault g same]
    exact ⟨first.notices, first.fault, fun success => by simp [stopped] at success⟩
  | none =>
    have same : b.fault? = none := first.fault ▸ stopped
    obtain ⟨notices, fault, state⟩ := second _ _ (first.state stopped)
    simp only [Attempt.next, stopped, same]
    exact ⟨by rw [first.notices, notices], fault, state⟩

theorem Agrees.within {R : τ → τ → Prop} {put put' : σ → τ} {a b : Attempt K σ}
    (agree : a.Agrees S b) (related : ∀ s t, S s t → R (put s) (put' t)) :
    (a.within put).Agrees R (b.within put') :=
  ⟨agree.notices, agree.fault, fun success => related _ _ (agree.state success)⟩

/-- One computation whose value is put into either state. -/
theorem agrees_ofRun {s t : σ} {r : Run K α} {put put' : α → σ}
    (related : ∀ x, R (put x) (put' x)) :
    (ofRun s (r.bind fun x => pure (put x))).Agrees R
      (ofRun t (r.bind fun x => pure (put' x))) := by
  cases found : r.outcome with
  | error e =>
    simp only [ofRun, Run.bind, found]
    refine ⟨rfl, rfl, fun success => ?_⟩
    contradiction
  | ok x =>
    simp only [ofRun, Run.bind, found, Run.outcome_pure]
    exact ⟨rfl, rfl, fun _ => related x⟩

end Attempt

namespace Mapping
variable {K : Type} {a b : MappingBuffers K} {flags : UpdateFlags}

theorem assign_congr {α : Type} {buffer other : List α} (entries : List α)
    (length : buffer.length = other.length) :
    assign (K := K) buffer entries = assign other entries := by
  simp only [assign, length]

theorem writeBuffer_agrees {α : Type} {wanted : Bool} {buffer other entries : List α}
    {put put' : List α → MappingBuffers K} (length : buffer.length = other.length)
    (kept : wanted = false → ∃ xs, a = put xs ∧ b = put' xs) :
    (writeBuffer wanted buffer entries put a).Agrees (fun s t => ∃ xs, s = put xs ∧ t = put' xs)
      (writeBuffer wanted other entries put' b) := by
  rw [writeBuffer, writeBuffer, assign_congr entries length]
  cases wanted with
  | false => exact Attempt.agrees_done (kept rfl)
  | true =>
    cases assign (K := K) other entries with
    | error e => exact Attempt.agrees_stop a b e
    | ok xs => exact Attempt.agrees_done ⟨xs, rfl, rfl⟩

theorem fillWeights_agrees {weights : List K} (length : a.weights.length = b.weights.length)
    (unneeded : flags.has .weights = false → a.weights = [] ∧ b.weights = []) :
    (fillWeights weights flags a).Agrees
      (fun s t => ∃ xs, s = { a with weights := xs } ∧ t = { b with weights := xs })
      (fillWeights weights flags b) := by
  rw [fillWeights_eq, fillWeights_eq]
  refine writeBuffer_agrees length fun unwanted => ?_
  obtain ⟨first, second⟩ := unneeded unwanted
  exact ⟨[], by rw [← first], by rw [← second]⟩

theorem fillNormals_agrees {normals : List (Point K)}
    (length : a.normals.length = b.normals.length)
    (unneeded : flags.has .normals = false → a.normals = [] ∧ b.normals = []) :
    (fillNormals normals flags a).Agrees
      (fun s t => ∃ xs, s = { a with normals := xs } ∧ t = { b with normals := xs })
      (fillNormals normals flags b) := by
  have present : a.normals.isEmpty = b.normals.isEmpty := by
    rw [Bool.eq_iff_iff, List.isEmpty_iff_length_eq_zero, List.isEmpty_iff_length_eq_zero, length]
  rw [fillNormals_eq, fillNormals_eq, present]
  refine writeBuffer_agrees length fun unwanted => ?_
  -- a buffer of normals may also be empty although normals are requested
  have empty : a.normals = [] ∧ b.normals = [] := by
    rcases Bool.and_eq_false_iff.mp unwanted with unrequested | blank
    · exact unneeded unrequested
    · have second : b.normals = [] := by simpa using blank
      rw [second] at length
      exact ⟨List.eq_nil_of_length_eq_zero length, second⟩
  exact ⟨[], by rw [← empty.1], by rw [← empty.2]⟩

variable [Scalar K] {n : Int} {V : Quad K} {rule : Rule K} {face? : Option Literal}

theorem fillPoints_agrees (length : a.points.length = b.points.length)
    (unneeded : flags.has .points = false → a.points = [] ∧ b.points = []) :
    (fillPoints V rule flags a).Agrees
      (fun s t => ∃ xs, s = { a with points := xs } ∧ t = { b with points := xs })
      (fillPoints V rule flags b) := by
  rw [fillPoints_eq, fillPoints_eq]
  refine writeBuffer_agrees length fun unwanted => ?_
  obtain ⟨first, second⟩ := unneeded unwanted
  exact ⟨[], by rw [← first], by rw [← second]⟩

/-- Buffers of one allocation are the same once a fill has gone through: what it does not
write has no entries. -/
theorem fill_agrees (first : a.IsAllocated n flags face?.isSome)
    (second : b.IsAllocated n flags face?.isSome) :
    (fill V rule flags face? a).Agrees (· = ·) (fill V rule flags face? b) := by
  obtain ⟨points, weights, normals⟩ := first.eq_nil
  obtain ⟨points', weights', normals'⟩ := second.eq_nil
  have same : a.lengths = b.lengths := first.trans second.symm
  simp only [MappingBuffers.lengths, Prod.mk.injEq] at same
  obtain ⟨pointsLength, weightsLength, normalsLength⟩ := same
  have bare (unneeded : flags.has .normals = false) : a.normals = [] ∧ b.normals = [] := by
    have none : (face?.isSome && flags.has .normals) = false := by rw [unneeded, Bool.and_false]
    exact ⟨normals none, normals' none⟩
  refine (fillPoints_agrees pointsLength fun unneeded =>
    ⟨points unneeded, points' unneeded⟩).next ?_
  rintro _ _ ⟨ps, rfl, rfl⟩
  have weighted (ws : List K) :
      (fillWeights ws flags { a with points := ps }).Agrees
        (fun s t => ∃ xs, s = { a with points := ps, weights := xs } ∧
          t = { b with points := ps, weights := xs })
        (fillWeights ws flags { b with points := ps }) :=
    fillWeights_agrees (a := { a with points := ps }) (b := { b with points := ps }) weightsLength
      fun unneeded => ⟨weights unneeded, weights' unneeded⟩
  split
  · next unneeded =>
    simp only [Bool.not_eq_true', Bool.or_eq_false_iff] at unneeded
    obtain ⟨empty, empty'⟩ := bare unneeded.2
    refine Attempt.agrees_done ?_
    rw [weights unneeded.1, weights' unneeded.1, empty, empty']
  · cases face? with
    | none =>
      cases rule.isEmpty with
      | true => exact Attempt.agrees_stop _ _ _
      | false =>
        refine (weighted _).mono ?_
        rintro _ _ ⟨ws, rfl, rfl⟩
        rw [normals rfl, normals' rfl]
    | some number =>
      simp only [fillFace]
      cases Face.ofRow (K := K) number with
      | error e => exact Attempt.agrees_stop _ _ e
      | ok f =>
        cases rule.isEmpty with
        | true => exact Attempt.agrees_stop _ _ _
        | false =>
          refine (weighted _).next ?_
          rintro _ _ ⟨ws, rfl, rfl⟩
          refine (fillNormals_agrees (a := { a with points := ps, weights := ws })
            (b := { b with points := ps, weights := ws }) normalsLength bare).mono ?_
          rintro _ _ ⟨xs, rfl, rfl⟩
          rfl

end Mapping

namespace P1
open ShapeBuffers
variable {K : Type} [Scalar K] {internal : InternalData K} {out other : ShapeBuffers K}

omit [Scalar K] in
theorem check_eq {dofs n : Int} {flags : UpdateFlags} (same : out.shapes = other.shapes) :
    out.check dofs n flags = other.check dofs n flags := by
  have fits (q : Quantity) : out.fits dofs n q = other.fits dofs n q := by
    rw [Bool.eq_iff_iff, fits_iff, fits_iff, same]
  have shape (q : Quantity) : shapeOf (out.get q) = shapeOf (other.get q) :=
    congrArg (fun shape? => shape?.getD []) (congrFun same q)
  simp only [check, misfit?, fits, shape]

theorem ite_kept {α : Type} {written : Bool} {x y z : α} (kept : written = false → y = z) :
    (if written then x else y) = if written then x else z := by
  cases written with
  | false => exact kept rfl
  | true => rfl

/-- The element treats buffers of equal shapes alike; only what it does not write is kept. -/
theorem fill_congr (tol : Tolerances (Bound K)) (site : Site) (cell : Except (Fault K) (Quad K))
    (points : Tensor K) (same : out.shapes = other.shapes)
    (kept : ∀ q, internal.flags.has q = false → out.get q = other.get q) :
    fill tol site cell points internal out = fill tol site cell points internal other := by
  have values : internal.flags.has .values = false → out.values = other.values := kept .values
  have gradients : internal.flags.has .gradients = false → out.gradients = other.gradients :=
    kept .gradients
  have hessians : internal.flags.has .hessians = false → out.hessians = other.hessians :=
    kept .hessians
  simp only [fill, check_eq same, ite_kept values, ite_kept gradients, ite_kept hessians]

end P1

namespace Context
variable {K : Type} [Scalar K] {tol : Tolerances (Bound K)} {gauss : LineFamily K}
  {cell : Except (Fault K) (Quad K)} {V : Quad K} {rule : Rule K}
  {faceNumber halfNumber : Literal} {b c : Context K}

theorem mapCell_agrees (same : b.HasPlanOf c) (first : b.HasRoom) (second : c.HasRoom) :
    (b.mapCell V rule faceNumber).Agrees
      (fun s t => ∃ m, s = { b with mapping := m } ∧ t = { c with mapping := m })
      (c.mapCell V rule faceNumber) := by
  have onFace : (b.placement.mappingFace faceNumber).isSome = b.placement.onFace := by
    rw [Placement.mappingFace]
    cases b.placement.onFace <;> rfl
  have held : c.mapping.IsAllocated b.placement.size b.flags
      (b.placement.mappingFace faceNumber).isSome := by
    rw [onFace, ← same.placement, ← same.flags]
    exact second.mapping
  have filled : (Mapping.fill V rule b.flags (b.placement.mappingFace faceNumber) b.mapping).Agrees
      (· = ·) (Mapping.fill V rule b.flags (b.placement.mappingFace faceNumber) c.mapping) :=
    Mapping.fill_agrees (onFace ▸ first.mapping) held
  rw [mapCell, mapCell, same.placement, same.flags]
  refine filled.within ?_
  rintro m _ rfl
  exact ⟨m, rfl, rfl⟩

/-- Contexts that were built alike agree on every evaluation, and are the same after success. -/
theorem reinit_agrees (same : b.HasPlanOf c) (first : b.HasRoom) (second : c.HasRoom)
    (resolved : ∀ q, b.internal.flags.has q = b.flags.has q) :
    (b.reinit tol gauss cell faceNumber halfNumber).Agrees (· = ·)
      (c.reinit tol gauss cell faceNumber halfNumber) := by
  cases cell with
  | error e => exact Attempt.agrees_stop b c e
  | ok V =>
    simp only [reinit, same.placement]
    cases b.placement.rule gauss faceNumber halfNumber with
    | error e => exact Attempt.agrees_stop b c e
    | ok rule =>
      refine (mapCell_agrees same first second).next ?_
      rintro _ _ ⟨m, rfl, rfl⟩
      have kept (q : Quantity) (unneeded : b.internal.flags.has q = false) :
          c.shapes.get q = b.shapes.get q := by
        refine ShapeBuffers.get_eq_of_unneeded second.shapes (fun q listed => ?_) ?_
        · rw [same.placement, same.flags]
          exact first.shapes q listed
        · rw [same.flags, ← resolved, unneeded]
      have filled := P1.fill_congr tol (b.placement.site faceNumber halfNumber) (.ok V)
        (Tensor.ofPoints m.points) same.shapes kept
      simp only [fillShapes, same.placement, same.internal, filled]
      refine Attempt.agrees_ofRun fun shapes => ?_
      rw [same.requested, same.flags]

theorem reinit_agrees_of_reaches {placement : Placement K} {requested : UpdateFlags}
    (built : (build placement requested).outcome = .ok b) (history : b.Reaches c) :
    (b.reinit tol gauss cell faceNumber halfNumber).Agrees (· = ·)
      (c.reinit tol gauss cell faceNumber halfNumber) := by
  have same := hasPlanOf_of_reaches built history
  have room := hasRoom_of_build built
  exact reinit_agrees same room (room.congr same) (isSound_of_build built).resolved

/-- A context with any history, calls and foreign writes mixed, stops at the next evaluation
exactly as a context that was just built, with the same fault. When the evaluation succeeds, the
two contexts do not differ any more: neither in a buffer, nor in face and half, nor in an answer. -/
theorem reinit_forgets_history (placement : Placement K) (requested : UpdateFlags)
    (b c : Context K) (tol : Tolerances (Bound K)) (gauss : LineFamily K)
    (cell : Except (Fault K) (Quad K)) (faceNumber halfNumber : Literal)
    (built : (build placement requested).outcome = .ok b) (history : b.Reaches c) :
    (c.reinit tol gauss cell faceNumber halfNumber).fault? =
        (b.reinit tol gauss cell faceNumber halfNumber).fault? ∧
      (c.reinit tol gauss cell faceNumber halfNumber).notices =
        (b.reinit tol gauss cell faceNumber halfNumber).notices ∧
      ((b.reinit tol gauss cell faceNumber halfNumber).fault? = none →
        (c.reinit tol gauss cell faceNumber halfNumber).state =
          (b.reinit tol gauss cell faceNumber halfNumber).state) := by
  have agree : (b.reinit tol gauss cell faceNumber halfNumber).Agrees (· = ·)
      (c.reinit tol gauss cell faceNumber halfNumber) := reinit_agrees_of_reaches built history
  exact ⟨agree.fault.symm, agree.notices.symm, fun success => (agree.state success).symm⟩

theorem reinit_forgets_history_overwritten :
    ∃ b : Context ℝ, (build (.face 1) (.ofList [.values, .normals])).outcome = .ok b ∧
      let evaluated (V : Quad ℝ) (c : Context ℝ) := c.reinit ⟨.number 0, .number 0, .number 0⟩
        (fun _ => .ok [⟨0, 2⟩]) (.ok V) (.int 2) .none
      let c := (evaluated Quad.flattened b).state.overwrite .points 7
      b.Reaches c ∧ (evaluated Quad.arrowhead c).fault? = none ∧
        (evaluated Quad.arrowhead c).state = (evaluated Quad.arrowhead b).state := by
  obtain ⟨b, built⟩ : ∃ b : Context ℝ,
      (build (.face 1) (.ofList [.values, .normals])).outcome = .ok b := ⟨_, rfl⟩
  refine ⟨b, built, ?_⟩
  intro evaluated c
  have history : b.Reaches c :=
    .next (.reinit _ _ _ _ _ b) (.next (step_overwrite .points 7 _) (.refl c))
  have succeeded : (evaluated Quad.arrowhead b).fault? = none :=
    (reinit_succeeds (isSound_of_build built) rfl (List.cons_ne_nil _ _) rfl rfl rfl
      fun _ => Quad.isAccepted_arrowhead).1
  obtain ⟨fault, _, state⟩ := reinit_forgets_history (.face 1) _ b c _ _ (.ok Quad.arrowhead)
    (.int 2) .none built history
  exact ⟨history, fault.trans succeeded, state succeeded⟩

end Context
end NonconformingQuad
