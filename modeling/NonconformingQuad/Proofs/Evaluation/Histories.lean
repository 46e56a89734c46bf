import NonconformingQuad.Evaluation.Context
import NonconformingQuad.Proofs.Element.Shapes
import NonconformingQuad.Proofs.Evaluation.Geometry
import NonconformingQuad.Proofs.Flags.Closure

/-! Histories of contexts. A context is moved from cell to cell, with or without success, and
whoever reads its buffers may also write into them. Through all of this it keeps what it was
built for, its prepared data, and the shapes of its buffers. -/
namespace NonconformingQuad.Context
variable {K : Type} [Scalar K]

/-- One thing that may happen to a context. Writing into a buffer cannot change its shape. -/
inductive Step : Context K → Context K → Prop where
  | reinit (tol : Tolerances (Bound K)) (gauss : LineFamily K) (cell : Except (Fault K) (Quad K))
      (faceNumber halfNumber : Literal) (c : Context K) :
      Step c (c.reinit tol gauss cell faceNumber halfNumber).state
  | write (shapes : ShapeBuffers K) (mapping : MappingBuffers K) (c : Context K) :
      shapes.shapes = c.shapes.shapes → mapping.lengths = c.mapping.lengths →
      Step c { c with shapes := shapes, mapping := mapping }

inductive Reaches : Context K → Context K → Prop where
  | refl (c) : Reaches c c
  | next : Step c d → Reaches d e → Reaches c e

/-- The context was built for a request and has some history since. -/
def IsReached (placement : Placement K) (requested : UpdateFlags) (c : Context K) : Prop :=
  ∃ b, (build placement requested).outcome = .ok b ∧ b.Reaches c

theorem step_overwrite (q : Quantity) (x : K) (c : Context K) : Step c (c.overwrite q x) := by
  have kept (t? : Option (Tensor K)) :
      (t?.map (Tensor.map fun _ => x)).map (·.shape) = t?.map (·.shape) := by
    cases t? <;> rfl
  have same := Step.write (c.overwrite q x).shapes (c.overwrite q x).mapping c
  cases q with
  | values | gradients | hessians =>
    refine same (funext fun p => ?_) rfl
    cases p <;> first | rfl | exact kept _
  | points | weights | normals =>
    refine same rfl ?_
    simp [overwrite, MappingBuffers.lengths, MappingBuffers.filled]

/-- A context has the plan of another one when it differs at most in what its buffers hold and
where it was evaluated last. -/
structure HasPlanOf (b c : Context K) : Prop where
  placement : c.placement = b.placement
  requested : c.requested = b.requested
  flags : c.flags = b.flags
  internal : c.internal = b.internal
  shapes : c.shapes.shapes = b.shapes.shapes
  lengths : c.mapping.lengths = b.mapping.lengths

omit [Scalar K] in
theorem HasPlanOf.refl (c : Context K) : c.HasPlanOf c := ⟨rfl, rfl, rfl, rfl, rfl, rfl⟩

def shapeFill (tol : Tolerances (Bound K)) (V : Quad K) (faceNumber halfNumber : Literal)
    (c : Context K) : Run K (ShapeBuffers K) :=
  P1.fill tol (c.placement.site faceNumber halfNumber) (.ok V) (Tensor.ofPoints c.mapping.points)
    c.internal c.shapes

def withShapes (faceNumber halfNumber : Literal) (c : Context K) (shapes : ShapeBuffers K) :
    Context K :=
  { c with
    shapes, ready := true
    face := if c.placement.onFace then some faceNumber else none
    half := if c.placement.kind = .half then some halfNumber else none }

section Evaluation
variable {tol : Tolerances (Bound K)} {gauss : LineFamily K} {cell : Except (Fault K) (Quad K)}
  {V : Quad K} {rule : Rule K} {faceNumber halfNumber : Literal} {b c d e : Context K}

theorem fillShapes_of_ok {shapes : ShapeBuffers K}
    (filled : (shapeFill tol V faceNumber halfNumber c).outcome = .ok shapes) :
    (fillShapes tol V faceNumber halfNumber c).fault? = none ∧
      (fillShapes tol V faceNumber halfNumber c).state =
        withShapes faceNumber halfNumber c shapes := by
  rw [shapeFill] at filled
  simp [fillShapes, Attempt.ofRun, Run.bind, filled, withShapes]

theorem fillShapes_of_error {fault : Fault K}
    (filled : (shapeFill tol V faceNumber halfNumber c).outcome = .error fault) :
    (fillShapes tol V faceNumber halfNumber c).fault? = some fault ∧
      (fillShapes tol V faceNumber halfNumber c).state = c := by
  rw [shapeFill] at filled
  simp [fillShapes, Attempt.ofRun, Run.bind, filled]

theorem fault?_fillShapes : (fillShapes tol V faceNumber halfNumber c).fault? =
    (shapeFill tol V faceNumber halfNumber c).fault? := by
  cases filled : (shapeFill tol V faceNumber halfNumber c).outcome with
  | ok shapes => rw [(fillShapes_of_ok filled).1, Run.fault?_eq_none_iff.mpr ⟨shapes, filled⟩]
  | error e => rw [(fillShapes_of_error filled).1, Run.fault?_eq_some_iff.mpr filled]

theorem mapping_fillShapes :
    (fillShapes tol V faceNumber halfNumber c).state.mapping = c.mapping := by
  cases filled : (shapeFill tol V faceNumber halfNumber c).outcome with
  | ok shapes => rw [(fillShapes_of_ok filled).2, withShapes]
  | error e => rw [(fillShapes_of_error filled).2]

/-- An evaluation succeeds when there is a cell with a rule, and its geometry and then its
shape data can be written. -/
theorem reinit_succeeds_iff :
    ((c.reinit tol gauss cell faceNumber halfNumber).fault? = none ∧
        (c.reinit tol gauss cell faceNumber halfNumber).state = d) ↔
      ∃ V rule shapes, cell = .ok V ∧ c.placement.rule gauss faceNumber halfNumber = .ok rule ∧
        (c.mapCell V rule faceNumber).fault? = none ∧
        (shapeFill tol V faceNumber halfNumber (c.mapCell V rule faceNumber).state).outcome =
          .ok shapes ∧
        d = withShapes faceNumber halfNumber (c.mapCell V rule faceNumber).state shapes := by
  cases cell with
  | error fault => simp [reinit, Attempt.stop]
  | ok V =>
    cases found : c.placement.rule gauss faceNumber halfNumber with
    | error fault => simp [reinit, found, Attempt.stop]
    | ok rule =>
      simp only [reinit, found]
      rw [Attempt.fault?_next_eq_none_iff]
      constructor
      · rintro ⟨⟨mapped, succeeded⟩, rfl⟩
        cases filled : (shapeFill tol V faceNumber halfNumber
            (c.mapCell V rule faceNumber).state).outcome with
        | error fault =>
          rw [(fillShapes_of_error filled).1] at succeeded
          contradiction
        | ok shapes =>
          refine ⟨V, rule, shapes, rfl, rfl, mapped, filled, ?_⟩
          rw [Attempt.state_next_of_success _ mapped, (fillShapes_of_ok filled).2]
      · rintro ⟨_, _, shapes, ⟨⟩, ⟨⟩, mapped, filled, rfl⟩
        obtain ⟨succeeded, state⟩ := fillShapes_of_ok filled
        exact ⟨⟨mapped, succeeded⟩, (Attempt.state_next_of_success _ mapped).trans state⟩

theorem hasPlanOf_mapCell (same : b.HasPlanOf c) :
    b.HasPlanOf (c.mapCell V rule faceNumber).state :=
  ⟨same.placement, same.requested, same.flags, same.internal, same.shapes,
    Mapping.lengths_fill.trans same.lengths⟩

theorem hasPlanOf_fillShapes (prepared : b.internal.IsPrepared) (same : b.HasPlanOf c) :
    b.HasPlanOf (fillShapes tol V faceNumber halfNumber c).state := by
  cases filled : (shapeFill tol V faceNumber halfNumber c).outcome with
  | error fault =>
    rw [(fillShapes_of_error filled).2]
    exact same
  | ok shapes =>
    rw [(fillShapes_of_ok filled).2]
    have kept := P1.shapes_fill (same.internal ▸ prepared) filled
    exact ⟨same.placement, same.requested, same.flags, same.internal, kept.trans same.shapes,
      same.lengths⟩

/-- Whatever happens to a context, it keeps its plan. -/
theorem HasPlanOf.step (prepared : b.internal.IsPrepared) (same : b.HasPlanOf c)
    (happened : Step c d) : b.HasPlanOf d := by
  cases happened with
  | reinit tol gauss cell faceNumber halfNumber =>
    unfold Context.reinit
    split
    · exact same
    · split
      · exact same
      · exact Attempt.state_next_induction (P := fun d => b.HasPlanOf d) (hasPlanOf_mapCell same)
          fun d => hasPlanOf_fillShapes prepared
  | write _ _ _ shapes lengths =>
    exact ⟨same.placement, same.requested, same.flags, same.internal, shapes.trans same.shapes,
      lengths.trans same.lengths⟩

theorem HasPlanOf.reaches (prepared : b.internal.IsPrepared) (same : b.HasPlanOf c)
    (history : c.Reaches d) : b.HasPlanOf d := by
  induction history with
  | refl => exact same
  | next happened _ ih => exact ih (same.step prepared happened)

end Evaluation

/-- What every context with a history has: it serves its request, and its buffers have room
for the points of its placement. -/
structure IsSound (placement : Placement K) (requested : UpdateFlags) (c : Context K) : Prop where
  placement_eq : c.placement = placement
  requested_eq : c.requested = requested
  flags_eq : c.flags = P1.resolve requested
  resolved (q : Quantity) : c.internal.flags.has q = c.flags.has q
  size_eq : c.internal.size = placement.size
  prepared : c.internal.IsPrepared
  room : placement.size ≠ 0 →
    c.shapes.check P1.dofsPerCell c.internal.size c.internal.flags = .ok ()
  fits : c.mapping.Fits c.flags placement.size.toNat

variable {placement : Placement K} {requested : UpdateFlags} {b c : Context K}

theorem ready_of_build (built : (build placement requested).outcome = .ok b) :
    b.ready = false := by
  simp only [build, Run.outcome_bind_eq_ok_iff, Run.outcome_ofExcept, Run.outcome_pure,
    Except.ok.injEq] at built
  obtain ⟨_, _, _, _, _, _, _, _, rfl⟩ := built
  rfl

theorem isSound_of_build (built : (build placement requested).outcome = .ok b) :
    IsSound placement requested b := by
  simp only [build, Run.outcome_bind_eq_ok_iff, Run.outcome_ofExcept, Run.outcome_pure,
    Except.ok.injEq] at built
  obtain ⟨internal, made, shapes, allocated, mapping, mapped, _, _, rfl⟩ := built
  obtain ⟨flags, size, prepared⟩ := P1.prepared_of_prepare made
  have resolved (q : Quantity) : internal.flags.has q = (P1.resolve requested).has q := by
    rw [flags, P1.has_resolve_resolve]
  refine ⟨rfl, rfl, rfl, resolved, size, prepared, fun pointed => ?_,
    MappingBuffers.fits_of_allocate mapped⟩
  have accepted := ShapeBuffers.check_of_allocate pointed allocated
  simpa only [ShapeBuffers.check_eq_ok_iff, resolved, size] using accepted

omit [Scalar K] in
theorem IsSound.congr (sound : IsSound placement requested b) (same : b.HasPlanOf c) :
    IsSound placement requested c where
  placement_eq := same.placement.trans sound.placement_eq
  requested_eq := same.requested.trans sound.requested_eq
  flags_eq := same.flags.trans sound.flags_eq
  resolved := by rw [same.internal, same.flags]; exact sound.resolved
  size_eq := by rw [same.internal]; exact sound.size_eq
  prepared := by rw [same.internal]; exact sound.prepared
  room pointed := by
    rw [same.internal, ShapeBuffers.check_congr same.shapes]
    exact sound.room pointed
  fits := by
    rw [same.flags]
    exact sound.fits.congr same.lengths.symm

omit [Scalar K] in
theorem IsSound.has_of_requested {q : Quantity} (sound : IsSound placement requested c)
    (asked : requested.has q) : c.flags.has q := by
  rw [sound.flags_eq]
  exact P1.has_resolve_of_has asked

omit [Scalar K] in
theorem IsSound.has_points (sound : IsSound placement requested c) (asked : c.flags.has .values) :
    c.flags.has .points := by
  rw [sound.flags_eq] at asked ⊢
  exact P1.has_points_of_has_values asked

omit [Scalar K] in
theorem IsSound.has_weights (sound : IsSound placement requested c) (asked : c.flags.has .normals) :
    c.flags.has .weights := by
  rw [sound.flags_eq] at asked ⊢
  exact P1.has_weights_of_has_normals asked

/-- Every history keeps a context sound. -/
theorem IsReached.isSound (reached : IsReached placement requested c) :
    IsSound placement requested c := by
  obtain ⟨b, built, history⟩ := reached
  have sound := isSound_of_build built
  exact sound.congr (HasPlanOf.reaches sound.prepared (.refl b) history)

theorem IsSound.hasPlanOf_reinit (sound : IsSound placement requested c)
    (tol : Tolerances (Bound K)) (gauss : LineFamily K) (cell : Except (Fault K) (Quad K))
    (faceNumber halfNumber : Literal) :
    c.HasPlanOf (c.reinit tol gauss cell faceNumber halfNumber).state :=
  HasPlanOf.step sound.prepared (.refl c) (.reinit ..)

end NonconformingQuad.Context
