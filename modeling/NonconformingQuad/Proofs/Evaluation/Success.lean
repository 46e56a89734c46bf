import NonconformingQuad.Proofs.Basis.Acceptance
import NonconformingQuad.Proofs.Evaluation.Accessors

/-! Evaluations that succeed. A context with any history succeeds on a cell that has shape
functions, on a face and a half that exist; what it shows then belongs to that cell. -/
namespace NonconformingQuad.Context
variable {K : Type} [Scalar K] {tol : Tolerances (Bound K)} {gauss : LineFamily K}
  {placement : Placement K} {requested : UpdateFlags} {c d : Context K} {V : Quad K}
  {rule : Rule K} {faceNumber halfNumber : Literal} {face? : Option Face}

theorem shows_of_shapeFill {shapes : ShapeBuffers K} (sound : IsSound placement requested c)
    (wanted : c.flags.has .values ∨ c.flags.has .gradients)
    (filled : (shapeFill tol V faceNumber halfNumber c).outcome = .ok shapes) :
    (V.shapeTable tol none).outcome = .ok V.coefficients ∧
      (withShapes faceNumber halfNumber c shapes).Shows V.coefficients := by
  obtain ⟨_, _, table?, found, placed, rfl⟩ := P1.outcome_fill_eq_ok_iff.mp filled
  have needed : c.internal.flags.has .values ∨ c.internal.flags.has .gradients := by
    simpa only [sound.resolved] using wanted
  obtain ⟨N, solved, rfl⟩ := (P1.outcome_tableFor_eq_ok_iff needed).mp found
  obtain rfl := Quad.eq_coefficients solved
  refine ⟨solved, rfl, fun asked => ?_, fun asked => ?_, fun asked => ?_⟩
  · have rows := ShapeBuffers.shape_of_map_ofNat (placed ((sound.resolved _).trans asked))
    exact (List.cons.inj rows).1
  · exact if_pos ((sound.resolved _).trans asked)
  · exact if_pos ((sound.resolved _).trans asked)

/-- After an evaluation the context shows the shape functions of the cell. -/
theorem shows_of_reinit (sound : IsSound placement requested c)
    (wanted : c.flags.has .values ∨ c.flags.has .gradients)
    (succeeded : (c.reinit tol gauss (.ok V) faceNumber halfNumber).fault? = none) :
    (V.shapeTable tol none).outcome = .ok V.coefficients ∧
      (c.reinit tol gauss (.ok V) faceNumber halfNumber).state.Shows V.coefficients := by
  obtain ⟨_, rule, shapes, ⟨⟩, _, mapped, filled, state⟩ := reinit_succeeds_iff.mp ⟨succeeded, rfl⟩
  have same : c.HasPlanOf (c.mapCell V rule faceNumber).state := hasPlanOf_mapCell (.refl c)
  rw [state]
  exact shows_of_shapeFill (sound.congr same) (same.flags ▸ wanted) filled

theorem ready_of_reinit {cell : Except (Fault K) (Quad K)}
    (succeeded : (c.reinit tol gauss cell faceNumber halfNumber).fault? = none) :
    (c.reinit tol gauss cell faceNumber halfNumber).state.ready = true := by
  obtain ⟨_, _, _, _, _, _, _, state⟩ := reinit_succeeds_iff.mp ⟨succeeded, rfl⟩
  rw [state, withShapes]

/-- The geometry of a rule that has the points for which the context was built can be written, on
a cell or on a face that exists. -/
theorem mapCell_eq_done (sound : IsSound placement requested c) (pointed : rule ≠ [])
    (size : (rule.length : Int) = placement.size)
    (found : (placement.mappingFace faceNumber).mapM (Face.ofRow (K := K)) = .ok face?) :
    c.mapCell V rule faceNumber =
      .done { c with mapping := Mapping.written V rule c.flags face? c.mapping } := by
  obtain rfl := sound.placement_eq
  have count : rule.length = c.placement.size.toNat := by omega
  have fits : c.mapping.Fits c.flags rule.length := by
    rw [count]
    exact sound.fits
  rw [mapCell, Mapping.fill_of_fits found pointed fits]
  rfl

/-- On a face and a half that exist, an evaluation has the outcome of the solver if it needs
shape functions, and succeeds otherwise. -/
theorem fault?_reinit (sound : IsSound placement requested c)
    (ruled : placement.rule gauss faceNumber halfNumber = .ok rule) (pointed : rule ≠ [])
    (size : (rule.length : Int) = placement.size)
    (site : (placement.site faceNumber halfNumber).check (K := K) = .ok ())
    (found : (placement.mappingFace faceNumber).mapM (Face.ofRow (K := K)) = .ok face?) :
    (c.reinit tol gauss (.ok V) faceNumber halfNumber).fault? =
      if c.flags.has .values || c.flags.has .gradients then (V.shapeTable tol none).fault?
      else none := by
  have mapped := mapCell_eq_done (V := V) sound pointed size found
  obtain rfl := sound.placement_eq
  have nonempty : c.placement.size ≠ 0 := by
    have := List.length_pos_iff.mpr pointed
    omega
  rw [reinit, ruled]
  simp only [mapped, Attempt.done_next, fault?_fillShapes]
  rw [shapeFill, P1.fault?_fill site (sound.room nonempty), P1.fault?_tableFor]
  · simp only [sound.resolved]
  · intro asked
    -- values come with points, so the points just written are those of the rule
    have placed := sound.has_points ((sound.resolved _).symm.trans asked)
    simp [Mapping.written, placed, Tensor.ofPoints, Mapping.pointsOf, sound.size_eq, size]

/-- Whatever becomes of the shape data, the geometry is written. -/
theorem mapping_reinit (sound : IsSound placement requested c)
    (ruled : placement.rule gauss faceNumber halfNumber = .ok rule) (pointed : rule ≠ [])
    (size : (rule.length : Int) = placement.size)
    (found : (placement.mappingFace faceNumber).mapM (Face.ofRow (K := K)) = .ok face?) :
    (c.reinit tol gauss (.ok V) faceNumber halfNumber).state.mapping =
      Mapping.written V rule c.flags face? c.mapping := by
  have mapped := mapCell_eq_done (V := V) sound pointed size found
  obtain rfl := sound.placement_eq
  rw [reinit, ruled]
  simp only [mapped, Attempt.done_next, mapping_fillShapes]

/-- Nothing stops an evaluation whose rule has the points for which the context was built, on
a face and a half that exist, if the cell has the shape functions that are asked for. -/
theorem reinit_succeeds (sound : IsSound placement requested c)
    (ruled : placement.rule gauss faceNumber halfNumber = .ok rule) (pointed : rule ≠ [])
    (size : (rule.length : Int) = placement.size)
    (site : (placement.site faceNumber halfNumber).check (K := K) = .ok ())
    (found : (placement.mappingFace faceNumber).mapM (Face.ofRow (K := K)) = .ok face?)
    (solved : c.flags.has .values ∨ c.flags.has .gradients → V.IsAccepted tol none) :
    (c.reinit tol gauss (.ok V) faceNumber halfNumber).fault? = none ∧
      (c.reinit tol gauss (.ok V) faceNumber halfNumber).state.mapping =
        Mapping.written V rule c.flags face? c.mapping := by
  refine ⟨?_, mapping_reinit sound ruled pointed size found⟩
  rw [fault?_reinit sound ruled pointed size site found]
  split
  · next needed => exact Run.fault?_eq_none_iff.mpr (solved (by simpa using needed))
  · rfl

/-- After an evaluation inside a cell the weights are those of the cell. -/
theorem weights_reinit_cell (tol : Tolerances (Bound K)) (gauss : LineFamily K)
    (reached : IsReached (.cell rule) requested c) (weighted : c.flags.has .weights)
    (pointed : rule ≠ []) (solved : c.flags.has .values ∨ c.flags.has .gradients →
      V.IsAccepted tol none) :
    let evaluated := c.reinit tol gauss (.ok V) .none .none
    evaluated.fault? = none ∧ evaluated.state.flags = c.flags ∧
      evaluated.state.mapping.weights = rule.map (Mapping.areaWeight V) := by
  intro evaluated
  obtain ⟨succeeded, mapping⟩ : evaluated.fault? = none ∧ evaluated.state.mapping =
      Mapping.written V rule c.flags none c.mapping :=
    reinit_succeeds reached.isSound rfl pointed rfl rfl rfl solved
  refine ⟨succeeded, (reached.isSound.hasPlanOf_reinit ..).flags, ?_⟩
  rw [mapping, Mapping.written, if_pos weighted]
  rfl

/-- The points are those of the cell, even if the cell has no shape functions. -/
theorem points_reinit_cell (reached : IsReached (.cell rule) requested c) (pointed : rule ≠ [])
    (values : requested.has .values) :
    (c.reinit tol gauss (.ok V) .none .none).state.mapping.points =
      rule.points.map (Bilinear.mapPoint V) := by
  have placed := reached.isSound.has_points (reached.isSound.has_of_requested values)
  rw [mapping_reinit reached.isSound rfl pointed rfl rfl, Mapping.written, if_pos placed,
    Mapping.pointsOf, Rule.points, List.map_map]
  rfl

/-- Values and gradients inside a cell are those of its shape functions at the points. -/
theorem shapes_reinit_cell {q : Nat} (reached : IsReached (.cell rule) requested c)
    (pointed : rule ≠ []) (values : requested.has .values) (gradients : requested.has .gradients)
    (succeeded : (c.reinit tol gauss (.ok V) .none .none).fault? = none)
    (bound : q < rule.points.length) (k : Corner) :
    let evaluated := (c.reinit tol gauss (.ok V) .none .none).state
    evaluated.shapeValue (.int k.number) (.int q) =
        .ok ((V.coefficients k).eval (Bilinear.mapPoint V rule.points[q])) ∧
      evaluated.shapeGradient (.int k.number) (.int q) = .ok (V.coefficients k).gradient := by
  intro evaluated
  have sound := reached.isSound
  have valued := sound.has_of_requested values
  have sloped := sound.has_of_requested gradients
  have same : c.HasPlanOf evaluated := sound.hasPlanOf_reinit ..
  have shows : evaluated.Shows V.coefficients := (shows_of_reinit sound (.inl valued) succeeded).2
  have places : evaluated.mapping.points = rule.points.map (Bilinear.mapPoint V) :=
    points_reinit_cell reached pointed values
  have size : evaluated.internal.size.toNat = rule.points.length := by
    rw [same.internal, sound.size_eq, Rule.points, List.length_map]
    rfl
  constructor
  · rw [shapeValue_eq_ok places shows (same.flags ▸ valued) k (by rwa [List.length_map]),
      List.getElem_map]
  · exact shapeGradient_eq_ok shows (same.flags ▸ sloped) k (size.symm ▸ bound)

/-- What the accessors tell at a point of the rule, after an evaluation inside a cell. -/
structure TellsAt (V : Quad K) (p : RulePoint K) (c : Context K) (q : Nat) : Prop where
  point : c.quadraturePoint (.int q) = .ok (Bilinear.mapPoint V p.point)
  weight : c.weight (.int q) = .ok (Mapping.areaWeight V p)
  value : ∀ k : Corner, c.shapeValue (.int k.number) (.int q) =
    .ok ((V.coefficients k).eval (Bilinear.mapPoint V p.point))
  gradient : ∀ k : Corner, c.shapeGradient (.int k.number) (.int q) =
    .ok (V.coefficients k).gradient

theorem reinit_tellsAt (gauss : LineFamily K) (reached : IsReached (.cell rule) requested c)
    (pointed : rule ≠ []) (values : requested.has .values) (gradients : requested.has .gradients)
    (weights : requested.has .weights) (accepted : V.IsAccepted tol none) :
    let evaluated := c.reinit tol gauss (.ok V) .none .none
    evaluated.fault? = none ∧
      ∀ q (bound : q < rule.length), evaluated.state.TellsAt V rule[q] q := by
  intro evaluated
  have sound := reached.isSound
  have weighted := sound.has_of_requested weights
  obtain ⟨succeeded, flags, held⟩ :=
    weights_reinit_cell tol gauss reached weighted pointed fun _ => accepted
  have placed : evaluated.state.flags.has .points :=
    flags ▸ sound.has_points (sound.has_of_requested values)
  have ready : evaluated.state.ready = true := ready_of_reinit succeeded
  have places : evaluated.state.mapping.points = rule.points.map (Bilinear.mapPoint V) :=
    points_reinit_cell reached pointed values
  refine ⟨succeeded, fun q bound => ?_⟩
  have listed : q < rule.points.length := by rwa [Rule.points, List.length_map]
  have inside : q < (rule.points.map (Bilinear.mapPoint V)).length := by rwa [List.length_map]
  have point : rule.points[q] = rule[q].point := List.getElem_map _
  have shapes (k : Corner) :=
    shapes_reinit_cell reached pointed values gradients succeeded listed k
  constructor
  · rw [quadraturePoint_eq_ok places placed ready inside, List.getElem_map, point]
  · exact weight_eq_ok_of_rule held (flags ▸ weighted) ready bound
  · exact fun k => point ▸ (shapes k).1
  · exact fun k => (shapes k).2

end NonconformingQuad.Context
