import Mathlib.Analysis.SpecialFunctions.Log.Basic
import NonconformingQuad.Proofs.Evaluation.Calls
import NonconformingQuad.Proofs.Tensor.Reading

/-! Shape data do not depend on how a context places its points. A context on a face, on half of a
face or inside a cell writes its buffers on different ways; what it holds afterwards is one function
of the cell, the request and the reference points. A face is therefore as good as the same points
inside the cell. -/
namespace NonconformingQuad

namespace Rule
variable {K : Type} [Scalar K]

/-- Points that are handed over as an array become a rule with unit weights. -/
theorem ofTensor?_ofPoints (ps : List (Point K)) :
    ofTensor? (.ofPoints ps) = .ok (ofPoints ps) := by
  have zipped (qs : List (Point K)) :
      List.zipWith RulePoint.mk qs (List.replicate qs.length 1) = ofPoints qs := by
    induction qs with
    | nil => rfl
    | cons q rest ih => rw [List.length_cons, List.replicate_succ, List.zipWith_cons_cons, ih]; rfl
  change ofTensors? (.ofPoints ps) (.replicate [ps.length] 1) = _
  have entries : (Tensor.replicate [ps.length] (1 : K)).entries.toList =
      List.replicate ps.length 1 := by
    simp [Tensor.replicate, Index.volume]
  have shaped : ofTensors? (.ofPoints ps) (.replicate [ps.length] 1) =
      (.ok (List.zipWith RulePoint.mk (Tensor.ofPoints ps).toPoints
        (Tensor.replicate [ps.length] (1 : K)).entries.toList) : Except (Fault K) (Rule K)) :=
    if_pos rfl
  rw [shaped, Tensor.toPoints_ofPoints, entries, zipped]

theorem points_ofPoints (ps : List (Point K)) : (ofPoints ps).points = ps := by
  rw [points, ofPoints, List.map_map]
  exact List.map_id ps

end Rule

namespace Placement
variable {K : Type} [Scalar K] {gauss : LineFamily K} {placement : Placement K} {r : LineRule K}
  {rule : Rule K} {n : Nat}

/-- At these numbers of a face and a half there is a rule with the points of the placement, and the
numbers pass every check. -/
structure HasRule (gauss : LineFamily K) (faceNumber halfNumber : Literal) (rule : Rule K)
    (face? : Option Face) (placement : Placement K) : Prop where
  ruled : placement.rule gauss faceNumber halfNumber = .ok rule
  pointed : rule ≠ []
  size : (rule.length : Int) = placement.size
  site : (placement.site faceNumber halfNumber).check (K := K) = .ok ()
  row : (placement.mappingFace faceNumber).mapM (Face.ofRow (K := K)) = .ok face?

theorem hasRule_inside (gauss : LineFamily K) (pointed : rule ≠ []) :
    (cell rule).HasRule gauss .none .none rule none :=
  ⟨rfl, pointed, rfl, rfl, rfl⟩

theorem hasRule_onFace (placed : placement = .face n ∨ placement = .half n) (positive : 1 ≤ n)
    (found : gauss n = .ok r) (nodes : r.length = n) (f : Face) (h : Half) :
    placement.HasRule gauss (placement.numbers f.number h.number).1
      (placement.numbers f.number h.number).2 (Rule.onFace f (placement.lineRule r h))
      (some f) := by
  obtain ⟨onFace, size⟩ : placement.onFace ∧ placement.size = n := by
    obtain rfl | rfl := placed <;> exact ⟨rfl, rfl⟩
  have line : LineRule.ofOrder? gauss (.int placement.size) = .ok r := by
    rw [size]
    exact LineRule.ofOrder?_int positive found
  have length : (Rule.onFace f (placement.lineRule r h)).length = n :=
    (Rule.length_onFace f _).trans ((placement.length_lineRule r h).trans nodes)
  obtain ⟨ruled, site, row⟩ := placement.rule_onFace onFace line f h
  exact ⟨ruled, List.ne_nil_of_length_pos (length ▸ positive), by rw [length, size], site, row⟩

end Placement

namespace Context
variable {K : Type} [Scalar K] {tol : Tolerances (Bound K)} {gauss : LineFamily K}
  {placement : Placement K} {requested : UpdateFlags} {b c d : Context K} {V : Quad K}
  {rule : Rule K} {faceNumber halfNumber : Literal} {face? : Option Face}

theorem IsReached.prepare_internal (reached : IsReached placement requested c) :
    (P1.prepare (P1.resolve requested) placement.size).outcome = .ok c.internal := by
  obtain ⟨b, built, history⟩ := reached
  rw [(hasPlanOf_of_reaches built history).internal]
  simp only [build, Run.outcome_bind_eq_ok_iff, Run.outcome_ofExcept, Run.outcome_pure,
    Except.ok.injEq] at built
  obtain ⟨internal, made, _, _, _, _, _, _, rfl⟩ := built
  exact made

/-- Where there is room for a context on a face, there is room for one inside the cell. -/
theorem build_inside (onFace : placement.onFace) (size : (rule.length : Int) = placement.size)
    (built : (build placement requested).outcome = .ok b) :
    ∃ d, (build (.cell rule) requested).outcome = .ok d := by
  simp only [build, Run.outcome_bind_eq_ok_iff, Run.outcome_ofExcept, Run.outcome_pure] at built ⊢
  obtain ⟨internal, made, shapes, allocated, mapping, mapped, _, _, _⟩ := built
  have room : ∃ m : MappingBuffers K,
      MappingBuffers.allocate placement.size (P1.resolve requested) false = .ok m := by
    simp only [MappingBuffers.allocate, onFace, Outcome.bind_eq_ok_iff, Outcome.mapError_eq_ok_iff,
      Outcome.pure_eq_ok_iff, List.forM_eq_forM, List.forM_cons, List.forM_nil] at mapped ⊢
    obtain ⟨_, ⟨_, points, _, weights, _⟩, _⟩ := mapped
    exact ⟨_, (), ⟨(), points, (), weights, (), rfl, trivial⟩, rfl⟩
  obtain ⟨m, held⟩ := room
  rw [← size] at made allocated held
  exact ⟨_, internal, made, shapes, allocated, m, held, (), rfl, rfl⟩

/-- What a context holds of a quantity once it was evaluated at some reference points. Weights and
normals are left out: they belong to the placement. -/
def dataAt (V : Quad K) (flags : UpdateFlags) (ps : List (Point K)) (q : Quantity) : Tensor K :=
  let places := ps.map (Bilinear.mapPoint V)
  match q, flags.has q with
  | .points, true => .ofPoints places
  | .values, true => P1.valuesAt V.coefficients (.ofPoints places) ps.length
  | .gradients, true => P1.gradientsAt V.coefficients ps.length
  | _, true => .replicate [P1.dofsPerCell, ps.length, 2, 2] 0
  | .points, false => .ofPoints []
  | q, false => .replicate (0 :: 0 :: (ShapeBuffers.tail q).map Int.toNat) 0

theorem shapes_get_of_blank (room : c.HasRoom) {q : Quantity} (listed : q ∈ ShapeBuffers.quantities)
    (unneeded : c.flags.has q = false) :
    c.shapes.get q = some (.replicate (0 :: 0 :: (ShapeBuffers.tail q).map Int.toNat) 0) := by
  obtain ⟨t, held, shape⟩ := Option.map_eq_some_iff.mp (room.shapes q listed)
  have blank : ShapeBuffers.allocated P1.dofsPerCell c.placement.size c.flags q =
      0 :: 0 :: (ShapeBuffers.tail q).map Int.toNat := by
    simp [ShapeBuffers.allocated, unneeded]
  have empty : Index.volume t.shape = 0 := by
    rw [shape, blank, Index.volume, Nat.zero_mul]
  rw [held]
  exact congrArg some (Tensor.eq_of_volume_eq_zero (shape.trans blank) empty)

/-- Both ways of writing second derivatives, from the prepared data and anew, write zeros. -/
theorem hessians_of_reinit (reached : IsReached placement requested c)
    (succeeded : (c.reinit tol gauss (.ok V) faceNumber halfNumber).fault? = none)
    (wanted : c.flags.has .hessians) :
    (c.reinit tol gauss (.ok V) faceNumber halfNumber).state.shapes.hessians =
      some (.replicate [P1.dofsPerCell, placement.size.toNat, 2, 2] 0) := by
  have sound := reached.isSound
  obtain ⟨_, rule, shapes, ⟨⟩, _, _, filled, state⟩ := reinit_succeeds_iff.mp ⟨succeeded, rfl⟩
  obtain ⟨_, _, table?, _, _, rfl⟩ := P1.outcome_fill_eq_ok_iff.mp filled
  have needed : c.internal.flags.has .hessians := (sound.resolved _).trans wanted
  have prepared := P1.hessians_of_prepare reached.prepare_internal needed
  have internal : (c.mapCell V rule faceNumber).state.internal = c.internal := rfl
  rw [state]
  simp only [withShapes, P1.written, internal, needed, prepared, sound.size_eq, if_true]
  split
  · next cache _ same => rw [← same]
  · rfl

theorem points_reinit (reached : IsReached placement requested c)
    (placed : placement.HasRule gauss faceNumber halfNumber rule face?) :
    (c.reinit tol gauss (.ok V) faceNumber halfNumber).state.mapping.points =
      if c.flags.has .points then rule.points.map (Bilinear.mapPoint V) else [] := by
  have written : (c.reinit tol gauss (.ok V) faceNumber halfNumber).state.mapping.points =
      if c.flags.has .points then Mapping.pointsOf V rule else c.mapping.points := by
    rw [mapping_reinit reached.isSound placed.ruled placed.pointed placed.size placed.row]
    rfl
  rw [written]
  split
  · rw [Rule.points, List.map_map]
    rfl
  · next unneeded => exact reached.hasRoom.mapping.eq_nil.1 (by simpa using unneeded)

/-- Every buffer but those of weights and normals holds the data of the cell at the points of the
rule. -/
theorem buffer_reinit (reached : IsReached placement requested c)
    (placed : placement.HasRule gauss faceNumber halfNumber rule face?)
    (succeeded : (c.reinit tol gauss (.ok V) faceNumber halfNumber).fault? = none) (q : Quantity)
    (shared : q ≠ .weights ∧ q ≠ .normals) :
    (c.reinit tol gauss (.ok V) faceNumber halfNumber).state.buffer q =
      dataAt V c.flags rule.points q := by
  have sound := reached.isSound
  have same : c.HasPlanOf (c.reinit tol gauss (.ok V) faceNumber halfNumber).state :=
    sound.hasPlanOf_reinit ..
  have room := reached.hasRoom.congr same
  have count : placement.size.toNat = rule.points.length := by
    rw [Rule.points, List.length_map, ← placed.size, Int.toNat_natCast]
  have internal : (c.reinit tol gauss (.ok V) faceNumber halfNumber).state.internal.size.toNat =
      rule.points.length := by
    rw [same.internal, sound.size_eq, count]
  have places : (c.reinit tol gauss (.ok V) faceNumber halfNumber).state.mapping.points =
      if c.flags.has .points then rule.points.map (Bilinear.mapPoint V) else [] :=
    points_reinit reached placed
  have shows (wanted : c.flags.has .values ∨ c.flags.has .gradients) :=
    (shows_of_reinit sound wanted succeeded).2
  have hessians := hessians_of_reinit reached succeeded
  generalize (c.reinit tol gauss (.ok V) faceNumber halfNumber).state = e at *
  have blank {p : Quantity} (listed : p ∈ ShapeBuffers.quantities)
      (unneeded : c.flags.has p = false) := shapes_get_of_blank room listed (same.flags ▸ unneeded)
  cases q with
  | points =>
    cases wanted : c.flags.has .points <;> simp [buffer, dataAt, places, wanted]
  | values =>
    cases wanted : c.flags.has .values with
    | true =>
      have needed := sound.has_points wanted
      have held := (shows (.inl wanted)).values (same.flags ▸ wanted)
      rw [places, if_pos needed, internal] at held
      simp [buffer, dataAt, ShapeBuffers.get, held, wanted]
    | false => simp [buffer, dataAt, blank (by decide) wanted, wanted]
  | gradients =>
    cases wanted : c.flags.has .gradients with
    | true =>
      have held := (shows (.inr wanted)).gradients (same.flags ▸ wanted)
      rw [internal] at held
      simp [buffer, dataAt, ShapeBuffers.get, held, wanted]
    | false => simp [buffer, dataAt, blank (by decide) wanted, wanted]
  | hessians =>
    cases wanted : c.flags.has .hessians with
    | true => simp [buffer, dataAt, ShapeBuffers.get, hessians wanted, count, wanted]
    | false => simp [buffer, dataAt, blank (by decide) wanted, wanted]
  | weights => exact absurd rfl shared.1
  | normals => exact absurd rfl shared.2

/-- Two contexts tell the same points, values, gradients and second derivatives, for all numbers
that may be asked for, and hold the same arrays of them. -/
structure TellsSame (c d : Context K) : Prop where
  point : c.quadraturePoint = d.quadraturePoint
  value : c.shapeValue = d.shapeValue
  gradient : c.shapeGradient = d.shapeGradient
  hessian : c.shapeHessian = d.shapeHessian
  buffer : ∀ q, q ≠ .weights ∧ q ≠ .normals → c.buffer q = d.buffer q

theorem tellsSame_of_buffer (flags : c.flags = d.flags) (ready : c.ready = d.ready)
    (buffer : ∀ q, q ≠ .weights ∧ q ≠ .normals → c.buffer q = d.buffer q) : c.TellsSame d := by
  have read (q : Quantity) (shared : q ≠ .weights ∧ q ≠ .normals) (indices : List Literal) :
      c.read q indices = d.read q indices := by
    simp only [Context.read, require, flags, ready, buffer q shared]
  refine ⟨funext fun q => ?_, funext fun k => funext fun q => ?_,
    funext fun k => funext fun q => ?_, funext fun k => funext fun q => ?_, buffer⟩
  · rw [quadraturePoint, quadraturePoint, read .points (by decide)]
  · rw [shapeValue, shapeValue, read .values (by decide)]
  · rw [shapeGradient, shapeGradient, read .gradients (by decide)]
  · exact read .hessians (by decide) [k, q]

theorem shapeHessian_eq_zero {n k q : Nat} (requested : c.flags.has .hessians)
    (ready : c.ready = true)
    (held : c.buffer .hessians = .replicate [P1.dofsPerCell, n, 2, 2] 0)
    (function : k < P1.dofsPerCell) (point : q < n) :
    c.shapeHessian (.int k) (.int q) = .ok (.replicate [2, 2] 0) := by
  have entry : (c.buffer .hessians).sub? [(k : Int), (q : Int)] =
      some (.tabulate [2, 2] fun js => (c.buffer .hessians).value ([k, q] ++ js)) :=
    Tensor.sub?_of_within [P1.dofsPerCell, n] [2, 2] [k, q] (by rw [held]; rfl)
      ⟨function, point, trivial⟩
  have zeros : Tensor.replicate [2, 2] (0 : K) = .tabulate [2, 2] fun js =>
      (Tensor.replicate [P1.dofsPerCell, n, 2, 2] 0).value ([k, q] ++ js) :=
    Tensor.eq_tabulate rfl fun is _ => by rw [Tensor.value_replicate, Tensor.value_replicate]
  rw [shapeHessian, read_eq_ok rfl requested ready entry, held, zeros]

/-- Contexts for one request, at rules with the same reference points, cannot be told apart. -/
theorem tellsSame_reinit {other : Placement K} {rule' : Rule K} {i j i' j' : Literal}
    {face?' : Option Face} (first : IsReached placement requested c)
    (second : IsReached other requested d) (here : placement.HasRule gauss i j rule face?)
    (there : other.HasRule gauss i' j' rule' face?') (points : rule.points = rule'.points)
    (succeeded : (c.reinit tol gauss (.ok V) i j).fault? = none)
    (succeeded' : (d.reinit tol gauss (.ok V) i' j').fault? = none) :
    (c.reinit tol gauss (.ok V) i j).state.TellsSame (d.reinit tol gauss (.ok V) i' j').state := by
  have flags : c.flags = d.flags := first.isSound.flags_eq.trans second.isSound.flags_eq.symm
  refine tellsSame_of_buffer ?_ ?_ fun q shared => ?_
  · rw [(first.isSound.hasPlanOf_reinit ..).flags, (second.isSound.hasPlanOf_reinit ..).flags,
      flags]
  · rw [ready_of_reinit succeeded, ready_of_reinit succeeded']
  · rw [buffer_reinit first here succeeded q shared, buffer_reinit second there succeeded' q shared,
      flags, points]

/-- Whether an evaluation succeeds depends on the request and the cell, not on the placement. -/
theorem fault?_reinit_eq (tol : Tolerances K) (reached : IsReached placement requested c)
    (placed : placement.HasRule gauss faceNumber halfNumber rule face?) :
    let wanted := (P1.resolve requested).has .values || (P1.resolve requested).has .gradients
    let fault? := if wanted then (V.shapeTable (tol.map .number) none).fault? else none
    (c.reinit (tol.map .number) gauss (.ok V) faceNumber halfNumber).fault? = fault? ∧
      (fault? = none ∨ ∃ e, fault? = some e ∧ e.isDegeneracy) := by
  intro wanted fault?
  refine ⟨?_, ?_⟩
  · rw [fault?_reinit reached.isSound placed.ruled placed.pointed placed.size placed.site
      placed.row, reached.isSound.flags_eq]
  · simp only [fault?, V.fault?_shapeTable tol]
    split_ifs <;> simp [Fault.isDegeneracy]

/-- A context on a face or on half of one, and a context inside the cell at the same reference
points, with unit weights. For every request both refuse a cell that has no shape functions, with
one and the same fault, or both succeed and tell the same; second derivatives are all zero. -/
theorem on_face_as_inside (n : Nat) (gauss : LineFamily K) (r : LineRule K)
    (placement : Placement K) (tol : Tolerances K) (V : Quad K) (requested : UpdateFlags)
    (c : Context K) (f : Face) (h : Half) (positive : 1 ≤ n)
    (placed : placement = .face n ∨ placement = .half n) (found : gauss n = .ok r)
    (nodes : r.length = n) (reached : IsReached placement requested c) :
    let here := c.call (tol.map .number) gauss (.ofIntegers placement (.ok V) f.number h.number)
    ∃ rule inside, placement.rule gauss (placement.numbers f.number h.number).1
        (placement.numbers f.number h.number).2 = .ok rule ∧
      Rule.ofTensor? (.ofPoints rule.points) = .ok inside ∧
      (∃ b, (build (.cell inside) requested).outcome = .ok b) ∧
      ∀ d, IsReached (.cell inside) requested d →
        let there := d.call (tol.map .number) gauss (.ofIntegers (.cell inside) (.ok V) 0 0)
        (∃ e, here.fault? = some e ∧ there.fault? = some e ∧ e.isDegeneracy) ∨
          (here.fault? = none ∧ there.fault? = none ∧ here.state.TellsSame there.state ∧
            ((P1.resolve requested).has .hessians → ∀ k < P1.dofsPerCell, ∀ q < n,
              here.state.shapeHessian (.int k) (.int q) = .ok (.replicate [2, 2] 0))) := by
  intro here
  obtain ⟨onFace, size⟩ : placement.onFace ∧ placement.size = n := by
    obtain rfl | rfl := placed <;> exact ⟨rfl, rfl⟩
  have ruled := Placement.hasRule_onFace placed positive found nodes f h
  let rule := Rule.onFace f (placement.lineRule r h)
  let inside := Rule.ofPoints rule.points
  have length : (inside.length : Int) = placement.size := by
    rw [← ruled.size]
    exact congrArg Int.ofNat ((List.length_map _).trans (List.length_map _))
  have ruled' : (Placement.cell inside).HasRule gauss .none .none inside none :=
    Placement.hasRule_inside gauss (List.ne_nil_of_length_pos (by omega))
  refine ⟨rule, inside, ruled.ruled, Rule.ofTensor?_ofPoints _, ?_, fun d reached' => ?_⟩
  · obtain ⟨b, built, -⟩ := reached
    exact build_inside onFace length built
  intro there
  obtain ⟨outcome, verdict⟩ := fault?_reinit_eq (V := V) tol reached ruled
  obtain ⟨outcome', -⟩ := fault?_reinit_eq (V := V) tol reached' ruled'
  obtain success | ⟨e, refused, degenerate⟩ := verdict
  · have succeeded : here.fault? = none := outcome.trans success
    have succeeded' : there.fault? = none := outcome'.trans success
    have points : rule.points = inside.points := (Rule.points_ofPoints rule.points).symm
    refine .inr ⟨succeeded, succeeded',
      tellsSame_reinit reached reached' ruled ruled' points succeeded succeeded', ?_⟩
    intro wanted k function q point
    have requested := reached.isSound.flags_eq ▸ wanted
    have flags : here.state.flags = c.flags := (reached.isSound.hasPlanOf_reinit ..).flags
    have held : here.state.shapes.hessians =
        some (.replicate [P1.dofsPerCell, placement.size.toNat, 2, 2] 0) :=
      hessians_of_reinit reached succeeded requested
    refine shapeHessian_eq_zero (flags ▸ requested) (ready_of_reinit succeeded) ?_ function point
    simp only [buffer, ShapeBuffers.get, held, size, Int.toNat_natCast, Option.getD_some]
  · exact .inl ⟨e, outcome.trans refused, outcome'.trans refused, degenerate⟩

/-- The upper half of the top face of a cell that is not convex, with every quantity requested. -/
theorem on_face_as_inside_arrowhead :
    let tol := (⟨0, 0, 0⟩ : Tolerances ℝ).map .number
    let gauss : LineFamily ℝ := fun _ => .ok [⟨0, 2⟩]
    let inside : Rule ℝ := Rule.ofPoints [⟨1 / 2, 1⟩]
    ∃ c d : Context ℝ, (build (.half 1) (.ofInt (-1))).outcome = .ok c ∧
      (build (.cell inside) (.ofInt (-1))).outcome = .ok d ∧
      (c.call tol gauss (.ofIntegers (.half 1) (.ok .arrowhead) 3 1)).state.TellsSame
        (d.call tol gauss (.ofIntegers (.cell inside) (.ok .arrowhead) 0 0)).state := by
  intro tol gauss inside
  obtain ⟨c, built⟩ : ∃ c : Context ℝ, (build (.half 1) (.ofInt (-1))).outcome = .ok c := ⟨_, rfl⟩
  have reached : IsReached (.half 1) (.ofInt (-1)) c := ⟨c, built, .refl c⟩
  have succeeded : (c.call tol gauss (.ofIntegers (.half 1) (.ok .arrowhead) 3 1)).fault? = none :=
    (reinit_succeeds reached.isSound rfl (List.cons_ne_nil _ _) rfl rfl rfl
      fun _ => Quad.isAccepted_arrowhead).1
  obtain ⟨rule, _, ruled, made, ⟨d, built'⟩, each⟩ := on_face_as_inside 1 gauss [⟨0, 2⟩] (.half 1)
    ⟨0, 0, 0⟩ .arrowhead (.ofInt (-1)) c .top .upper le_rfl (.inr rfl) rfl rfl reached
  obtain rfl : Rule.onFace .top (LineRule.onHalf .upper [⟨0, 2⟩]) = rule := Except.ok.inj ruled
  have placed : (Rule.onFace .top (LineRule.onHalf .upper [⟨0, 2⟩])).points =
      [(⟨1 / 2, 1⟩ : Point ℝ)] := by
    norm_num [Rule.points, Rule.onFace, Face.pointAt, LineRule.onHalf]
  rw [Rule.ofTensor?_ofPoints, placed] at made
  obtain rfl := Except.ok.inj made
  obtain ⟨e, refused, -⟩ | ⟨-, -, same, -⟩ := each d ⟨d, built', .refl d⟩
  · have impossible : none = some e := succeeded.symm.trans refused
    contradiction
  · exact ⟨c, d, built, built', same⟩

end Context
end NonconformingQuad
