import Mathlib.Analysis.SpecialFunctions.Log.Basic
import NonconformingQuad.Proofs.Evaluation.Calls
import NonconformingQuad.Proofs.Geometry.Area
import NonconformingQuad.Proofs.Geometry.Normals

/-! The discrete form of Green's identity. On a strictly convex cell the weighted sum of the
gradients of a shape function inside the cell equals the weighted sum of its values times the
normals over the four faces, although the two sums come from different contexts, with rules of
different orders and buffers that are written on different ways. -/
noncomputable section
namespace NonconformingQuad

namespace Context
variable {K : Type} [Scalar K]

/-- Sum of the answers for the first `n` points. -/
def sumOverPoints (n : Nat) (answer : Literal → Except (Fault K) (Point K)) :
    Except (Fault K) (Point K) :=
  (List.range n).foldlM (fun (total : Point K) (q : Nat) => do return total + (← answer (.int q))) 0

/-- What a point contributes to the integral of the gradient of a shape function. -/
def weightedGradient (k : Corner) (c : Context K) (q : Literal) : Except (Fault K) (Point K) := do
  let w ← c.weight q
  let g ← c.shapeGradient (.int k.number) q
  return Point.scale w g

/-- What a point of a face contributes to the integral of a shape function times the normal. -/
def weightedFlux (k : Corner) (c : Context K) (q : Literal) : Except (Fault K) (Point K) := do
  let w ← c.weight q
  let v ← c.shapeValue (.int k.number) q
  let n ← c.normal q
  return Point.scale (w * v) n

end Context

namespace Quad
variable {V : Quad ℝ} {r : LineRule ℝ} {s : ℝ}

theorem integrate_edge (centred : r.IsCentred) (N : Affine ℝ) (f : Face) :
    (Rule.onFace f r).integrate (fun p => N.eval (Bilinear.mapPoint V p)) =
      2 * N.eval (V.edgeMidpoint f) := by
  rw [Rule.integrate_onFace, ← centred.integrate_affine _ (Point.dot N.gradient (V.halfEdge f))]
  refine congrArg r.integrate (funext fun t => ?_)
  rw [mapPoint_pointAt, Affine.eval_add, Point.dot_scale, mul_comm]

theorem integrateField_gradient (centred : r.IsCentred) (oriented : V.HasOrientation s)
    (N : Affine ℝ) :
    (Rule.square r).integrateField (fun p =>
        Point.scale (Scalar.abs (Reference.jacobian V p).determinant) N.gradient) =
      Point.scale (s * V.midlineDeterminant) N.gradient := by
  rw [Rule.integrateField_of_eq_scale
      (f := fun p => Scalar.abs (Reference.jacobian V p).determinant) fun _ _ => rfl,
    integrate_abs_determinant centred oriented]

/-- What leaves through a face is decided by the value in its middle. -/
theorem integrateField_flux (centred : r.IsCentred) (oriented : V.HasOrientation s)
    (N : Affine ℝ) (f : Face) :
    (Rule.onFace f r).integrateField (fun p =>
        Point.scale ((Mapping.tangentAt V f p).norm * N.eval (Bilinear.mapPoint V p))
          (Mapping.normalAt V f p)) =
      Point.scale (s * (2 * N.eval (V.edgeMidpoint f))) (V.outward f) := by
  rw [Rule.integrateField_of_eq_scale (f := fun p => s * N.eval (Bilinear.mapPoint V p))
      (v := V.outward f) fun p member => ?_,
    Rule.integrate_const_mul, integrate_edge centred]
  obtain ⟨t, node, rfl⟩ := List.mem_map.mp member
  exact scale_normalAt oriented (Rule.isInside_of_mem_onFace centred.within member) _

end Quad

namespace Context
variable {gauss : LineFamily ℝ} {requested : UpdateFlags} {c : Context ℝ} {V : Quad ℝ}
  {r : LineRule ℝ} {rule : Rule ℝ}

theorem sumOverPoints_eq {answer : Literal → Except (Fault ℝ) (Point ℝ)} {F : Point ℝ → Point ℝ}
    (each : ∀ q (bound : q < rule.length),
      answer (.int q) = .ok (Point.scale rule[q].weight (F rule[q].point))) :
    sumOverPoints rule.length answer =
      .ok (rule.integrateField F) := by
  let f (total : Point ℝ) (p : RulePoint ℝ) := total + Point.scale p.weight (F p.point)
  have step (total : Point ℝ) (q : Nat) (bound : q < rule.length) :
      (do return total + (← answer (.int q)) : Except (Fault ℝ) (Point ℝ)) =
        .ok (f total rule[q]) := by
    rw [each q bound]
    rfl
  rw [sumOverPoints, Outcome.foldlM_range_eq_ok step, Rule.integrateField, Rule.integrate,
    Rule.integrate, Scalar.sum, Scalar.sum, List.foldl_map, List.foldl_map]
  refine congrArg Except.ok (Point.ext ?_ ?_)
  · refine (List.foldl_hom Point.x ?_).symm
    intro total p
    rfl
  · refine (List.foldl_hom Point.y ?_).symm
    intro total p
    rfl

/-- Inside a cell a point contributes its share of the area times the gradient. -/
theorem weightedGradient_eq_ok (shows : c.Shows V.coefficients) (gradients : c.flags.has .gradients)
    (weights : c.flags.has .weights) (size : c.internal.size.toNat = rule.length)
    (held : c.mapping.weights = rule.map (Mapping.areaWeight V)) (k : Corner) {q : Nat}
    (bound : q < rule.length) :
    c.weightedGradient k (.int q) = .ok (Point.scale rule[q].weight
      (Point.scale (Scalar.abs (Reference.jacobian V rule[q].point).determinant)
        (V.coefficients k).gradient)) := by
  have weight := weight_eq_ok_of_rule held weights shows.ready bound
  have gradient := shapeGradient_eq_ok shows gradients k (size.symm ▸ bound)
  simp only [weightedGradient, weight, gradient, bind, Except.bind, pure, Except.pure]
  refine congrArg Except.ok (Point.ext ?_ ?_) <;>
    simp only [Mapping.areaWeight, Point.scale] <;> ring

theorem sumOverPoints_weightedGradient (tol : Tolerances (Bound ℝ)) (gauss : LineFamily ℝ)
    (reached : IsReached (.cell rule) requested c)
    (weights : requested.has .weights) (gradients : requested.has .gradients)
    (accepted : V.IsAccepted tol none) (pointed : rule ≠ []) (k : Corner) :
    let evaluated := c.reinit tol gauss (.ok V) .none .none
    evaluated.fault? = none ∧
      sumOverPoints rule.length (evaluated.state.weightedGradient k) =
        .ok (rule.integrateField fun p =>
          Point.scale (Scalar.abs (Reference.jacobian V p).determinant)
            (V.coefficients k).gradient) := by
  intro evaluated
  have sound := reached.isSound
  have weighted := sound.has_of_requested weights
  have sloped := sound.has_of_requested gradients
  obtain ⟨succeeded, _, held⟩ : evaluated.fault? = none ∧ evaluated.state.flags = c.flags ∧
      evaluated.state.mapping.weights = rule.map (Mapping.areaWeight V) :=
    weights_reinit_cell tol gauss reached weighted pointed fun _ => accepted
  have same : c.HasPlanOf evaluated.state := sound.hasPlanOf_reinit ..
  have shows : evaluated.state.Shows V.coefficients :=
    (shows_of_reinit sound (.inr sloped) succeeded).2
  have size : evaluated.state.internal.size.toNat = rule.length := by
    rw [same.internal, sound.size_eq]
    rfl
  clear_value evaluated
  exact ⟨succeeded, sumOverPoints_eq fun q => weightedGradient_eq_ok shows (same.flags ▸ sloped)
    (same.flags ▸ weighted) size held k⟩

/-- On a face a point contributes its share of the length times value and normal. -/
theorem weightedFlux_eq_ok {f : Face} (shows : c.Shows V.coefficients)
    (onFace : c.placement.onFace) (values : c.flags.has .values) (weights : c.flags.has .weights)
    (normals : c.flags.has .normals)
    (held : c.mapping = ⟨Mapping.pointsOf V rule, rule.map (Mapping.lengthWeight V f),
      rule.map fun p => Mapping.normalAt V f p.point⟩) (k : Corner) {q : Nat}
    (bound : q < rule.length) :
    c.weightedFlux k (.int q) = .ok (Point.scale rule[q].weight
      (Point.scale ((Mapping.tangentAt V f rule[q].point).norm *
        (V.coefficients k).eval (Bilinear.mapPoint V rule[q].point))
        (Mapping.normalAt V f rule[q].point))) := by
  have placed : c.mapping.points = Mapping.pointsOf V rule := by rw [held]
  have weighted : c.mapping.weights = rule.map (Mapping.lengthWeight V f) := by rw [held]
  have turned : c.mapping.normals = rule.map fun p => Mapping.normalAt V f p.point := by rw [held]
  have weight := weight_eq_ok_of_rule weighted weights shows.ready bound
  have value := shapeValue_eq_ok_of_rule placed shows values k bound
  have direction : c.normal (.int q) = .ok (Mapping.normalAt V f rule[q].point) := by
    rw [normal_eq_ok turned onFace normals shows.ready (by simpa using bound), List.getElem_map]
  simp only [weightedFlux, weight, value, direction, bind, Except.bind, pure, Except.pure]
  refine congrArg Except.ok (Point.ext ?_ ?_) <;>
    simp only [Mapping.lengthWeight, Point.scale] <;> ring

theorem sumOverPoints_weightedFlux (tol : Tolerances (Bound ℝ)) {m : Nat}
    (reached : IsReached (.face m) requested c)
    (values : requested.has .values) (normals : requested.has .normals)
    (accepted : V.IsAccepted tol none) (found : gauss m = .ok r) (nodes : r.length = m)
    (positive : 1 ≤ m) (f : Face) (k : Corner) :
    let evaluated := c.reinit tol gauss (.ok V) (.int f.number) .none
    evaluated.fault? = none ∧
      sumOverPoints m (evaluated.state.weightedFlux k) =
        .ok ((Rule.onFace f r).integrateField fun p =>
          Point.scale ((Mapping.tangentAt V f p).norm *
            (V.coefficients k).eval (Bilinear.mapPoint V p)) (Mapping.normalAt V f p)) := by
  intro evaluated
  have sound := reached.isSound
  have valued := sound.has_of_requested values
  have normal := sound.has_of_requested normals
  have weighted : c.flags.has .weights := sound.has_weights normal
  obtain ⟨succeeded, mapping⟩ : evaluated.fault? = none ∧ evaluated.state.mapping =
      Mapping.written V (Rule.onFace f r) c.flags (some f) c.mapping :=
    call_onFace tol reached rfl (LineRule.ofOrder?_int positive found) (congrArg Int.ofNat nodes)
      (List.ne_nil_of_length_pos (nodes ▸ positive)) (fun _ => accepted) f .lower
  have room := reached.exists_normal rfl normal (Int.natCast_pos.mpr positive)
  rw [Mapping.written_onFace (sound.has_points valued) weighted normal room] at mapping
  have same : c.HasPlanOf evaluated.state := sound.hasPlanOf_reinit ..
  have shows : evaluated.state.Shows V.coefficients :=
    (shows_of_reinit sound (.inl valued) succeeded).2
  have onFace : evaluated.state.placement.onFace := by
    rw [same.placement, sound.placement_eq]
    rfl
  have length : (Rule.onFace f r).length = m := (Rule.length_onFace f r).trans nodes
  clear_value evaluated
  refine ⟨succeeded, ?_⟩
  rw [← length]
  exact sumOverPoints_eq fun q => weightedFlux_eq_ok shows onFace (same.flags ▸ valued)
    (same.flags ▸ weighted) (same.flags ▸ normal) mapping k

/-- Green's identity for one shape function, with the sums that the accessors give: the gradients
inside a strictly convex cell add up to the values times the normals on its four faces. -/
theorem discrete_green (n m : Nat) (gauss : LineFamily ℝ) (r s : LineRule ℝ) (rule : Rule ℝ)
    (tol : Tolerances (Bound ℝ)) (V : Quad ℝ) (k : Corner) (inside onFaces : UpdateFlags)
    (c : Context ℝ) (d : Face → Context ℝ) (positive : 1 ≤ n ∧ 1 ≤ m)
    (found : gauss n = .ok r ∧ gauss m = .ok s) (centred : r.IsCentred ∧ s.IsCentred)
    (nodes : s.length = m) (made : Rule.square? gauss (.int n) = .ok rule)
    (convex : V.IsStrictlyConvex) (accepted : V.IsAccepted tol none)
    (sloped : inside.has .gradients ∧ inside.has .weights)
    (valued : onFaces.has .values ∧ onFaces.has .normals)
    (reached : IsReached (.cell rule) inside c) (faces : ∀ f, IsReached (.face m) onFaces (d f)) :
    let volume := c.reinit tol gauss (.ok V) .none .none
    let face f := (d f).reinit tol gauss (.ok V) (.int (Face.number f)) .none
    volume.fault? = none ∧ (∀ f, (face f).fault? = none) ∧
      ∃ (total : Point ℝ) (flux : Face → Point ℝ),
        sumOverPoints rule.length (volume.state.weightedGradient k) = .ok total ∧
        (∀ f, sumOverPoints m ((face f).state.weightedFlux k) = .ok (flux f)) ∧
        total = flux .left + flux .right + flux .bottom + flux .top := by
  intro volume face
  obtain rfl : Rule.square r = rule := Except.ok.inj
    ((Rule.square?_eq_ok (LineRule.ofOrder?_int positive.1 found.1)).symm.trans made)
  obtain ⟨o, oriented⟩ := convex.exists_orientation
  obtain ⟨evaluated, gradients⟩ := sumOverPoints_weightedGradient tol gauss
    reached sloped.2 sloped.1 accepted (Rule.square_ne_nil centred.1.ne_nil) k
  have fluxes (f : Face) := sumOverPoints_weightedFlux tol (faces f) valued.1 valued.2
    accepted found.2 nodes positive.2 f k
  have area := Quad.integrateField_gradient centred.1 oriented (V.coefficients k)
  have edge := Quad.integrateField_flux centred.2 oriented (V.coefficients k)
  refine ⟨evaluated, fun f => (fluxes f).1, _, fun f => _, gradients.trans (congrArg _ area),
    fun f => (fluxes f).2.trans (congrArg _ (edge f)), ?_⟩
  have green := V.green_affine (V.coefficients k)
  apply Point.ext
  · have first := congrArg Point.x green
    simp only [Point.scale, Point.add_x] at first ⊢
    linear_combination o * first
  · have second := congrArg Point.y green
    simp only [Point.scale, Point.add_y] at second ⊢
    linear_combination o * second

theorem discrete_green_mirrored :
    let trapezoid : Quad ℝ := .of ⟨0, 0⟩ ⟨-2, 0⟩ ⟨0, 1⟩ ⟨-1, 1⟩
    let pair : LineRule ℝ := [⟨-(1 / Real.sqrt 3), 1⟩, ⟨1 / Real.sqrt 3, 1⟩]
    let gauss : LineFamily ℝ := fun n => .ok (if n = 1 then [⟨0, 2⟩] else pair)
    let tol := (⟨0, 0, 0⟩ : Tolerances ℝ).map .number
    ∃ c d : Context ℝ,
      (build (.cell (Rule.square pair)) (.ofList [.gradients, .weights])).outcome = .ok c ∧
      (build (.face 1) (.ofList [.values, .normals])).outcome = .ok d ∧
      ∃ (total : Point ℝ) (flux : Face → Point ℝ),
        sumOverPoints 4 ((c.reinit tol gauss (.ok trapezoid) .none .none).state.weightedGradient
          .topLeft) = .ok total ∧
        (∀ f, sumOverPoints 1 ((d.reinit tol gauss (.ok trapezoid) (.int (Face.number f))
          .none).state.weightedFlux .topLeft) = .ok (flux f)) ∧
        total = flux .left + flux .right + flux .bottom + flux .top := by
  intro trapezoid pair gauss tol
  obtain ⟨c, inside⟩ : ∃ c : Context ℝ, (build (.cell (Rule.square pair))
      (.ofList [.gradients, .weights])).outcome = .ok c := ⟨_, rfl⟩
  obtain ⟨d, onFaces⟩ : ∃ d : Context ℝ,
      (build (.face 1) (.ofList [.values, .normals])).outcome = .ok d := ⟨_, rfl⟩
  have symmetric : pair.IsCentred := by
    have root : 1 ≤ Real.sqrt 3 := Real.one_le_sqrt.mpr (by norm_num)
    exact LineRule.isCentred_pair (by positivity)
      ((div_le_one₀ (zero_lt_one.trans_le root)).mpr root)
  obtain ⟨_, _, total, flux, volume, faces, balance⟩ := discrete_green 2 1 gauss pair [⟨0, 2⟩]
    (Rule.square pair) tol trapezoid .topLeft _ _ c (fun _ => d) (by decide) ⟨rfl, rfl⟩
    ⟨symmetric, LineRule.isCentred_middle⟩ rfl rfl Quad.isStrictlyConvex_mirrored
    Quad.isAccepted_mirrored (by decide) (by decide) ⟨c, inside, .refl c⟩
    fun _ => ⟨d, onFaces, .refl d⟩
  exact ⟨c, d, inside, onFaces, total, flux, volume, faces, balance⟩

end Context
end NonconformingQuad
end
