import NonconformingQuad.Proofs.Evaluation.Calls
import NonconformingQuad.Proofs.Evaluation.ElementMatrices
import NonconformingQuad.Proofs.Geometry.Normals
import NonconformingQuad.Proofs.Quadrature.Halves

/-! Faces and their halves. Across a face with two smaller neighbours one context works on the face
and another on each half of it. Along an edge a shape function is affine and the length element
constant, so a rule that is exact on the face gives the same weighted sum for the two halves
together as for the face. -/
noncomputable section
namespace NonconformingQuad

namespace Context
variable {K : Type} [Scalar K]

/-- What a point contributes to the integral of a shape function. -/
def weightedValue (k : Corner) (c : Context K) (q : Literal) : Except (Fault K) K := do
  let w ← c.weight q
  let v ← c.shapeValue (.int k.number) q
  return w * v

end Context

namespace Quad
variable (V : Quad ℝ) (N : Affine ℝ) (f : Face)

/-- A function on the cell at a parameter of the face, times the length element. -/
def edgeDensity (t : ℝ) : ℝ :=
  (V.halfEdge f).norm * N.eval (Bilinear.mapPoint V (f.pointAt t))

theorem isPolynomial_edgeDensity : IsPolynomial 1 (V.edgeDensity N f) := by
  refine IsPolynomial.of_values fun t => ?_
  simp only [edgeDensity, mapPoint_pointAt, Affine.eval_add, Point.dot_scale]
  ring

theorem integrate_edgeDensity (r : LineRule ℝ) :
    (Rule.onFace f r).integrate (fun p =>
        (Mapping.tangentAt V f p).norm * N.eval (Bilinear.mapPoint V p)) =
      r.integrate (V.edgeDensity N f) := by
  rw [Rule.integrate_onFace]
  refine congrArg r.integrate (funext fun t => ?_)
  rw [Mapping.tangentAt, along_tangent, edgeDensity]

end Quad

namespace Context
variable {n : Nat} {gauss : LineFamily ℝ} {r : LineRule ℝ} {placement : Placement ℝ}
  {requested : UpdateFlags} {c : Context ℝ} {V : Quad ℝ}

theorem weightedValue_eq_ok {f : Face} {rule : Rule ℝ} (shows : c.Shows V.coefficients)
    (values : c.flags.has .values) (weights : c.flags.has .weights)
    (placed : c.mapping.points = Mapping.pointsOf V rule)
    (weighted : c.mapping.weights = rule.map (Mapping.lengthWeight V f)) (k : Corner) {q : Nat}
    (bound : q < rule.length) :
    c.weightedValue k (.int q) = .ok (rule[q].weight *
      ((Mapping.tangentAt V f rule[q].point).norm *
        (V.coefficients k).eval (Bilinear.mapPoint V rule[q].point))) := by
  have weight := weight_eq_ok_of_rule weighted weights shows.ready bound
  have value := shapeValue_eq_ok_of_rule placed shows values k bound
  simp only [weightedValue, weight, value, bind, Except.bind, pure, Except.pure,
    Mapping.lengthWeight]
  refine congrArg Except.ok ?_
  ring

/-- The sum that a context on a face, or on half of one, tells is that of its line rule. -/
theorem totalOverPoints_weightedValue (tol : Tolerances (Bound ℝ)) (onFace : placement.onFace)
    (size : placement.size = n) (positive : 1 ≤ n) (found : gauss n = .ok r)
    (nodes : r.length = n) (reached : IsReached placement requested c)
    (values : requested.has .values) (weights : requested.has .weights)
    (accepted : V.IsAccepted tol none) (f : Face) (h : Half) (k : Corner) :
    let evaluated := c.call tol gauss (.ofIntegers placement (.ok V) f.number h.number)
    evaluated.fault? = none ∧
      totalOverPoints n (evaluated.state.weightedValue k) =
        .ok ((placement.lineRule r h).integrate (V.edgeDensity (V.coefficients k) f)) := by
  intro evaluated
  have sound := reached.isSound
  have valued := sound.has_of_requested values
  have weighted := sound.has_of_requested weights
  have line : LineRule.ofOrder? gauss (.int placement.size) = .ok r := by
    rw [size]
    exact LineRule.ofOrder?_int positive found
  obtain ⟨succeeded, mapping⟩ : evaluated.fault? = none ∧ evaluated.state.mapping =
      Mapping.written V (Rule.onFace f (placement.lineRule r h)) c.flags (some f) c.mapping :=
    call_onFace tol reached onFace line (by rw [size, nodes])
      (List.ne_nil_of_length_pos (nodes ▸ positive)) (fun _ => accepted) f h
  have shows : evaluated.state.Shows V.coefficients :=
    (shows_of_reinit sound (.inl valued) succeeded).2
  have flags : evaluated.state.flags = c.flags := (sound.hasPlanOf_reinit ..).flags
  clear_value evaluated
  have points : evaluated.state.mapping.points =
      Mapping.pointsOf V (Rule.onFace f (placement.lineRule r h)) := by
    rw [mapping, Mapping.written, if_pos (sound.has_points valued)]
  have lengths : evaluated.state.mapping.weights =
      (Rule.onFace f (placement.lineRule r h)).map (Mapping.lengthWeight V f) := by
    rw [mapping, Mapping.written, if_pos weighted]
    rfl
  have length : (Rule.onFace f (placement.lineRule r h)).length = n :=
    (Rule.length_onFace f _).trans ((placement.length_lineRule r h).trans nodes)
  refine ⟨succeeded, ?_⟩
  rw [← length, ← Quad.integrate_edgeDensity]
  exact totalOverPoints_eq fun q =>
    weightedValue_eq_ok shows (flags ▸ valued) (flags ▸ weighted) points lengths k

/-- The rules on the two halves of a face run along these halves, and together they integrate what
the rule on the face integrates. On an accepted cell the weighted sums of a shape function over the
two halves therefore add up to the one over the face. -/
theorem halves_add_up (n : Nat) (gauss : LineFamily ℝ) (r : LineRule ℝ) (f : Face)
    (positive : 1 ≤ n) (found : gauss n = .ok r) (nodes : r.length = n)
    (within : ∀ p ∈ r, -1 < p.node ∧ p.node < 1)
    (ascending : r.Pairwise fun p q => p.node < q.node) (exact : r.IsExact (2 * n - 1)) :
    (∃ whole lower upper, Rule.face? gauss (.int f.number) (.int n) = .ok whole ∧
        Rule.half? gauss (.int f.number) (.int 0) (.int n) = .ok lower ∧
        Rule.half? gauss (.int f.number) (.int 1) (.int n) = .ok upper ∧
        whole.RunsAlong f (-1) 1 ∧ lower.RunsAlong f (-1) 0 ∧ upper.RunsAlong f 0 1 ∧
        ∀ p : Polynomial ℝ, p.natDegree ≤ 2 * n - 1 →
          lower.integrate (fun x => p.eval (f.parameter x)) +
              upper.integrate (fun x => p.eval (f.parameter x)) =
            whole.integrate fun x => p.eval (f.parameter x)) ∧
      ∀ (tol : Tolerances (Bound ℝ)) (V : Quad ℝ) (onFace onHalf : UpdateFlags) (c : Context ℝ)
        (d : Half → Context ℝ), V.IsAccepted tol none →
        onFace.has .values ∧ onFace.has .weights → onHalf.has .values ∧ onHalf.has .weights →
        IsReached (.face n) onFace c → (∀ h, IsReached (.half n) onHalf (d h)) →
        let face := c.reinit tol gauss (.ok V) (.int f.number) .none
        let half (h : Half) := (d h).reinit tol gauss (.ok V) (.int f.number) (.int h.number)
        face.fault? = none ∧ (∀ h, (half h).fault? = none) ∧ ∀ k, ∃ lower upper : ℝ,
          totalOverPoints n ((half .lower).state.weightedValue k) = .ok lower ∧
          totalOverPoints n ((half .upper).state.weightedValue k) = .ok upper ∧
          totalOverPoints n (face.state.weightedValue k) = .ok (lower + upper) := by
  have line := LineRule.ofOrder?_int positive found
  constructor
  · obtain ⟨lower, upper⟩ := Rule.runsAlong_halves f within ascending
    refine ⟨_, _, _, Rule.face?_number line f, Rule.half?_number line f .lower,
      Rule.half?_number line f .upper, Rule.runsAlong_onFace f within ascending, lower, upper,
      fun p degree => ?_⟩
    have poly : IsPolynomial (2 * n - 1) fun t => p.eval t := ⟨p, degree, fun _ => rfl⟩
    simpa only [Rule.integrate_onFace, Face.parameter_pointAt] using exact.integrate_halves poly
  · intro tol V onFace onHalf c d accepted asked asked' reached reached' face half
    have whole (k : Corner) := totalOverPoints_weightedValue tol rfl rfl positive found nodes
      reached asked.1 asked.2 accepted f .lower k
    have part (h : Half) (k : Corner) := totalOverPoints_weightedValue tol rfl rfl positive found
      nodes (reached' h) asked'.1 asked'.2 accepted f h k
    refine ⟨(whole .bottomLeft).1, fun h => (part h .bottomLeft).1, fun k =>
      ⟨_, _, (part .lower k).2, (part .upper k).2, (whole k).2.trans (congrArg Except.ok ?_)⟩⟩
    have poly := (V.isPolynomial_edgeDensity (V.coefficients k) f).mono (e := 2 * n - 1) (by omega)
    exact (exact.integrate_halves poly).symm

/-- The rule of two nodes on the top face of a trapezoid that is turned over. -/
theorem halves_add_up_mirrored :
    let a := Real.sqrt (1 / 3)
    let gauss : LineFamily ℝ := fun n => .ok (if n = 1 then [⟨0, 2⟩] else [⟨-a, 1⟩, ⟨a, 1⟩])
    let tol := (⟨0, 0, 0⟩ : Tolerances ℝ).map .number
    ∃ (c d : Context ℝ) (rule : Rule ℝ) (lower upper : ℝ),
      (build (.face 2) (.ofList [.values, .weights])).outcome = .ok c ∧
      (build (.half 2) (.ofList [.values, .weights])).outcome = .ok d ∧
      Rule.half? gauss (.int 3) (.int 1) (.int 2) = .ok rule ∧ rule.RunsAlong .top 0 1 ∧
      let sum (evaluated : Attempt ℝ (Context ℝ)) :=
        totalOverPoints 2 (evaluated.state.weightedValue .topRight)
      sum (d.reinit tol gauss (.ok .mirrored) (.int 3) (.int 0)) = .ok lower ∧
      sum (d.reinit tol gauss (.ok .mirrored) (.int 3) (.int 1)) = .ok upper ∧
      sum (c.reinit tol gauss (.ok .mirrored) (.int 3) .none) = .ok (lower + upper) := by
  intro a gauss tol
  obtain ⟨c, built⟩ : ∃ c : Context ℝ,
      (build (.face 2) (.ofList [.values, .weights])).outcome = .ok c := ⟨_, rfl⟩
  obtain ⟨d, built'⟩ : ∃ d : Context ℝ,
      (build (.half 2) (.ofList [.values, .weights])).outcome = .ok d := ⟨_, rfl⟩
  have square : a ^ 2 = 1 / 3 := Real.sq_sqrt (by norm_num)
  have positive : 0 < a := Real.sqrt_pos.mpr (by norm_num)
  have small : a < 1 := by nlinarith
  have within : ∀ p ∈ ([⟨-a, 1⟩, ⟨a, 1⟩] : LineRule ℝ), -1 < p.node ∧ p.node < 1 := by
    intro p member
    obtain rfl | rfl := List.mem_pair.mp member
    · exact ⟨neg_lt_neg small, (neg_lt_zero.mpr positive).trans one_pos⟩
    · exact ⟨neg_one_lt_zero.trans positive, small⟩
  have ascending : ([⟨-a, 1⟩, ⟨a, 1⟩] : LineRule ℝ).Pairwise fun p q => p.node < q.node :=
    List.pairwise_pair.mpr (neg_lt_self positive)
  obtain ⟨⟨-, -, rule, -, -, made, -, -, runs, -⟩, sums⟩ := halves_add_up 2 gauss _ .top (by decide)
    rfl rfl within ascending (LineRule.isExact_pair square)
  obtain ⟨-, -, total⟩ := sums tol .mirrored _ _ c (fun _ => d) Quad.isAccepted_mirrored
    (by decide) (by decide) ⟨c, built, .refl c⟩ fun _ => ⟨d, built', .refl d⟩
  obtain ⟨lower, upper, first, second, whole⟩ := total .topRight
  exact ⟨c, d, rule, lower, upper, built, built', made, runs, first, second, whole⟩

end Context
end NonconformingQuad
end
