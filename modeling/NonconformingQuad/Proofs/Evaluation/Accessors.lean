import NonconformingQuad.Proofs.Evaluation.Histories
import NonconformingQuad.Proofs.Tensor.Reading

/-! What a context tells after an evaluation. The accessors read the physical points, and the
values and gradients that the function with given values at the corners has there. -/
namespace NonconformingQuad

/-- The quantity was not requested, or there is no cell yet. -/
def Fault.isUnavailable {K : Type} : Fault K → Bool
  | notRequested .. | notReady _ => true
  | _ => false

namespace Context
variable {K : Type} [Scalar K]

/-- The context holds the shape data of a table of shape functions at its own points. -/
structure Shows (N : ShapeTable K) (c : Context K) : Prop where
  ready : c.ready = true
  points : c.flags.has .values → c.mapping.points.length = c.internal.size.toNat
  values : c.flags.has .values →
    c.shapes.values = some
      (P1.valuesAt N (Tensor.ofPoints c.mapping.points) c.internal.size.toNat)
  gradients : c.flags.has .gradients →
    c.shapes.gradients = some (P1.gradientsAt N c.internal.size.toNat)

variable {c : Context K} {N : ShapeTable K} {q : Nat}

omit [Scalar K] in
theorem require_eq_ok {quantity : Quantity} (requested : c.flags.has quantity)
    (ready : c.ready = true) : c.require quantity = .ok () := by
  simp [require, requested, ready]

omit [Scalar K] in
theorem require_of_unavailable {quantity : Quantity}
    (missing : ¬(c.flags.has quantity ∧ c.ready)) :
    ∃ e, c.require quantity = .error e ∧ e.isUnavailable := by
  rw [require]
  split
  · next requested =>
    have waiting : ¬c.ready := fun ready => missing ⟨requested, ready⟩
    exact ⟨.notReady quantity, if_neg waiting, rfl⟩
  · exact ⟨.notRequested quantity c.flags, rfl, rfl⟩

theorem read_of_require {quantity : Quantity} {e : Fault K} {indices : List Literal}
    (refused : c.require quantity = .error e) : c.read quantity indices = .error e := by
  rw [read, refused]
  rfl

theorem read_eq_ok {quantity : Quantity} {indices : List Literal} {is : List Int} {t : Tensor K}
    (given : indices.mapM Literal.index = .ok is) (requested : c.flags.has quantity)
    (ready : c.ready = true) (found : (c.buffer quantity).sub? is = some t) :
    c.read quantity indices = .ok t := by
  have index : (indices.mapM Literal.index).mapError .misuse = (.ok is : Except (Fault K) _) := by
    rw [given]
    rfl
  simp only [read, require_eq_ok requested ready, index, found, bind, Except.bind, pure,
    Except.pure]

/-- One of several points in a buffer. -/
theorem read_point {quantity : Quantity} {ps : List (Point K)} (requested : c.flags.has quantity)
    (ready : c.ready = true) (held : c.buffer quantity = .ofPoints ps) (bound : q < ps.length) :
    (c.read quantity [.int q]).map (fun t => (⟨t.value [0], t.value [1]⟩ : Point K)) =
      .ok ps[q] := by
  have row : (c.buffer quantity).sub? [(q : Int)] = some (.tabulate [2] fun is =>
      (Tensor.ofPoints ps).value (q :: is)) := by
    rw [held]
    exact Tensor.sub?_singleton rfl bound
  obtain ⟨first, second⟩ := Tensor.value_ofPoints bound
  rw [read_eq_ok rfl requested ready row]
  simp only [Except.map, Tensor.value_tabulate _ (show Index.Within [2] [0] by decide),
    Tensor.value_tabulate _ (show Index.Within [2] [1] by decide), first, second]

theorem quadraturePoint_eq_ok {ps : List (Point K)} (held : c.mapping.points = ps)
    (requested : c.flags.has .points) (ready : c.ready = true) (bound : q < ps.length) :
    c.quadraturePoint (.int q) = .ok ps[q] :=
  read_point requested ready (congrArg Tensor.ofPoints held) bound

theorem normal_eq_ok {ns : List (Point K)} (held : c.mapping.normals = ns)
    (onFace : c.placement.onFace) (requested : c.flags.has .normals) (ready : c.ready = true)
    (bound : q < ns.length) : c.normal (.int q) = .ok ns[q] := by
  rw [normal, if_pos onFace]
  exact read_point requested ready (congrArg Tensor.ofPoints held) bound

theorem weight_eq_ok {ws : List K} (held : c.mapping.weights = ws)
    (requested : c.flags.has .weights) (ready : c.ready = true) (bound : q < ws.length) :
    c.weight (.int q) = .ok ws[q] := by
  subst held
  have entry : (c.buffer .weights).sub? [(q : Int)] = some (.tabulate [] fun is =>
      (Tensor.ofList c.mapping.weights).value (q :: is)) := Tensor.sub?_singleton rfl bound
  have value : (Tensor.ofList c.mapping.weights).value [q] = c.mapping.weights[q] :=
    Tensor.value_ofList bound
  rw [weight, read_eq_ok rfl requested ready entry]
  simp only [Except.map, Tensor.value_tabulate _ (show Index.Within [] [] from trivial), value]

/-- The weight of a point of the rule, measured in some way. -/
theorem weight_eq_ok_of_rule {rule : Rule K} {measure : RulePoint K → K}
    (held : c.mapping.weights = rule.map measure) (requested : c.flags.has .weights)
    (ready : c.ready = true) (bound : q < rule.length) :
    c.weight (.int q) = .ok (measure rule[q]) := by
  rw [weight_eq_ok held requested ready (by rwa [List.length_map]), List.getElem_map]

theorem quadraturePoint_singleton {p : Point K} (requested : c.flags.has .points)
    (ready : c.ready = true) (held : c.mapping.points = [p]) :
    c.quadraturePoint (.int 0) = .ok p := by
  have bound : 0 < [p].length := Nat.zero_lt_one
  exact quadraturePoint_eq_ok held requested ready bound

theorem sumUpTo_corners (f : Nat → K) :
    Tensor.sumUpTo 4 f = Corner.sum fun k => f k.number := rfl

theorem value_corners (d : Corner → K) (k : Corner) :
    (Tensor.ofList (Corner.all.map d)).value [k.number] = d k := by
  cases k <;> rfl

theorem shapeValue_eq_ok {ps : List (Point K)} (placed : c.mapping.points = ps)
    (shows : c.Shows N) (requested : c.flags.has .values) (k : Corner) (bound : q < ps.length) :
    c.shapeValue (.int k.number) (.int q) = .ok ((N k).eval ps[q]) := by
  subst placed
  have held : c.buffer .values =
      P1.valuesAt N (Tensor.ofPoints c.mapping.points) c.mapping.points.length := by
    simp only [buffer, ShapeBuffers.get, shows.values requested, shows.points requested,
      Option.getD_some]
  have entry := Tensor.sub?_of_within (t := c.buffer .values)
    [P1.dofsPerCell, c.mapping.points.length] [] [k.number, q] (by rw [held]; rfl)
    ⟨k.number_lt, bound, trivial⟩
  rw [shapeValue, read_eq_ok rfl requested shows.ready entry]
  simp only [Except.map, Tensor.value_tabulate _ (show Index.Within [] [] from trivial), held,
    List.append_nil, P1.value_valuesAt_ofPoints N k bound]

theorem shapeValue_eq_ok_of_rule {V : Quad K} {rule : Rule K}
    (placed : c.mapping.points = Mapping.pointsOf V rule) (shows : c.Shows N)
    (requested : c.flags.has .values) (k : Corner) (bound : q < rule.length) :
    c.shapeValue (.int k.number) (.int q) =
      .ok ((N k).eval (Bilinear.mapPoint V rule[q].point)) := by
  have points : c.mapping.points = rule.map fun p => Bilinear.mapPoint V p.point := placed
  rw [shapeValue_eq_ok points shows requested k (by rwa [List.length_map]), List.getElem_map]

theorem shapeGradient_eq_ok (shows : c.Shows N) (requested : c.flags.has .gradients) (k : Corner)
    (bound : q < c.internal.size.toNat) :
    c.shapeGradient (.int k.number) (.int q) = .ok (N k).gradient := by
  have held : c.buffer .gradients = P1.gradientsAt N c.internal.size.toNat := by
    simp only [buffer, ShapeBuffers.get, shows.gradients requested, Option.getD_some]
  have entry := Tensor.sub?_of_within (t := c.buffer .gradients)
    [P1.dofsPerCell, c.internal.size.toNat] [2] [k.number, q] (by rw [held]; rfl)
    ⟨k.number_lt, bound, trivial⟩
  rw [shapeGradient, read_eq_ok rfl requested shows.ready entry]
  simp only [Except.map, Tensor.value_tabulate _ (show Index.Within [2] [0] by decide),
    Tensor.value_tabulate _ (show Index.Within [2] [1] by decide), held, List.cons_append,
    List.nil_append, P1.value_gradientsAt N k bound (show 0 < 2 by decide),
    P1.value_gradientsAt N k bound (show 1 < 2 by decide)]
  rfl

theorem functionValues_eq_ok (shows : c.Shows N) (requested : c.flags.has .values)
    (d : Corner → K) :
    ∃ t, c.functionValues (.ofList (Corner.all.map d)) = .ok t ∧
      t.shape = [c.mapping.points.length] ∧
      ∀ q (bound : q < c.mapping.points.length),
        t.value [q] = Corner.sum fun k => d k * (N k).eval c.mapping.points[q] := by
  let n := c.mapping.points.length
  let table := P1.valuesAt N (Tensor.ofPoints c.mapping.points) n
  have held : c.buffer .values = table := by
    simp [buffer, ShapeBuffers.get, shows.values requested, table, n, shows.points requested]
  have product : c.functionValues (.ofList (Corner.all.map d)) = .ok (.tabulate [n] fun is =>
      Tensor.sumUpTo 4 fun l =>
        (Tensor.ofList (Corner.all.map d)).value [l] * table.value [l, is.getD 0 0]) := by
    rw [functionValues, require_eq_ok requested shows.ready, held, Tensor.matmul?_row rfl rfl]
    rfl
  refine ⟨_, product, rfl, fun q bound => ?_⟩
  have within : Index.Within [n] [q] := ⟨bound, trivial⟩
  rw [Tensor.value_tabulate _ within, sumUpTo_corners]
  simp only [List.getD_cons_zero, value_corners, table, n, P1.value_valuesAt_ofPoints N _ bound]

theorem functionGradients_eq_ok (shows : c.Shows N) (requested : c.flags.has .gradients)
    (d : Corner → K) :
    ∃ t, c.functionGradients (.ofList (Corner.all.map d)) = .ok t ∧
      t.shape = [c.internal.size.toNat, 2] ∧
      ∀ q < c.internal.size.toNat, ∀ j < 2,
        t.value [q, j] = Corner.sum fun k => d k * (N k).coefficient j := by
  let n := c.internal.size.toNat
  have held : c.buffer .gradients = P1.gradientsAt N n := by
    simp [buffer, ShapeBuffers.get, shows.gradients requested, n]
  have product : c.functionGradients (.ofList (Corner.all.map d)) = .ok (.tabulate [n, 2] fun is =>
      Tensor.sumUpTo 4 fun l =>
        (Tensor.ofList (Corner.all.map d)).value [l] * (P1.gradientsAt N n).value (l :: is)) := by
    rw [functionGradients, require_eq_ok requested shows.ready, held]
    rfl
  refine ⟨_, product, rfl, fun q bound j axis => ?_⟩
  have within : Index.Within [n, 2] [q, j] := ⟨bound, axis, trivial⟩
  rw [Tensor.value_tabulate _ within, sumUpTo_corners]
  simp only [value_corners, n, P1.value_gradientsAt N _ bound axis]

end Context
end NonconformingQuad
