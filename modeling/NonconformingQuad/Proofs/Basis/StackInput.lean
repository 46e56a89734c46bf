import NonconformingQuad.Basis.StackInput
import NonconformingQuad.Proofs.Outcome
import NonconformingQuad.Proofs.Tensor.Stacking

/-! Stacks as arrays. The array of a list of cells gives these cells back, and so does the array of
their points; the tables of values and gradients have the same order by cell and point, with the
corners last. -/
namespace NonconformingQuad.Stack
open Tensor Index
variable {K : Type} [Scalar K]

omit [Scalar K] in
theorem quads_flatten (cells : List (Quad K)) :
    quads (cells.map Quad.vertices).flatten = cells := by
  induction cells with
  | nil => rfl
  | cons V rest ih =>
    change Quad.of (V .bottomLeft) (V .bottomRight) (V .topLeft) (V .topRight) ::
      quads (rest.map Quad.vertices).flatten = V :: rest
    rw [ih]
    congr 1
    funext k
    cases k <;> rfl

theorem cellsOf_vertexTensor (cells : List (Quad K)) :
    cellsOf (vertexTensor cells) = .ok cells := by
  have four : ∀ ps ∈ cells.map Quad.vertices, ps.length = 4 := by
    intro ps member
    obtain ⟨V, -, rfl⟩ := List.mem_map.mp member
    rfl
  change Except.ok (quads (pointTensor 4 (cells.map Quad.vertices)).toPoints) = _
  rw [pointTensor, toPoints_stack four, quads_flatten]

omit [Scalar K] in
theorem groups_flatten {n : Nat} {pss : List (List (Point K))}
    (lengths : ∀ ps ∈ pss, ps.length = n) : groups n pss.length pss.flatten = pss := by
  induction pss with
  | nil => rfl
  | cons ps rest ih =>
    obtain ⟨length, others⟩ := List.forall_mem_cons.mp lengths
    rw [List.length_cons, groups, List.flatten_cons, List.take_left' length,
      List.drop_left' length, ih others]

theorem pointsOf_pointTensor {n : Nat} {pss : List (List (Point K))}
    (lengths : ∀ ps ∈ pss, ps.length = n) :
    pointsOf pss.length (pointTensor n pss) = .ok ⟨n, pss⟩ := by
  have count : (pss.map ofPoints).toArray.size = pss.length := by simp
  change (if (pss.map ofPoints).toArray.size = pss.length then
    Except.ok (⟨n, groups n pss.length (pointTensor n pss).toPoints⟩ : PointStack K) else _) = _
  rw [if_pos count, pointTensor, toPoints_stack lengths, groups_flatten lengths]

omit [Scalar K] in
theorem pointRows_ofPoints (ps : List (Point K)) : (ofPoints ps).pointRows = .ok ps := by
  rw [pointRows, pairs?_ofPoints]
  exact congrArg Except.ok (toPoints_ofPoints ps)

theorem sub?_pointTensor {n e : Nat} {pss : List (List (Point K))}
    (lengths : ∀ ps ∈ pss, ps.length = n) (cell : e < pss.length) :
    (pointTensor n pss).sub? [(e : Int)] = some (ofPoints pss[e]) := by
  have bound : e < (pss.map ofPoints).length := by rwa [List.length_map]
  rw [pointTensor, sub?_stack (shape_of_mem_map lengths) bound, List.getElem_map]

theorem value_pointTensor {n e q : Nat} {pss : List (List (Point K))}
    (lengths : ∀ ps ∈ pss, ps.length = n) (cell : e < pss.length) (point : q < pss[e].length) :
    (⟨(pointTensor n pss).value [e, q, 0], (pointTensor n pss).value [e, q, 1]⟩ : Point K) =
      pss[e][q] := by
  have bound : e < (pss.map ofPoints).length := by rwa [List.length_map]
  have row : q < n := lengths _ (List.getElem_mem cell) ▸ point
  have first : Within [n, 2] [q, 0] := ⟨row, by decide, trivial⟩
  have second : Within [n, 2] [q, 1] := ⟨row, by decide, trivial⟩
  obtain ⟨x, y⟩ := value_ofPoints point
  rw [pointTensor, value_stack bound first, value_stack bound second, List.getElem_map, x, y]

theorem mapPointsOn_vertexTensor (cells : List (Quad K)) (ps : List (Point K)) :
    mapPointsOn (vertexTensor cells) (.ok (.ofPoints ps)) =
      .ok (pointTensor ps.length (mapPoints cells ps)) := by
  simp only [mapPointsOn, cellsOf_vertexTensor, pointRows_ofPoints, bind, Except.bind, pure,
    Except.pure]

theorem length_mapPoints (cells : List (Quad K)) (ps : List (Point K)) :
    (mapPoints cells ps).length = cells.length :=
  List.length_map _

theorem length_of_mem_mapPoints {cells : List (Quad K)} {ps : List (Point K)} :
    ∀ qs ∈ mapPoints cells ps, qs.length = ps.length := by
  intro qs member
  obtain ⟨V, -, rfl⟩ := List.mem_map.mp member
  exact List.length_map _

variable {tol : Tolerances (Bound K)} {threshold? : Option (Bound K)} {cells : List (Quad K)}
  {n : Nat} {pss : List (List (Point K))}

theorem tabulateOn_of_ok {tables : List (ShapeTable K)}
    (solved : (shapeTables tol threshold? cells).outcome = .ok tables)
    (lengths : ∀ ps ∈ pss, ps.length = n) (each : tables.length = pss.length) :
    (tabulateOn tol threshold? (vertexTensor cells) (.ok (pointTensor n pss))).outcome =
      .ok (tabulate tables ⟨n, pss⟩) := by
  simp only [tabulateOn, cellsOf_vertexTensor, Run.outcome_bind_eq_ok_iff, Run.outcome_ofExcept,
    Run.outcome_pure]
  refine ⟨cells, rfl, tables, solved, _, rfl, ⟨n, pss⟩, ?_, rfl⟩
  rw [each]
  exact pointsOf_pointTensor lengths

theorem tabulateOn_of_error {fault : Fault K} (points : Except (Fault K) (Tensor K))
    (refused : (shapeTables tol threshold? cells).outcome = .error fault) :
    (tabulateOn tol threshold? (vertexTensor cells) points).outcome = .error fault := by
  simp only [tabulateOn, cellsOf_vertexTensor, Run.outcome_bind_eq_error_iff, Run.outcome_ofExcept]
  exact .inr ⟨cells, rfl, .inl refused⟩

section Entries
variable {tables : List (ShapeTable K)} {e q : Nat}

theorem value_valueTensor (each : tables.length = pss.length)
    (lengths : ∀ ps ∈ pss, ps.length = n) (cell : e < pss.length) (point : q < pss[e].length)
    (k : Corner) :
    (tabulate tables ⟨n, pss⟩).valueTensor.value [e, q, k.number] =
      (tables[e] k).eval pss[e][q] := by
  have length := lengths _ (List.getElem_mem cell)
  have within : Within [(tabulate tables ⟨n, pss⟩).values.length,
      (tabulate tables ⟨n, pss⟩).size, 4] [e, q, k.number] :=
    ⟨by simp [tabulate, each, cell], length ▸ point, k.number_lt, trivial⟩
  rw [Tabulated.valueTensor, value_tabulate _ within]
  simp [tabulate, each, cell, point, Affine.eval]

theorem value_gradientTensor (each : tables.length = pss.length)
    (lengths : ∀ ps ∈ pss, ps.length = n) (cell : e < pss.length) (point : q < pss[e].length)
    (k : Corner) :
    let t := (tabulate tables ⟨n, pss⟩).gradientTensor
    (⟨t.value [e, q, k.number, 0], t.value [e, q, k.number, 1]⟩ : Point K) =
      (tables[e] k).gradient := by
  have length := lengths _ (List.getElem_mem cell)
  have within (j : Nat) (axis : j < 2) :
      Within [(tabulate tables ⟨n, pss⟩).gradients.length, (tabulate tables ⟨n, pss⟩).size, 4, 2]
        [e, q, k.number, j] :=
    ⟨by simp [tabulate, each, cell], length ▸ point, k.number_lt, axis, trivial⟩
  simp only [Tabulated.gradientTensor]
  rw [value_tabulate _ (within 0 (by decide)), value_tabulate _ (within 1 (by decide))]
  simp [tabulate, each, cell, point, Affine.gradient]

end Entries
end NonconformingQuad.Stack
