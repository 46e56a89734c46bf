import NonconformingQuad.Element.P1
import NonconformingQuad.Proofs.Outcome
import NonconformingQuad.Proofs.Tensor.Reading

/-! What the element writes. A successful fill has passed every check, and each requested
buffer is new while every other one is as it was. -/
namespace NonconformingQuad.P1
variable {K : Type} [Scalar K]

/-- The buffers after a fill: the requested ones from the shape functions and the prepared
second derivatives, the others untouched. -/
def written (site : Site) (table? : Option (ShapeTable K)) (points : Tensor K)
    (internal : InternalData K) (out : ShapeBuffers K) : ShapeBuffers K :=
  let n := internal.size.toNat
  { values := if internal.flags.has .values then table?.map (valuesAt · points n) else out.values
    gradients :=
      if internal.flags.has .gradients then table?.map (gradientsAt · n) else out.gradients
    hessians :=
      if internal.flags.has .hessians then
        match site, internal.hessians with
        | .cell, some cache => some cache
        | _, _ => some (.replicate [dofsPerCell, n, 2, 2] 0)
      else out.hessians }

theorem value_valuesAt (N : ShapeTable K) (points : Tensor K) (k : Corner) {n q : Nat}
    (bound : q < n) :
    (valuesAt N points n).value [k.number, q] =
      (N k).eval ⟨points.value [q, 0], points.value [q, 1]⟩ := by
  have within : Index.Within [dofsPerCell, n] [k.number, q] := ⟨k.number_lt, bound, trivial⟩
  rw [valuesAt, Tensor.value_tabulate _ within]
  simp only [List.getD_cons_zero, List.getD_cons_succ, Corner.ofIndex_number]

theorem value_valuesAt_ofPoints (N : ShapeTable K) (k : Corner) {ps : List (Point K)} {q : Nat}
    (bound : q < ps.length) :
    (valuesAt N (.ofPoints ps) ps.length).value [k.number, q] = (N k).eval ps[q] := by
  obtain ⟨first, second⟩ := Tensor.value_ofPoints bound
  rw [value_valuesAt N _ k bound, first, second]

theorem value_gradientsAt (N : ShapeTable K) (k : Corner) {n q j : Nat} (bound : q < n)
    (axis : j < 2) : (gradientsAt N n).value [k.number, q, j] = (N k).coefficient j := by
  have within : Index.Within [dofsPerCell, n, 2] [k.number, q, j] :=
    ⟨k.number_lt, bound, axis, trivial⟩
  rw [gradientsAt, Tensor.value_tabulate _ within]
  simp only [List.getD_cons_zero, List.getD_cons_succ, Corner.ofIndex_number]

variable {tol : Tolerances (Bound K)} {site : Site} {cell : Except (Fault K) (Quad K)}
  {points : Tensor K} {internal : InternalData K} {out filled : ShapeBuffers K}

theorem outcome_fill_eq_ok_iff :
    (fill tol site cell points internal out).outcome = .ok filled ↔
      site.check (K := K) = .ok () ∧ out.check dofsPerCell internal.size internal.flags = .ok () ∧
      ∃ table?, (tableFor tol internal.flags cell).outcome = .ok table? ∧
        (internal.flags.has .values → points.shape.map Int.ofNat = [internal.size, 2]) ∧
        filled = written site table? points internal out := by
  simp only [fill, Run.outcome_bind_eq_ok_iff, Run.outcome_ofExcept]
  constructor
  · rintro ⟨⟨⟩, placed, ⟨⟩, fits, table?, solved, rest⟩
    refine ⟨placed, fits, table?, solved, ?_⟩
    split at rest
    · contradiction
    · next agrees =>
      refine ⟨fun requested => ?_, (Except.ok.inj rest).symm⟩
      simpa [requested] using agrees
  · rintro ⟨placed, fits, table?, solved, agrees, rfl⟩
    refine ⟨(), placed, (), fits, table?, solved, ?_⟩
    rw [if_neg]
    · rfl
    · simpa using agrees

/-- Values and gradients need the shape functions of the cell. -/
theorem outcome_tableFor_eq_ok_iff {flags : UpdateFlags} {V : Quad K}
    {table? : Option (ShapeTable K)} (wanted : flags.has .values ∨ flags.has .gradients) :
    (tableFor tol flags (.ok V)).outcome = .ok table? ↔
      ∃ N, (V.shapeTable tol none).outcome = .ok N ∧ table? = some N := by
  have chosen : tableFor tol flags (.ok V) =
      (V.shapeTable tol none >>= fun N => pure (some N)) := by
    rw [tableFor, if_pos (by simpa using wanted)]
    rfl
  rw [chosen, Run.outcome_bind_eq_ok_iff]
  simp only [Run.outcome_pure, Except.ok.injEq, eq_comm]

/-- The cell matters only where its shape functions are needed. -/
theorem fault?_tableFor {flags : UpdateFlags} {V : Quad K} :
    (tableFor tol flags (.ok V)).fault? =
      if flags.has .values || flags.has .gradients then (V.shapeTable tol none).fault?
      else none := by
  rw [tableFor]
  split
  · exact Run.fault?_map some _
  · rfl

/-- Once site, buffers and points are in order, a fill stops only for the cell. -/
theorem fault?_fill (placed : site.check (K := K) = .ok ())
    (fits : out.check dofsPerCell internal.size internal.flags = .ok ())
    (agrees : internal.flags.has .values → points.shape.map Int.ofNat = [internal.size, 2]) :
    (fill tol site cell points internal out).fault? =
      (tableFor tol internal.flags cell).fault? := by
  cases solved : (tableFor tol internal.flags cell).outcome with
  | ok table? =>
    have filled := outcome_fill_eq_ok_iff.mpr ⟨placed, fits, table?, solved, agrees, rfl⟩
    rw [Run.fault?_eq_none_iff.mpr ⟨_, filled⟩, Run.fault?_eq_none_iff.mpr ⟨_, solved⟩]
  | error e =>
    have stopped : (fill tol site cell points internal out).outcome = .error e := by
      simp only [fill, Run.outcome_bind_eq_error_iff, Run.outcome_ofExcept]
      exact .inr ⟨(), placed, .inr ⟨(), fits, .inl solved⟩⟩
    rw [Run.fault?_eq_some_iff.mpr stopped, Run.fault?_eq_some_iff.mpr solved]

end NonconformingQuad.P1
