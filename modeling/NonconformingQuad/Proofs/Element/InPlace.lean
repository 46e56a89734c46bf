import NonconformingQuad.Proofs.Basis.Acceptance
import NonconformingQuad.Proofs.Element.Shapes
import NonconformingQuad.Proofs.Geometry.Numbering
import NonconformingQuad.Proofs.Tensor.Broadcasting

/-! Filling buffers that belong to the caller. They are overwritten one after the other, and the
number of points is looked at only when the values are about to be written. It is looked at before
anything has changed, though, and no later write can fail: a call that stops leaves the buffers as
they were, and one that succeeds overwrites the requested buffers and no others. -/
namespace NonconformingQuad

namespace ShapeBuffers
variable {K : Type} [Scalar K] {b : ShapeBuffers K} {entries t : Tensor K} {q : Quantity}
  {shape : List Nat}

theorem write_eq_done (held : b.shapes q = some shape) (extends? : entries.extend? shape = some t) :
    b.write q entries = .done (b.set q t) := by
  obtain ⟨old, found, rfl⟩ := Option.map_eq_some_iff.mp held
  simp only [write, found, Option.bind_some, extends?]

end ShapeBuffers

namespace P1
open ShapeBuffers
variable {K : Type} [Scalar K]

/-- Where a call takes the shape functions: in the cell, on a face or on half of a face. -/
inductive Place where
  | inside
  | face (i : Int)
  | half (i j : Int)

namespace Place

def site : Place → Site
  | inside => .cell
  | face i => .face (.int i)
  | half i j => .half (.int i) (.int j)

/-- The first number that is out of range. -/
def obstacle? : Place → Option (Fault K)
  | inside => none
  | face i => if Face.InRange i then none else some (.faceNumber (.int i))
  | half i j =>
    if Face.InRange i then
      if Half.InRange j then none else some (.halfNumber (.int j))
    else some (.faceNumber (.int i))

end Place

/-- Lengths of a buffer for the four shape functions at `n` points. -/
def lengths (n : Int) : Quantity → List Int
  | .gradients => [4, n, 2]
  | .hessians => [4, n, 2, 2]
  | _ => [4, n]

/-- The first requested buffer that is missing or has other lengths. -/
def bufferObstacle? (flags : UpdateFlags) (n : Int) (out : ShapeBuffers K) : Option (Fault K) :=
  let misfit q := flags.has q && (out.shapes q).map (·.map Int.ofNat) != some (lengths n q)
  ([.values, .gradients, .hessians].find? misfit).map fun q =>
    .bufferShape q (lengths n q) ((out.shapes q).getD [])

/-- What is wrong with the cell, where its shape functions are needed: the sine of the angle
between the midlines is small, or a coefficient is not finite. -/
def cellObstacle? (tol : Tolerances K) (flags : UpdateFlags) (V : Quad K) : Option (Fault K) :=
  if flags.has .values ∨ flags.has .gradients then
    if Scalar.abs V.midlineSine ≤ tol.degeneracy then
      some (.degenerateCell V.midlineDeterminant V.midlineSine V)
    else if V.coefficients.isFinite then none
    else some (.notRepresentable V.midlineDeterminant V)
  else none

/-- Another number of points than the values have room for. -/
def pointsObstacle? (flags : UpdateFlags) (n : Int) (points : Tensor K) : Option (Fault K) :=
  if flags.has .values ∧ points.shape.map Int.ofNat ≠ [n, 2] then
    some (.bufferShape .points [n, 2] points.shape)
  else none

/-- The first of all that stands against a call. -/
def obstacle? (tol : Tolerances K) (place : Place) (V : Quad K) (points : Tensor K)
    (internal : InternalData K) (out : ShapeBuffers K) : Option (Fault K) :=
  [place.obstacle?, bufferObstacle? internal.flags internal.size out,
    cellObstacle? tol internal.flags V,
    pointsObstacle? internal.flags internal.size points].findSome? id

/-- The requested buffers hold the shape functions of the cell at the points; the others are as
they were. -/
structure IsFilled (place : Place) (V : Quad K) (points : Tensor K) (internal : InternalData K)
    (out filled : ShapeBuffers K) : Prop where
  values : internal.flags.has .values → ∃ t, filled.values = some t ∧
    t.shape = [4, internal.size.toNat] ∧ ∀ k : Corner, ∀ q < internal.size.toNat,
      let N := V.coefficients k
      t.value [k.number, q] = N.a * points.value [q, 0] + N.b * points.value [q, 1] + N.c
  gradients : internal.flags.has .gradients → ∃ t, filled.gradients = some t ∧
    t.shape = [4, internal.size.toNat, 2] ∧ ∀ k : Corner, ∀ q < internal.size.toNat,
      let N := V.coefficients k
      t.value [k.number, q, 0] = N.a ∧ t.value [k.number, q, 1] = N.b
  hessians : internal.flags.has .hessians → filled.hessians =
    match place, internal.hessians with
    | .inside, some cache => some cache
    | _, _ => some (.replicate [4, internal.size.toNat, 2, 2] 0)
  others : ∀ q, ¬internal.flags.has q → filled.get q = out.get q

section Obstacles
variable {out : ShapeBuffers K} {flags : UpdateFlags} {n : Int}

omit [Scalar K] in
theorem fault?_check_site (place : Place) :
    (Run.ofExcept (place.site.check (K := K))).fault? = place.obstacle? := by
  cases place with
  | inside => rfl
  | face i =>
    simp only [Place.site, Site.check, Face.check_int, Place.obstacle?]
    split <;> rfl
  | half i j =>
    simp only [Place.site, Site.check, Face.check_int, Half.check_int, Place.obstacle?]
    split
    · split <;> rfl
    · rfl

omit [Scalar K] in
theorem lengths_eq {q : Quantity} (listed : q ∈ quantities) :
    lengths n q = (dofsPerCell : Int) :: n :: tail q := by
  rcases mem_quantities.mp listed with rfl | rfl | rfl <;> rfl

omit [Scalar K] in
theorem fault?_check_buffers :
    (Run.ofExcept (out.check dofsPerCell n flags)).fault? = bufferObstacle? flags n out := by
  have judged : ∀ q ∈ quantities, (flags.has q && !out.fits dofsPerCell n q) =
      (flags.has q && (out.shapes q).map (·.map Int.ofNat) != some (lengths n q)) := by
    intro q listed
    rw [lengths_eq listed, fits, shapes]
    cases out.get q <;> rfl
  have search : out.misfit? dofsPerCell n flags = quantities.find? fun q =>
      flags.has q && (out.shapes q).map (·.map Int.ofNat) != some (lengths n q) := by
    rw [misfit?]
    exact List.find?_congr judged
  rw [check, search, bufferObstacle?]
  split
  · next q found =>
    have listed : q ∈ quantities := List.mem_of_find?_eq_some found
    rw [show [.values, .gradients, .hessians] = quantities from rfl, found, Option.map_some,
      lengths_eq listed]
    rfl
  · next missing =>
    rw [show [.values, .gradients, .hessians] = quantities from rfl, missing]
    rfl

theorem cellObstacle?_of_isAccepted {tol : Tolerances K} {V : Quad K}
    (accepted : V.IsAccepted (tol.map .number) none) : cellObstacle? tol flags V = none := by
  obtain ⟨large, finite⟩ := (Quad.isAccepted_number_iff V tol).mp accepted
  rw [cellObstacle?, if_neg large, if_pos finite, ite_self]

/-- The checks made by a fill, in their order. -/
theorem fault?_fill_eq (tol : Tolerances K) (place : Place) (V : Quad K) (points : Tensor K)
    (internal : InternalData K) (out : ShapeBuffers K) :
    (fill (tol.map .number) place.site (.ok V) points internal out).fault? =
      obstacle? tol place V points internal out := by
  have cell : (tableFor (tol.map .number) internal.flags (.ok V)).fault? =
      cellObstacle? tol internal.flags V := by
    rw [fault?_tableFor, Quad.fault?_shapeTable, cellObstacle?]
    simp only [Bool.or_eq_true]
  have order : obstacle? tol place V points internal out = place.obstacle?.or
      ((bufferObstacle? internal.flags internal.size out).or
        ((cellObstacle? tol internal.flags V).or
          (pointsObstacle? internal.flags internal.size points))) := by
    simp only [obstacle?, List.findSome?_cons, List.findSome?_nil, id_eq]
    cases place.obstacle? (K := K) <;> cases bufferObstacle? internal.flags internal.size out <;>
      cases cellObstacle? tol internal.flags V <;>
      cases pointsObstacle? internal.flags internal.size points <;> rfl
  rw [order, ← fault?_check_site, ← fault?_check_buffers, ← cell]
  refine Run.fault?_bind fun _ _ => ?_
  refine Run.fault?_bind fun _ _ => ?_
  refine Run.fault?_bind fun table? _ => ?_
  rw [pointsObstacle?]
  split
  · next differs =>
    rw [if_pos (by simpa using differs)]
    rfl
  · next agrees =>
    rw [if_neg (by simpa using agrees)]
    rfl

end Obstacles

section Writes
variable {N : ShapeTable K} {points : Tensor K} {internal : InternalData K}
  {b out : ShapeBuffers K}

/-- The gradients of the four functions fill every number of points. -/
theorem extend?_gradientsAt (N : ShapeTable K) (n : Nat) :
    (gradientsAt N 1).extend? [dofsPerCell, n, 2] = some (gradientsAt N n) := by
  have common : Tensor.commonShape? [dofsPerCell, n, 2] [dofsPerCell, 1, 2] =
      some [dofsPerCell, n, 2] := by
    simp [Tensor.commonShape?, Tensor.commonReversed?, Tensor.commonLength?_self,
      Tensor.commonLength?_one_right]
  rw [Tensor.extend?, gradientsAt, Tensor.shape_tabulate, if_pos common]
  refine congrArg some (Tensor.tabulate_congr fun is within => ?_)
  obtain ⟨k, q, j, rfl, function, point, axis⟩ := Tensor.exists_of_within_three within
  have first : Index.Within [dofsPerCell, 1, 2] [k, 0, j] :=
    ⟨function, Nat.one_pos, axis, trivial⟩
  have at0 : Tensor.project [dofsPerCell, 1, 2] [k, q, j] = [k, 0, j] :=
    Tensor.project_of_within first
  rw [at0, Tensor.value_tabulate _ first]
  rfl

theorem writeValues_eq_done
    (room : internal.flags.has .values → b.shapes .values = some [dofsPerCell, internal.size.toNat])
    (agrees : internal.flags.has .values → points.shape.map Int.ofNat = [internal.size, 2]) :
    writeValues N points internal b = .done { b with
      values := if internal.flags.has .values then some (valuesAt N points internal.size.toNat)
        else b.values } := by
  rw [writeValues]
  split
  · next requested =>
    have fills := Tensor.extend?_self (valuesAt N points internal.size.toNat)
    rw [if_pos (agrees requested), write_eq_done (room requested) fills]
    rfl
  · rfl

theorem writeGradients_eq_done (room : internal.flags.has .gradients →
      b.shapes .gradients = some [dofsPerCell, internal.size.toNat, 2]) :
    writeGradients N internal b = .done { b with
      gradients := if internal.flags.has .gradients then some (gradientsAt N internal.size.toNat)
        else b.gradients } := by
  rw [writeGradients]
  split
  · next requested =>
    rw [write_eq_done (room requested) (extend?_gradientsAt N _)]
    rfl
  · rfl

theorem writeHessians_eq_done {site : Site} (table? : Option (ShapeTable K)) (points : Tensor K)
    (prepared : internal.IsPrepared) (room : internal.flags.has .hessians →
      b.shapes .hessians = some [dofsPerCell, internal.size.toNat, 2, 2]) :
    writeHessians site internal b = .done { b with
      hessians := (written site table? points internal b).hessians } := by
  unfold writeHessians written
  dsimp only
  by_cases requested : internal.flags.has .hessians
  · rw [if_pos requested, if_pos requested]
    have zero := write_eq_done (room requested) (Tensor.extend?_zero _)
    cases site with
    | cell =>
      cases cached : internal.hessians with
      | none => exact zero
      | some cache =>
        have fills := Tensor.extend?_self cache
        rw [prepared cache cached] at fills
        exact write_eq_done (room requested) fills
    | face | half => exact zero
  · rw [if_neg requested, if_neg requested]

variable (accepted : out.check dofsPerCell internal.size internal.flags = .ok ())
  (prepared : internal.IsPrepared)
include accepted prepared

/-- The three writes, one after the other, once the number of points is right. -/
theorem writes_eq_done (site : Site)
    (agrees : internal.flags.has .values → points.shape.map Int.ofNat = [internal.size, 2]) :
    ((writeValues N points internal out).next (writeGradients N internal)).next
      (writeHessians site internal) = .done (written site (some N) points internal out) := by
  have room {q : Quantity} (listed : q ∈ quantities) (requested : internal.flags.has q) :=
    shapes_of_check accepted listed requested
  rw [writeValues_eq_done (room (by decide)) agrees, Attempt.done_next, writeGradients_eq_done,
    Attempt.done_next, writeHessians_eq_done (some N) points prepared]
  · rfl
  · exact room (by decide)
  · exact room (by decide)

/-- Where no shape functions are needed only the second derivatives are written. -/
theorem writeHessians_eq_written (site : Site) (values : ¬internal.flags.has .values)
    (gradients : ¬internal.flags.has .gradients) :
    writeHessians site internal out = .done (written site none points internal out) := by
  have first : (written site none points internal out).values = out.values := if_neg values
  have second : (written site none points internal out).gradients = out.gradients :=
    if_neg gradients
  rw [writeHessians_eq_done none points prepared (shapes_of_check accepted (by decide)), ← first,
    ← second]

omit accepted in
/-- Writing in place comes to the same as making new buffers and handing them over at the end. -/
theorem fillInPlace_eq_ofRun (tol : Tolerances (Bound K)) (site : Site) (V : Quad K)
    (points : Tensor K) : fillInPlace tol site (.ok V) points internal out =
      .ofRun out (fill tol site (.ok V) points internal out) := by
  unfold fill fillInPlace
  rw [Attempt.ofRun_bind]
  refine Attempt.after_congr fun _ _ => ?_
  rw [Attempt.ofRun_bind]
  refine Attempt.after_congr fun _ accepted => ?_
  by_cases wanted : internal.flags.has .values ∨ internal.flags.has .gradients
  · have needed : (internal.flags.has .values || internal.flags.has .gradients) = true := by
      simpa using wanted
    have table : tableFor tol internal.flags (.ok V) = some <$> V.shapeTable tol none := by
      rw [tableFor, if_pos needed]
      rfl
    rw [table, Attempt.ofRun_map_bind]
    dsimp only
    rw [if_pos needed, Attempt.after_next]
    refine Attempt.after_congr fun N _ => ?_
    by_cases agrees : internal.flags.has .values → points.shape.map Int.ofNat = [internal.size, 2]
    · rw [writes_eq_done accepted prepared site agrees, if_neg (by simpa using agrees)]
      rfl
    · obtain ⟨requested, differs⟩ := Classical.not_imp.mp agrees
      have stops : writeValues N points internal out =
          .stop out (.bufferShape .points [internal.size, 2] points.shape) := by
        rw [writeValues, if_pos requested, if_neg differs]
      rw [stops, Attempt.next_of_fault _ rfl, Attempt.next_of_fault _ rfl,
        if_pos (by simpa [requested] using differs)]
      rfl
  · obtain ⟨values, gradients⟩ := not_or.mp wanted
    have needed : ¬(internal.flags.has .values || internal.flags.has .gradients) = true := by
      simpa using wanted
    have table : tableFor tol internal.flags (.ok V) = pure none := by
      rw [tableFor, if_neg needed]
    have unasked : ¬(internal.flags.has .values &&
        points.shape.map Int.ofNat != [internal.size, 2]) = true := by
      simp [values]
    have left : writeHessians site internal out =
        .done (written site none points internal out) :=
      writeHessians_eq_written accepted prepared site values gradients
    rw [table, Attempt.ofRun_bind, Attempt.after_pure, if_neg unasked]
    dsimp only
    rw [if_neg needed, Attempt.done_next, left]
    rfl

end Writes

section Filled
variable {tol : Tolerances (Bound K)} {place : Place} {V : Quad K} {points : Tensor K}
  {internal : InternalData K} {out filled : ShapeBuffers K}

theorem isFilled_of_fill
    (succeeded : (fill tol place.site (.ok V) points internal out).outcome = .ok filled) :
    IsFilled place V points internal out filled := by
  obtain ⟨_, _, table?, found, _, rfl⟩ := outcome_fill_eq_ok_iff.mp succeeded
  have solved (wanted : internal.flags.has .values ∨ internal.flags.has .gradients) :
      table? = some V.coefficients := by
    obtain ⟨N, solved, rfl⟩ := (outcome_tableFor_eq_ok_iff wanted).mp found
    rw [Quad.eq_coefficients solved]
  constructor
  · intro requested
    refine ⟨valuesAt V.coefficients points internal.size.toNat, ?_, rfl, fun k q bound => ?_⟩
    · simp only [written, if_pos requested, solved (.inl requested), Option.map_some]
    · exact value_valuesAt _ _ k bound
  · intro requested
    refine ⟨gradientsAt V.coefficients internal.size.toNat, ?_, rfl, fun k q bound => ?_⟩
    · simp only [written, if_pos requested, solved (.inr requested), Option.map_some]
    · exact ⟨value_gradientsAt _ k bound Nat.two_pos, value_gradientsAt _ k bound Nat.one_lt_two⟩
  · intro requested
    unfold written
    dsimp only
    rw [if_pos requested]
    cases place with
    | inside => cases internal.hessians <;> rfl
    | face | half => rfl
  · intro q unasked
    cases q with
    | values | gradients | hessians => simp only [written, ShapeBuffers.get, if_neg unasked]
    | points | normals | weights => rfl

end Filled

theorem fault?_fillInPlace (tol : Tolerances K) (place : Place) (V : Quad K) (points : Tensor K)
    {internal : InternalData K} (out : ShapeBuffers K) (prepared : internal.IsPrepared) :
    (fillInPlace (tol.map .number) place.site (.ok V) points internal out).fault? =
      obstacle? tol place V points internal out := by
  rw [fillInPlace_eq_ofRun prepared, Attempt.fault?_ofRun, fault?_fill_eq]

/-- A call stops exactly for the first of all obstacles, and then nothing has been written. If
there is none the requested buffers are filled and the others are as they were. -/
theorem fillInPlace_cases (tol : Tolerances K) (place : Place) (V : Quad K) (points : Tensor K)
    (internal : InternalData K) (out : ShapeBuffers K) (prepared : internal.IsPrepared) :
    let call := fillInPlace (tol.map .number) place.site (.ok V) points internal out
    call.fault? = obstacle? tol place V points internal out ∧
      (call.fault? ≠ none → call.state = out) ∧
      (call.fault? = none → IsFilled place V points internal out call.state) := by
  intro call
  have inPlace :
      call = .ofRun out (fill (tol.map .number) place.site (.ok V) points internal out) :=
    fillInPlace_eq_ofRun prepared _ _ V points
  have fault : call.fault? =
      (fill (tol.map .number) place.site (.ok V) points internal out).fault? := by
    rw [inPlace, Attempt.fault?_ofRun]
  refine ⟨fault?_fillInPlace tol place V points out prepared, ?_, ?_⟩
  · intro stopped
    rw [fault] at stopped
    obtain ⟨e, failed⟩ := Option.ne_none_iff_exists'.mp stopped
    rw [inPlace, Attempt.state_ofRun_of_error (Run.fault?_eq_some_iff.mp failed)]
  · intro succeeded
    rw [fault] at succeeded
    obtain ⟨filled, found⟩ := Run.fault?_eq_none_iff.mp succeeded
    rw [inPlace, Attempt.state_ofRun_of_ok found]
    exact isFilled_of_fill found

/-- Room for values and gradients at one point, with sevens left over from somewhere else. -/
noncomputable def roomForOne : ShapeBuffers ℝ :=
  ⟨some (.replicate [4, 1] 7), some (.replicate [4, 1, 2] 7), none⟩

theorem fillInPlace_arrowhead :
    let tol : Tolerances ℝ := ⟨0, 0, 0⟩
    let internal : InternalData ℝ := ⟨.ofInt 3, 1, none⟩
    let fill (points : Tensor ℝ) := fillInPlace (tol.map .number) (Place.half 3 1).site
      (.ok Quad.arrowhead) points internal roomForOne
    internal.IsPrepared ∧
      (fill (.ofPoints [⟨0, 0⟩, ⟨1, 1⟩])).fault? = some (.bufferShape .points [1, 2] [2, 2]) ∧
      (fill (.ofPoints [⟨0, 0⟩, ⟨1, 1⟩])).state = roomForOne ∧
      (fill (.ofPoints [⟨1, 1⟩])).fault? = none ∧
      IsFilled (.half 3 1) Quad.arrowhead (.ofPoints [⟨1, 1⟩]) internal roomForOne
        (fill (.ofPoints [⟨1, 1⟩])).state := by
  intro tol internal fill
  have prepared : internal.IsPrepared := nofun
  have buffers : bufferObstacle? (.ofInt 3) 1 roomForOne = none := by
    unfold bufferObstacle?
    rfl
  have cell : cellObstacle? tol (.ofInt 3) Quad.arrowhead = none :=
    cellObstacle?_of_isAccepted Quad.isAccepted_arrowhead
  have only (points : Tensor ℝ) :
      obstacle? tol (.half 3 1) Quad.arrowhead points internal roomForOne =
        pointsObstacle? (.ofInt 3) 1 points := by
    have all : obstacle? tol (.half 3 1) Quad.arrowhead points internal roomForOne =
        [none, bufferObstacle? (.ofInt 3) 1 roomForOne,
          cellObstacle? tol (.ofInt 3) Quad.arrowhead,
          pointsObstacle? (.ofInt 3) 1 points].findSome? id := rfl
    rw [all, buffers, cell]
    cases pointsObstacle? (.ofInt 3) 1 points <;> rfl
  obtain ⟨first, kept, _⟩ := fillInPlace_cases tol (.half 3 1) Quad.arrowhead
    (.ofPoints [⟨0, 0⟩, ⟨1, 1⟩]) internal roomForOne prepared
  obtain ⟨second, _, filled⟩ := fillInPlace_cases tol (.half 3 1) Quad.arrowhead
    (.ofPoints [⟨1, 1⟩]) internal roomForOne prepared
  have stopped : (fill (.ofPoints [⟨0, 0⟩, ⟨1, 1⟩])).fault? =
      some (.bufferShape .points [1, 2] [2, 2]) := by
    rw [first, only, pointsObstacle?, if_pos]
    · rfl
    · exact ⟨rfl, by decide⟩
  have succeeded : (fill (.ofPoints [⟨1, 1⟩])).fault? = none := by
    rw [second, only, pointsObstacle?, if_neg]
    exact fun other => other.2 rfl
  refine ⟨prepared, stopped, kept ?_, succeeded, filled succeeded⟩
  exact stopped ▸ Option.some_ne_none _

end P1
end NonconformingQuad
