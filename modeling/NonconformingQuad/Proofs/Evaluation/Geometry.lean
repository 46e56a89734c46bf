import NonconformingQuad.Evaluation.Mapping
import NonconformingQuad.Proofs.Outcome

/-! What the geometry of a rule leaves in the buffers. Every outcome keeps their lengths. When
they have room for the points of the rule, nothing stops the fill and nothing is repeated:
each requested buffer holds one entry for each point. -/
namespace NonconformingQuad

namespace MappingBuffers
variable {K : Type}

def lengths (b : MappingBuffers K) : Nat × Nat × Nat :=
  (b.points.length, b.weights.length, b.normals.length)

/-- Each requested quantity has `n` entries. Inside a cell normals are requested in vain: they
have no entries at all. -/
structure Fits (flags : UpdateFlags) (n : Nat) (b : MappingBuffers K) : Prop where
  points : flags.has .points → b.points.length = n
  weights : flags.has .weights → b.weights.length = n
  normals : flags.has .normals → b.normals.length = 0 ∨ b.normals.length = n

theorem Fits.congr {flags : UpdateFlags} {n : Nat} {b c : MappingBuffers K}
    (same : b.lengths = c.lengths) (fits : b.Fits flags n) : c.Fits flags n := by
  simp only [lengths, Prod.mk.injEq] at same
  obtain ⟨points, weights, normals⟩ := same
  exact ⟨points ▸ fits.points, weights ▸ fits.weights, normals ▸ fits.normals⟩

theorem fits_of_allocate [Scalar K] {n : Int} {flags : UpdateFlags} {withNormals : Bool}
    {b : MappingBuffers K} (made : allocate n flags withNormals = .ok b) :
    b.Fits flags n.toNat := by
  simp only [allocate, Outcome.bind_eq_ok_iff, Outcome.pure_eq_ok_iff] at made
  obtain ⟨_, _, rfl⟩ := made
  constructor
  · intro requested
    simp only [requested, if_true, List.length_replicate]
  · intro requested
    simp only [requested, if_true, List.length_replicate]
  · intro requested
    cases withNormals <;> simp [requested]

end MappingBuffers

namespace Mapping
variable {K : Type}

/-- The write of one buffer. The three buffers are written alike. -/
def writeBuffer {α : Type} (wanted : Bool) (buffer entries : List α)
    (put : List α → MappingBuffers K) (out : MappingBuffers K) : Attempt K (MappingBuffers K) :=
  if wanted then
    match assign buffer entries with
    | .ok written => .done (put written)
    | .error f => .stop out f
  else .done out

theorem lengths_writeBuffer {α : Type} {wanted : Bool} {buffer entries : List α}
    {put : List α → MappingBuffers K} {out : MappingBuffers K}
    (kept : ∀ xs, xs.length = buffer.length → (put xs).lengths = out.lengths) :
    (writeBuffer wanted buffer entries put out).state.lengths = out.lengths := by
  rw [writeBuffer]
  split
  · split
    · next xs found => exact kept xs (length_of_assign found)
    · rfl
  · rfl

theorem writeBuffer_of_fits {α : Type} {wanted : Bool} {buffer entries : List α}
    {put : List α → MappingBuffers K} {out : MappingBuffers K}
    (fits : wanted → entries.length = buffer.length) :
    writeBuffer wanted buffer entries put out = .done (if wanted then put entries else out) := by
  rw [writeBuffer]
  split
  · next requested =>
    have written : assign (K := K) buffer entries = .ok entries := if_pos (fits requested)
    rw [written]
  · rfl

variable {flags : UpdateFlags} {out : MappingBuffers K}

theorem fillWeights_eq (weights : List K) :
    fillWeights weights flags out = writeBuffer (flags.has .weights) out.weights weights
      (fun xs => { out with weights := xs }) out := by
  rw [fillWeights, writeBuffer]
  cases assign (K := K) out.weights weights <;> rfl

theorem fillNormals_eq (normals : List (Point K)) :
    fillNormals normals flags out =
      writeBuffer (flags.has .normals && !out.normals.isEmpty) out.normals normals
        (fun xs => { out with normals := xs }) out := by
  rw [fillNormals, writeBuffer]
  cases assign (K := K) out.normals normals <;> rfl

theorem lengths_fillWeights {weights : List K} :
    (fillWeights weights flags out).state.lengths = out.lengths := by
  rw [fillWeights_eq]
  exact lengths_writeBuffer fun xs kept => by simp only [MappingBuffers.lengths, kept]

theorem lengths_fillNormals {normals : List (Point K)} :
    (fillNormals normals flags out).state.lengths = out.lengths := by
  rw [fillNormals_eq]
  exact lengths_writeBuffer fun xs kept => by simp only [MappingBuffers.lengths, kept]

variable [Scalar K] {V : Quad K} {rule : Rule K}

theorem fillPoints_eq :
    fillPoints V rule flags out = writeBuffer (flags.has .points) out.points (pointsOf V rule)
      (fun xs => { out with points := xs }) out := by
  rw [fillPoints, writeBuffer]
  cases assign (K := K) out.points (pointsOf V rule) <;> rfl

theorem lengths_fillPoints : (fillPoints V rule flags out).state.lengths = out.lengths := by
  rw [fillPoints_eq]
  exact lengths_writeBuffer fun xs kept => by simp only [MappingBuffers.lengths, kept]

theorem lengths_fillFace {number : Literal} :
    (fillFace V rule flags number out).state.lengths = out.lengths := by
  rw [fillFace]
  split
  · rfl
  · split
    · rfl
    · refine Attempt.state_next_induction (P := fun b : MappingBuffers K => b.lengths = out.lengths)
        lengths_fillWeights fun b kept => ?_
      exact lengths_fillNormals.trans kept

/-- No buffer ever changes its length. -/
theorem lengths_fill {face? : Option Literal} :
    (fill V rule flags face? out).state.lengths = out.lengths := by
  refine Attempt.state_next_induction (P := fun b : MappingBuffers K => b.lengths = out.lengths)
    lengths_fillPoints fun b kept => ?_
  split
  · exact kept
  · split
    · split
      · exact kept
      · exact lengths_fillWeights.trans kept
    · exact lengths_fillFace.trans kept

/-- Weight of a point of the rule, on the cell or on a face. -/
def measure (V : Quad K) : Option Face → RulePoint K → K
  | none => areaWeight V
  | some f => lengthWeight V f

/-- The buffers after a fill that nothing has stopped. -/
def written (V : Quad K) (rule : Rule K) (flags : UpdateFlags) (face? : Option Face)
    (out : MappingBuffers K) : MappingBuffers K :=
  { points := if flags.has .points then pointsOf V rule else out.points
    weights := if flags.has .weights then rule.map (measure V face?) else out.weights
    normals :=
      match face? with
      | some f =>
        if flags.has .normals && !out.normals.isEmpty then rule.map fun p => normalAt V f p.point
        else out.normals
      | none => out.normals }

theorem written_onFace {f : Face} (points : flags.has .points) (weights : flags.has .weights)
    (normals : flags.has .normals) (room : !out.normals.isEmpty) :
    written V rule flags (some f) out =
      ⟨pointsOf V rule, rule.map (lengthWeight V f), rule.map fun p => normalAt V f p.point⟩ := by
  simp only [written, measure, points, weights, normals, room, Bool.and_self, if_true]

theorem normals_written {f : Face} (normals : flags.has .normals) (room : !out.normals.isEmpty) :
    (written V rule flags (some f) out).normals = rule.map fun p => normalAt V f p.point := by
  simp only [written, normals, room, Bool.and_self, if_true]

theorem fillPoints_of_fits (fits : flags.has .points → out.points.length = rule.length) :
    fillPoints V rule flags out =
      .done { out with points := if flags.has .points then pointsOf V rule else out.points } := by
  rw [fillPoints_eq, writeBuffer_of_fits fun wanted => ?_]
  · split <;> rfl
  · rw [pointsOf, List.length_map, fits wanted]

omit [Scalar K] in
theorem fillWeights_of_fits {f : RulePoint K → K}
    (fits : flags.has .weights → out.weights.length = rule.length) :
    fillWeights (rule.map f) flags out =
      .done { out with weights := if flags.has .weights then rule.map f else out.weights } := by
  rw [fillWeights_eq, writeBuffer_of_fits fun wanted => ?_]
  · split <;> rfl
  · rw [List.length_map, fits wanted]

omit [Scalar K] in
theorem fillNormals_of_fits {f : RulePoint K → Point K}
    (fits : flags.has .normals → out.normals.length = 0 ∨ out.normals.length = rule.length) :
    fillNormals (rule.map f) flags out =
      .done { out with
        normals := if flags.has .normals && !out.normals.isEmpty then rule.map f
          else out.normals } := by
  rw [fillNormals_eq, writeBuffer_of_fits fun wanted => ?_]
  · split <;> rfl
  · simp only [Bool.and_eq_true, Bool.not_eq_true', List.isEmpty_eq_false_iff] at wanted
    obtain ⟨requested, present⟩ := wanted
    rw [List.length_map, ((fits requested).resolve_left fun empty =>
      present (List.eq_nil_of_length_eq_zero empty))]

theorem fill_cell (pointed : rule ≠ []) (fits : out.Fits flags rule.length) :
    fill V rule flags none out = .done (written V rule flags none out) := by
  rw [fill, fillPoints_of_fits fits.points, Attempt.done_next]
  have present : rule.isEmpty = false := List.isEmpty_eq_false_iff.mpr pointed
  split
  · next unrequested =>
    simp only [Bool.not_eq_true', Bool.or_eq_false_iff] at unrequested
    simp only [written, unrequested.1, Bool.false_eq_true, if_false]
  · simp only [present, Bool.false_eq_true, if_false]
    exact fillWeights_of_fits fits.weights

theorem fill_face {number : Literal} {f : Face} (found : Face.ofRow (K := K) number = .ok f)
    (pointed : rule ≠ []) (fits : out.Fits flags rule.length) :
    fill V rule flags (some number) out = .done (written V rule flags (some f) out) := by
  rw [fill, fillPoints_of_fits fits.points, Attempt.done_next]
  have present : rule.isEmpty = false := List.isEmpty_eq_false_iff.mpr pointed
  split
  · next unrequested =>
    simp only [Bool.not_eq_true', Bool.or_eq_false_iff] at unrequested
    simp only [written, unrequested.1, unrequested.2, Bool.false_and, Bool.false_eq_true, if_false]
  · simp only [fillFace, found, present, Bool.false_eq_true, if_false]
    rw [fillWeights_of_fits ?_, Attempt.done_next]
    · exact fillNormals_of_fits fits.normals
    · exact fits.weights

/-- Nothing stops a fill when the buffers have room, on a cell or on a face. -/
theorem fill_of_fits {number? : Option Literal} {face? : Option Face}
    (found : number?.mapM (Face.ofRow (K := K)) = .ok face?) (pointed : rule ≠ [])
    (fits : out.Fits flags rule.length) :
    fill V rule flags number? out = .done (written V rule flags face? out) := by
  cases number? with
  | none =>
    obtain rfl : none = face? := Except.ok.inj found
    exact fill_cell pointed fits
  | some number =>
    obtain ⟨f, row, rfl⟩ := Outcome.map_eq_ok_iff.mp found
    exact fill_face row pointed fits

end Mapping
end NonconformingQuad
