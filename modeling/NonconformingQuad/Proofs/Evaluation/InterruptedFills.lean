import Mathlib.Data.List.TakeWhile
import NonconformingQuad.Proofs.Evaluation.Geometry
import NonconformingQuad.Proofs.Geometry.Midlines
import NonconformingQuad.Proofs.Geometry.Numbering

/-! What a fill leaves behind when it is stopped halfway. The geometry of a rule is written into
one buffer after the other: points, weights, normals. A buffer that the rule does not fit stops
the fill, and so does the number of no face; what has been written by then stays. -/
namespace NonconformingQuad

namespace Rule
variable {K α : Type}

/-- The values at the points of the rule can be written into a buffer of `n` entries: one for
each entry, or a single one for all. -/
def Covers (rule : Rule K) (n : Nat) : Prop := rule.length = n ∨ rule.length = 1

instance (rule : Rule K) (n : Nat) : Decidable (rule.Covers n) :=
  inferInstanceAs (Decidable (_ ∨ _))

/-- The values of a function at the points of the rule, as they lie in a buffer afterwards. -/
def spread (rule : Rule K) (f : RulePoint K → α) (buffer : List α) : List α :=
  match rule with
  | [p] => .replicate buffer.length (f p)
  | _ => rule.map f

variable {rule : Rule K} {f : RulePoint K → α} {buffer : List α}

theorem length_spread (covers : rule.Covers buffer.length) :
    (rule.spread f buffer).length = buffer.length := by
  match rule, covers with
  | [], .inl empty => exact empty
  | [_], _ => exact List.length_replicate
  | _ :: _ :: _, .inl same => exact (List.length_map f).trans same

theorem spread_congr {other : List α} (same : buffer.length = other.length) :
    rule.spread f buffer = rule.spread f other := by
  match rule with
  | [] => rfl
  | [_] => simp only [spread, same]
  | _ :: _ :: _ => rfl

theorem assign_map : assign (K := K) buffer (rule.map f) =
    if rule.Covers buffer.length then .ok (rule.spread f buffer)
    else .error (.misuse .shapesDiffer) := by
  match rule with
  | [] => simp [assign, Covers, spread]
  | [p] =>
    rw [if_pos (.inr rfl)]
    by_cases same : 1 = buffer.length
    · simp [assign, spread, ← same]
    · simp [assign, spread, same]
  | _ :: _ :: _ => simp [assign, Covers, spread]

/-- A buffer whose entries are replaced, or not. -/
def overwrite (rule : Rule K) (wanted : Prop) [Decidable wanted] (f : RulePoint K → α)
    (buffer : List α) : List α :=
  if wanted then rule.spread f buffer else buffer

variable {wanted again : Prop} [Decidable wanted] [Decidable again]

theorem length_overwrite (covers : wanted → rule.Covers buffer.length) :
    (rule.overwrite wanted f buffer).length = buffer.length := by
  rw [overwrite]
  split
  · next replaced => exact length_spread (covers replaced)
  · rfl

/-- A rule writes over what it has written before. -/
theorem overwrite_overwrite (covers : wanted → rule.Covers buffer.length) :
    rule.overwrite again f (rule.overwrite wanted f buffer) =
      rule.overwrite (wanted ∨ again) f buffer := by
  by_cases first : wanted
  · have same : rule.spread f (rule.spread f buffer) = rule.spread f buffer :=
      spread_congr (length_spread (covers first))
    simp [overwrite, first, same]
  · simp [overwrite, first]

theorem overwrite_nil (covers : wanted → Rule.Covers ([] : Rule K) buffer.length) :
    Rule.overwrite [] wanted f buffer = buffer := by
  rw [overwrite]
  split
  · next replaced =>
    obtain empty | single := covers replaced
    · exact (List.eq_nil_of_length_eq_zero empty.symm).symm
    · cases single
  · rfl

end Rule

namespace MappingBuffers
variable {K : Type}

def size (b : MappingBuffers K) : Quantity → Nat
  | .points => b.points.length
  | .weights => b.weights.length
  | .normals => b.normals.length
  | _ => 0

theorem size_congr {b c : MappingBuffers K} (same : b.lengths = c.lengths) : b.size = c.size := by
  simp only [lengths, Prod.mk.injEq] at same
  obtain ⟨points, weights, normals⟩ := same
  funext q
  cases q <;> simp only [size, points, weights, normals]

/-- Normals exist on faces only, and are passed over where they have no room. -/
def normalPlaces (b : MappingBuffers K) (onFace : Bool) : List Quantity :=
  if onFace && b.size .normals != 0 then [.normals] else []

/-- The quantities that a call has to write, in their order. -/
def due (b : MappingBuffers K) (flags : UpdateFlags) (onFace : Bool) : List Quantity :=
  ([Quantity.points, .weights] ++ b.normalPlaces onFace).filter flags.has

theorem normalPlaces_cell (b : MappingBuffers K) : b.normalPlaces false = [] := rfl

theorem normalPlaces_congr {b c : MappingBuffers K} (same : b.size = c.size) :
    b.normalPlaces = c.normalPlaces := by
  funext onFace
  simp only [normalPlaces, same]

theorem due_eq_append (b : MappingBuffers K) (flags : UpdateFlags) (onFace : Bool) :
    b.due flags onFace = [.points].filter flags.has ++
      ([.weights].filter flags.has ++ (b.normalPlaces onFace).filter flags.has) := by
  rw [← List.filter_append, ← List.filter_append]
  rfl

theorem due_of_unneeded {flags : UpdateFlags} (b : MappingBuffers K) (onFace : Bool)
    (unneeded : ¬(flags.has .weights || flags.has .normals)) :
    b.due flags onFace = [.points].filter flags.has := by
  simp only [Bool.not_eq_true, Bool.or_eq_false_iff] at unneeded
  rw [due_eq_append, normalPlaces]
  split <;> simp [List.filter, unneeded]

/-- The first of some quantities, up to the one whose buffer a rule does not fit. -/
def beforeMisfit (b : MappingBuffers K) (rule : Rule K) (qs : List Quantity) : List Quantity :=
  qs.takeWhile fun q => rule.Covers (b.size q)

variable {b : MappingBuffers K} {rule : Rule K} {q : Quantity} {qs : List Quantity}

theorem beforeMisfit_cons_of_covers (covers : rule.Covers (b.size q)) :
    b.beforeMisfit rule (q :: qs) = q :: b.beforeMisfit rule qs := by
  simp [beforeMisfit, covers]

theorem beforeMisfit_cons_of_not_covers (misfit : ¬rule.Covers (b.size q)) :
    b.beforeMisfit rule (q :: qs) = [] := by
  simp [beforeMisfit, misfit]

theorem beforeMisfit_congr {c : MappingBuffers K} (same : b.size = c.size) :
    b.beforeMisfit rule qs = c.beforeMisfit rule qs := by
  simp only [beforeMisfit, same]

theorem beforeMisfit_eq_self (covers : ∀ q ∈ qs, rule.Covers (b.size q)) :
    b.beforeMisfit rule qs = qs :=
  List.takeWhile_eq_self_iff.mpr fun q member => decide_eq_true (covers q member)

theorem covers_of_mem_beforeMisfit (member : q ∈ b.beforeMisfit rule qs) :
    rule.Covers (b.size q) := by
  simpa using List.mem_takeWhile_imp member

end MappingBuffers

namespace Mapping
variable {K : Type}

section Site

/-- What a call has to find out between the points and the other quantities: the face, if it is
asked for one, and whether the rule has points. -/
def siteOf (rule : Rule K) : Option Literal → Except (Fault K) (Option Face)
  | none => if rule.isEmpty then .error (.misuse .emptyRule) else .ok none
  | some number =>
    match Face.ofRow number with
    | .error e => .error e
    | .ok f => if rule.isEmpty then .error (.misuse .shapesDiffer) else .ok (some f)

variable {rule : Rule K} {i : Int} {i? : Option Int}

theorem siteOf_of_inRange (inside : ∀ i ∈ i?, Face.InRange i) (pointed : rule ≠ []) :
    siteOf rule (i?.map .int) = .ok (i?.bind Face.ofInt?) := by
  have present : rule.isEmpty = false := List.isEmpty_eq_false_iff.mpr pointed
  cases i? with
  | none => simp [siteOf, present]
  | some i =>
    obtain ⟨f, rfl⟩ := Face.exists_number (inside i rfl)
    simp [siteOf, present]

theorem siteOf_of_not_inRange (outside : ¬Face.InRange i) :
    siteOf rule (some (.int i)) = .error (.faceNumber (.int i)) := by
  simp only [siteOf, Face.ofRow_of_not_inRange outside]

theorem exists_obstacle_of_empty (number? : Option Literal) :
    ∃ e, siteOf ([] : Rule K) number? = .error e := by
  cases number? with
  | none => exact ⟨_, rfl⟩
  | some number =>
    cases row : Face.ofRow (K := K) number with
    | error e => exact ⟨e, by simp only [siteOf, row]⟩
    | ok f => exact ⟨.misuse .shapesDiffer, by simp [siteOf, row]⟩

theorem exists_obstacle (blocked : ¬(rule ≠ [] ∧ ∀ i ∈ i?, Face.InRange i)) :
    ∃ e, siteOf rule (i?.map .int) = .error e := by
  by_cases empty : rule = []
  · subst rule
    exact exists_obstacle_of_empty _
  · obtain ⟨i, fails⟩ := not_forall.mp fun inside => blocked ⟨empty, inside⟩
    obtain ⟨member, outside⟩ := Classical.not_imp.mp fails
    obtain rfl := Option.mem_def.mp member
    exact ⟨_, siteOf_of_not_inRange outside⟩

end Site

variable [Scalar K]

/-- The buffers once some quantities have been rewritten. The others are as they were. -/
def rewritten (V : Quad K) (rule : Rule K) (face? : Option Face) (qs : List Quantity)
    (out : MappingBuffers K) : MappingBuffers K :=
  { points := rule.overwrite (.points ∈ qs) (fun p => Bilinear.mapPoint V p.point) out.points
    weights := rule.overwrite (.weights ∈ qs) (measure V face?) out.weights
    normals :=
      match face? with
      | some f => rule.overwrite (.normals ∈ qs) (fun p => normalAt V f p.point) out.normals
      | none => out.normals }

/-- Writes one quantity into its buffer, if the rule fits it. -/
def write (V : Quad K) (rule : Rule K) (face? : Option Face) (q : Quantity)
    (out : MappingBuffers K) : Attempt K (MappingBuffers K) :=
  if rule.Covers (out.size q) then .done (rewritten V rule face? [q] out)
  else .stop out (.misuse .shapesDiffer)

/-- Writes quantities one after the other, up to the first whose buffer the rule does not fit. -/
def writeAll (V : Quad K) (rule : Rule K) (face? : Option Face) :
    List Quantity → MappingBuffers K → Attempt K (MappingBuffers K)
  | [], out => .done out
  | q :: rest, out => (write V rule face? q out).next (writeAll V rule face? rest)

variable {V : Quad K} {rule : Rule K} {face? : Option Face} {q : Quantity} {qs : List Quantity}
  {flags : UpdateFlags} {out : MappingBuffers K}

theorem rewritten_nil : rewritten V rule face? [] out = out := by
  cases face? <;> simp [rewritten, Rule.overwrite]

theorem size_rewritten (covers : ∀ q ∈ qs, rule.Covers (out.size q)) :
    (rewritten V rule face? qs out).size = out.size := by
  apply MappingBuffers.size_congr
  simp only [MappingBuffers.lengths, Prod.mk.injEq]
  refine ⟨Rule.length_overwrite (covers .points), Rule.length_overwrite (covers .weights), ?_⟩
  cases face? with
  | none => rfl
  | some f => exact Rule.length_overwrite (covers .normals)

theorem size_rewritten_singleton (covers : rule.Covers (out.size q)) :
    (rewritten V rule face? [q] out).size = out.size :=
  size_rewritten fun _ member => List.mem_singleton.mp member ▸ covers

theorem rewritten_cons (covers : rule.Covers (out.size q)) :
    rewritten V rule face? qs (rewritten V rule face? [q] out) =
      rewritten V rule face? (q :: qs) out := by
  have fits {p : Quantity} (same : p = q) : rule.Covers (out.size p) := same ▸ covers
  cases face? with
  | none =>
    simp only [rewritten, List.mem_cons, List.not_mem_nil, or_false,
      Rule.overwrite_overwrite (fits (p := .points)),
      Rule.overwrite_overwrite (fits (p := .weights))]
  | some f =>
    simp only [rewritten, List.mem_cons, List.not_mem_nil, or_false,
      Rule.overwrite_overwrite (fits (p := .points)),
      Rule.overwrite_overwrite (fits (p := .weights)),
      Rule.overwrite_overwrite (fits (p := .normals))]

theorem rewritten_of_empty (covers : ∀ q ∈ qs, Rule.Covers ([] : Rule K) (out.size q)) :
    rewritten V [] face? qs out = out := by
  cases face? with
  | none =>
    simp only [rewritten, Rule.overwrite_nil (covers .points), Rule.overwrite_nil (covers .weights)]
  | some f =>
    simp only [rewritten, Rule.overwrite_nil (covers .points), Rule.overwrite_nil (covers .weights),
      Rule.overwrite_nil (covers .normals)]

theorem write_of_covers (covers : rule.Covers (out.size q)) :
    write V rule face? q out = .done (rewritten V rule face? [q] out) := if_pos covers

theorem write_of_not_covers (misfit : ¬rule.Covers (out.size q)) :
    write V rule face? q out = .stop out (.misuse .shapesDiffer) := if_neg misfit

/-- Whatever comes of a run, the quantities before the first misfit have been written. -/
theorem state_writeAll : (writeAll V rule face? qs out).state =
    rewritten V rule face? (out.beforeMisfit rule qs) out := by
  induction qs generalizing out with
  | nil => exact rewritten_nil.symm
  | cons q rest ih =>
    by_cases covers : rule.Covers (out.size q)
    · rw [writeAll, write_of_covers covers, Attempt.done_next, ih,
        MappingBuffers.beforeMisfit_congr (size_rewritten_singleton covers), rewritten_cons covers,
        MappingBuffers.beforeMisfit_cons_of_covers covers]
    · rw [writeAll, write_of_not_covers covers, Attempt.next_of_fault _ rfl,
        MappingBuffers.beforeMisfit_cons_of_not_covers covers, rewritten_nil]
      rfl

/-- A run gets to its end exactly when the rule fits all the buffers. -/
theorem fault?_writeAll_eq_none_iff :
    (writeAll V rule face? qs out).fault? = none ↔ ∀ q ∈ qs, rule.Covers (out.size q) := by
  induction qs generalizing out with
  | nil => simp [writeAll, Attempt.done]
  | cons q rest ih =>
    rw [writeAll, Attempt.fault?_next_eq_none_iff, List.forall_mem_cons]
    by_cases covers : rule.Covers (out.size q)
    · rw [write_of_covers covers, Attempt.done, ih, size_rewritten_singleton covers]
      simp [covers]
    · rw [write_of_not_covers covers]
      simp [Attempt.stop, covers]

theorem size_writeAll : (writeAll V rule face? qs out).state.size = out.size := by
  rw [state_writeAll]
  exact size_rewritten fun q => MappingBuffers.covers_of_mem_beforeMisfit

theorem writeAll_append {rs : List Quantity} : writeAll V rule face? (qs ++ rs) out =
    (writeAll V rule face? qs out).next (writeAll V rule face? rs) := by
  induction qs generalizing out with
  | nil => rfl
  | cons q rest ih =>
    rw [List.cons_append, writeAll, writeAll]
    by_cases covers : rule.Covers (out.size q)
    · rw [write_of_covers covers, Attempt.done_next, Attempt.done_next, ih]
    · rw [write_of_not_covers covers]
      rfl

theorem writeAll_singleton {wanted : Quantity → Bool} :
    writeAll V rule face? ([q].filter wanted) out =
      if wanted q then write V rule face? q out else .done out := by
  cases requested : wanted q
  · simp [List.filter, requested, writeAll]
  · by_cases covers : rule.Covers (out.size q)
    · simp [List.filter, requested, writeAll, write_of_covers covers]
    · simp [List.filter, requested, writeAll, write_of_not_covers covers, Attempt.stop,
        Attempt.next]

/-- A write into one of the buffers is the write of its quantity. -/
theorem writeBuffer_map {α : Type} {wanted : Bool} {f : RulePoint K → α} {buffer : List α}
    {put : List α → MappingBuffers K} (length : out.size q = buffer.length)
    (puts : put (rule.spread f buffer) = rewritten V rule face? [q] out) :
    writeBuffer wanted buffer (rule.map f) put out =
      if wanted then write V rule face? q out else .done out := by
  rw [writeBuffer, write, Rule.assign_map, length]
  by_cases covers : rule.Covers buffer.length
  · simp only [if_pos covers, puts]
  · simp only [if_neg covers]

theorem fillPoints_eq_writeAll (V : Quad K) (face? : Option Face) :
    fillPoints V rule flags out = writeAll V rule face? ([.points].filter flags.has) out := by
  rw [fillPoints_eq, writeAll_singleton]
  apply writeBuffer_map rfl
  cases face? <;> simp [rewritten, Rule.overwrite]

theorem fillWeights_eq_writeAll (V : Quad K) (face? : Option Face) :
    fillWeights (rule.map (measure V face?)) flags out =
      writeAll V rule face? ([.weights].filter flags.has) out := by
  rw [fillWeights_eq, writeAll_singleton]
  apply writeBuffer_map rfl
  cases face? <;> simp [rewritten, Rule.overwrite]

theorem fillNormals_eq_writeAll (V : Quad K) (f : Face) :
    fillNormals (rule.map fun p => normalAt V f p.point) flags out =
      writeAll V rule (some f) ((out.normalPlaces true).filter flags.has) out := by
  cases entries : out.normals with
  | nil => simp [fillNormals, MappingBuffers.normalPlaces, MappingBuffers.size, entries, writeAll]
  | cons n rest =>
    have place : out.normalPlaces true = [.normals] := by
      simp [MappingBuffers.normalPlaces, MappingBuffers.size, entries]
    have room : (flags.has .normals && !out.normals.isEmpty) = flags.has .normals := by
      simp [entries]
    rw [place, fillNormals_eq, writeAll_singleton, room]
    apply writeBuffer_map rfl
    simp [rewritten, Rule.overwrite]

variable {number? : Option Literal}

/-- Whether the normals have room is known before the weights are written. -/
theorem fillRest_face (V : Quad K) (f : Face) :
    (fillWeights (rule.map (lengthWeight V f)) flags out).next
        (fillNormals (rule.map fun p => normalAt V f p.point) flags) =
      writeAll V rule (some f)
        ([.weights].filter flags.has ++ (out.normalPlaces true).filter flags.has) out := by
  have first : fillWeights (rule.map (lengthWeight V f)) flags out =
      writeAll V rule (some f) ([.weights].filter flags.has) out :=
    fillWeights_eq_writeAll V (some f)
  rw [first, writeAll_append]
  refine Attempt.next_congr fun _ => ?_
  rw [fillNormals_eq_writeAll, MappingBuffers.normalPlaces_congr size_writeAll]

/-- Between the points and the other quantities a call may come upon an obstacle. -/
theorem fill_eq (needed : flags.has .weights || flags.has .normals) :
    fill V rule flags number? out = (fillPoints V rule flags out).next fun out =>
      match siteOf rule number? with
      | .error e => .stop out e
      | .ok face? => writeAll V rule face?
          ([.weights].filter flags.has ++
            (out.normalPlaces face?.isSome).filter flags.has) out := by
  rw [fill, needed]
  refine Attempt.next_congr fun _ => ?_
  simp only [Bool.not_true, Bool.false_eq_true, if_false]
  cases number? with
  | none =>
    simp only [siteOf]
    split
    · rfl
    · dsimp only
      rw [Option.isSome_none, MappingBuffers.normalPlaces_cell, List.filter_nil, List.append_nil]
      exact fillWeights_eq_writeAll V none
  | some number =>
    simp only [siteOf, fillFace]
    cases Face.ofRow (K := K) number with
    | error e => rfl
    | ok f =>
      dsimp only
      split
      · rfl
      · exact fillRest_face V f

theorem fill_of_unneeded (unneeded : ¬(flags.has .weights || flags.has .normals)) :
    fill V rule flags number? out = fillPoints V rule flags out := by
  simp only [fill, unneeded, Bool.not_false, if_true]
  exact Attempt.next_done

theorem fill_of_site (site : siteOf rule number? = .ok face?) :
    fill V rule flags number? out = writeAll V rule face? (out.due flags face?.isSome) out := by
  by_cases needed : flags.has .weights || flags.has .normals
  · rw [fill_eq needed, site, MappingBuffers.due_eq_append, writeAll_append,
      fillPoints_eq_writeAll V face?]
    refine Attempt.next_congr fun _ => ?_
    rw [MappingBuffers.normalPlaces_congr size_writeAll]
  · rw [fill_of_unneeded needed, out.due_of_unneeded _ needed, fillPoints_eq_writeAll V face?]

theorem fill_of_obstacle {e : Fault K} (needed : flags.has .weights || flags.has .normals)
    (obstacle : siteOf rule number? = .error e) :
    fill V rule flags number? out = (fillPoints V rule flags out).next fun out => .stop out e := by
  rw [fill_eq needed, obstacle]

/-- Where only the points get written, their buffer decides. -/
theorem state_fillPoints (V : Quad K) (face? : Option Face) :
    (fillPoints V rule flags out).state =
      rewritten V rule face? (out.beforeMisfit rule ([.points].filter flags.has)) out := by
  rw [fillPoints_eq_writeAll V face?, state_writeAll]

theorem state_fill_of_obstacle {e : Fault K} (face? : Option Face)
    (obstacle : siteOf rule number? = .error e) :
    (fill V rule flags number? out).state =
      rewritten V rule face? (out.beforeMisfit rule ([.points].filter flags.has)) out := by
  by_cases needed : flags.has .weights || flags.has .normals
  · rw [fill_of_obstacle needed obstacle, Attempt.state_next_stop, state_fillPoints V face?]
  · rw [fill_of_unneeded needed, state_fillPoints V face?]

/-- A call that gets past an obstacle has only been asked for the points, and they fit. -/
theorem success_of_obstacle {e : Fault K} (obstacle : siteOf rule number? = .error e)
    (succeeded : (fill V rule flags number? out).fault? = none) :
    ¬(flags.has .weights || flags.has .normals) ∧
      ∀ q ∈ [Quantity.points].filter flags.has, rule.Covers (out.size q) := by
  have unneeded : ¬(flags.has .weights || flags.has .normals) := by
    intro needed
    rw [fill_of_obstacle needed obstacle] at succeeded
    exact Attempt.fault?_next_stop_ne_none _ succeeded
  refine ⟨unneeded, ?_⟩
  rwa [fill_of_unneeded unneeded, fillPoints_eq_writeAll V none, fault?_writeAll_eq_none_iff]
    at succeeded

theorem state_fill_of_empty : (fill V [] flags number? out).state = out := by
  obtain ⟨e, obstacle⟩ := exists_obstacle_of_empty (K := K) number?
  rw [state_fill_of_obstacle none obstacle]
  exact rewritten_of_empty fun q => MappingBuffers.covers_of_mem_beforeMisfit

variable {i : Int} {i? : Option Int}

section InRange
variable (inside : ∀ i ∈ i?, Face.InRange i)
include inside

theorem fill_eq_writeAll (pointed : rule ≠ []) : fill V rule flags (i?.map .int) out =
    writeAll V rule (i?.bind Face.ofInt?) (out.due flags i?.isSome) out := by
  have found : (i?.bind Face.ofInt?).isSome = i?.isSome := by
    cases i? with
    | none => rfl
    | some i =>
      obtain ⟨f, rfl⟩ := Face.exists_number (inside i rfl)
      simp
  rw [fill_of_site (siteOf_of_inRange inside pointed), found]

theorem state_fill_of_inRange : (fill V rule flags (i?.map .int) out).state =
    rewritten V rule (i?.bind Face.ofInt?)
      (out.beforeMisfit rule (out.due flags i?.isSome)) out := by
  by_cases pointed : rule ≠ []
  · rw [fill_eq_writeAll inside pointed, state_writeAll]
  · obtain rfl := not_not.mp pointed
    rw [state_fill_of_empty]
    exact (rewritten_of_empty fun q => MappingBuffers.covers_of_mem_beforeMisfit).symm

end InRange

theorem fault?_fill_of_not_inRange (outside : ¬Face.InRange i)
    (needed : flags.has .weights || flags.has .normals)
    (covers : flags.has .points → rule.Covers out.points.length) :
    (fill V rule flags (some (.int i)) out).fault? = some (.faceNumber (.int i)) := by
  have pointed : (fillPoints V rule flags out).fault? = none := by
    rw [fillPoints_eq_writeAll V none, fault?_writeAll_eq_none_iff]
    intro q member
    obtain ⟨same, requested⟩ := List.mem_filter.mp member
    obtain rfl := List.mem_singleton.mp same
    exact covers requested
  rw [fill_of_obstacle needed (siteOf_of_not_inRange outside),
    Attempt.fault?_next_of_success pointed]
  rfl

/-- A call that is not stopped has written everything that is due. -/
theorem state_of_success (succeeded : (fill V rule flags (i?.map .int) out).fault? = none) :
    (fill V rule flags (i?.map .int) out).state =
      rewritten V rule (i?.bind Face.ofInt?) (out.due flags i?.isSome) out := by
  by_cases clear : rule ≠ [] ∧ ∀ i ∈ i?, Face.InRange i
  · obtain ⟨pointed, inside⟩ := clear
    rw [fill_eq_writeAll inside pointed] at succeeded ⊢
    rw [state_writeAll, MappingBuffers.beforeMisfit_eq_self
      (fault?_writeAll_eq_none_iff.mp succeeded)]
  · obtain ⟨e, obstacle⟩ : ∃ e, siteOf rule (i?.map .int) = .error e := exists_obstacle clear
    obtain ⟨unneeded, covers⟩ := success_of_obstacle obstacle succeeded
    rw [state_fill_of_obstacle _ obstacle, MappingBuffers.beforeMisfit_eq_self covers,
      out.due_of_unneeded _ unneeded]

theorem fillOn_ok : fillOn (.ok V) rule flags number? out = fill V rule flags number? out := by
  rw [fillOn]
  split
  · rfl
  · next unasked =>
    simp only [Bool.not_eq_true, Bool.or_eq_false_iff] at unasked
    simp [fill, fillPoints, unasked]

theorem fillOn_error (e : Fault K) (onFace : Bool) :
    (fillOn (.error e) rule flags number? out).state = out ∧
      ((fillOn (.error e) rule flags number? out).fault? = none →
        out.due flags onFace = []) := by
  rw [fillOn]
  split
  · exact ⟨rfl, nofun⟩
  · next unasked =>
    simp only [Bool.not_eq_true, Bool.or_eq_false_iff] at unasked
    obtain ⟨⟨points, weights⟩, normals⟩ := unasked
    refine ⟨rfl, fun _ => ?_⟩
    rw [out.due_of_unneeded _ (by simp [weights, normals])]
    simp [List.filter, points]

/-- A call that is not stopped has written what is due and nothing else. One that is stopped has
written what comes before the first misfit, and on a number of no face the points at most. A faulty
cell leaves the buffers as they are. -/
theorem writes_in_order (V : Quad K) (rule : Rule K) (flags : UpdateFlags) (i? : Option Int)
    (out : MappingBuffers K) :
    let call := fillOn (.ok V) rule flags (i?.map .int) out
    let face? := i?.bind Face.ofInt?
    let due := out.due flags i?.isSome
    (call.fault? = none → call.state = rewritten V rule face? due out) ∧
      ((∀ i ∈ i?, Face.InRange i) →
        (call.fault? ≠ none → call.state = rewritten V rule face? (out.beforeMisfit rule due) out) ∧
          (rule ≠ [] → (call.fault? = none ↔ ∀ q ∈ due, rule.Covers (out.size q)))) ∧
      (∀ i ∈ i?, ¬Face.InRange i →
        (call.fault? ≠ none → call.state =
          rewritten V rule face? (out.beforeMisfit rule ([.points].filter flags.has)) out) ∧
          ((flags.has .weights ∨ flags.has .normals) →
            (flags.has .points → rule.Covers out.points.length) →
              call.fault? = some (.faceNumber (.int i)))) ∧
      ∀ e, let refused := fillOn (.error e) rule flags (i?.map .int) out
        refused.state = out ∧ (refused.fault? = none → due = []) := by
  intro call face? due
  have opened : call = fill V rule flags (i?.map .int) out := fillOn_ok
  refine ⟨fun succeeded => ?_, fun inside => ⟨fun _ => ?_, fun pointed => ?_⟩,
    fun i member outside => ⟨fun _ => ?_, fun needed covers => ?_⟩, fun e => ?_⟩
  · rw [opened] at succeeded ⊢
    exact state_of_success succeeded
  · rw [opened]
    exact state_fill_of_inRange inside
  · rw [opened, fill_eq_writeAll inside pointed]
    exact fault?_writeAll_eq_none_iff
  · obtain rfl := Option.mem_def.mp member
    rw [opened]
    exact state_fill_of_obstacle _ (siteOf_of_not_inRange outside)
  · obtain rfl := Option.mem_def.mp member
    rw [opened]
    exact fault?_fill_of_not_inRange outside (by simpa using needed) covers
  · exact fillOn_error e _

/-- The weights have a buffer of the wrong length, so a call on the lower face gets no further than
the points. For a number of no face it gets as far. -/
theorem writes_in_order_arrowhead :
    let rule : Rule ℝ := [⟨⟨-1, 0⟩, 1⟩, ⟨⟨1, 0⟩, 1⟩]
    let flags := UpdateFlags.ofList [.points, .weights, .normals]
    let out : MappingBuffers ℝ := ⟨[⟨0, 0⟩, ⟨0, 0⟩], [5, 5, 5], [⟨0, 0⟩, ⟨0, 0⟩]⟩
    let call (i : Int) := fillOn (.ok Quad.arrowhead) rule flags (some (.int i)) out
    (call 2).fault? ≠ none ∧
      (call 2).state = rewritten Quad.arrowhead rule (some .bottom) [.points] out ∧
      (call 7).fault? = some (.faceNumber (.int 7)) ∧
      (call 7).state = rewritten Quad.arrowhead rule none [.points] out := by
  intro rule flags out call
  obtain ⟨_, onFace, _, _⟩ := writes_in_order Quad.arrowhead rule flags (some 2) out
  obtain ⟨_, _, offFace, _⟩ := writes_in_order Quad.arrowhead rule flags (some 7) out
  have inside : ∀ i ∈ some (2 : Int), Face.InRange i := by
    rintro i ⟨⟩
    decide
  obtain ⟨stops, succeeds⟩ := onFace inside
  have misfit : (call 2).fault? ≠ none := by
    intro succeeded
    have covers := (succeeds (List.cons_ne_nil _ _)).mp succeeded .weights (by decide)
    exact absurd covers (by decide)
  have lower : (some (2 : Int)).bind Face.ofInt? = some .bottom := rfl
  have first : out.beforeMisfit rule (out.due flags true) = [.points] := by decide
  have kept : (call 2).state = _ := stops misfit
  rw [lower, Option.isSome_some, first] at kept
  obtain ⟨keeps, refuses⟩ := offFace 7 rfl (by decide)
  have refused : (call 7).fault? = some (.faceNumber (.int 7)) :=
    refuses (.inl (by decide)) fun _ => .inl rfl
  have missing : (some (7 : Int)).bind Face.ofInt? = none := rfl
  have points : out.beforeMisfit rule ([Quantity.points].filter flags.has) = [.points] := by decide
  have left : (call 7).state = _ := keeps fun succeeded => by cases refused.symm.trans succeeded
  rw [missing, points] at left
  exact ⟨misfit, kept, refused, left⟩

/-- The number of no face is refused only after the points have moved, and not at all when only
points are requested. -/
theorem missing_face_moves_points :
    let unit : Quad ℝ := .of ⟨0, 0⟩ ⟨1, 0⟩ ⟨0, 1⟩ ⟨1, 1⟩
    let middle : Rule ℝ := [⟨⟨0, 0⟩, 4⟩]
    let offFace (flags : UpdateFlags) := fillOn (.ok unit) middle flags (some (.int 7))
    let out : MappingBuffers ℝ := ⟨[⟨0, 0⟩], [0], []⟩
    let stopped := offFace (.ofList [.points, .weights]) out
    ¬Face.InRange 7 ∧ stopped.fault? = some (.faceNumber (.int 7)) ∧ stopped.state ≠ out ∧
      (offFace (.only .points) out).fault? = none := by
  intro unit middle offFace out stopped
  refine ⟨by decide, rfl, fun same => ?_, rfl⟩
  have moved : stopped.state.points = [Bilinear.mapPoint unit ⟨0, 0⟩] := rfl
  rw [same, Quad.mapPoint_middle] at moved
  have zero : (0 : ℝ) = unit.vertexAverage.x := congrArg Point.x (List.head_eq_of_cons_eq moved)
  norm_num [unit, Quad.vertexAverage, Quad.of, Point.scale] at zero

end Mapping
end NonconformingQuad
