import Mathlib.Analysis.SpecialFunctions.Log.Basic
import NonconformingQuad.Proofs.Evaluation.Renewal
import NonconformingQuad.Proofs.Geometry.Numbering

/-! Sequences of evaluations of which some fail. An evaluation writes the geometry before the
element has seen the cell, so a failure may come after the geometry is written; everything else
is written last. Through any number of failures a context therefore keeps the shape data, the face
and the half of its last success, but not always the geometry that belongs to them. -/
namespace NonconformingQuad

def Fault.isOutOfRange {K : Type} : Fault K → Bool
  | faceNumber _ | halfNumber _ => true
  | _ => false

namespace Placement
variable {K : Type}

/-- The integers are numbers of a face and a half, as far as the placement needs them. -/
def InRange : Placement K → Int → Int → Prop
  | cell _, _, _ => True
  | face _, i, _ => Face.InRange i
  | half _, i, j => Face.InRange i ∧ Half.InRange j

instance : (p : Placement K) → (i j : Int) → Decidable (p.InRange i j)
  | cell _, _, _ => inferInstanceAs (Decidable True)
  | face _, i, _ => inferInstanceAs (Decidable (Face.InRange i))
  | half _, i, j => inferInstanceAs (Decidable (Face.InRange i ∧ Half.InRange j))

/-- The integers as numbers of a face and a half, as far as the placement takes them. -/
def numbers : Placement K → Int → Int → Literal × Literal
  | cell _, _, _ => (.none, .none)
  | face _, i, _ => (.int i, .none)
  | half _, i, j => (.int i, .int j)

/-- The line rule that is carried along a face; for half of a face it is moved there first. -/
def lineRule [Scalar K] (r : LineRule K) (h : Half) : Placement K → LineRule K
  | half _ => r.onHalf h
  | _ => r

theorem length_lineRule [Scalar K] (placement : Placement K) (r : LineRule K) (h : Half) :
    (placement.lineRule r h).length = r.length := by
  cases placement with
  | half order => exact Rule.length_onHalf h r
  | _ => rfl

/-- A face and a half that exist have a rule, and their numbers pass every check. -/
theorem rule_onFace [Scalar K] {gauss : LineFamily K} {r : LineRule K} (placement : Placement K)
    (onFace : placement.onFace) (line : LineRule.ofOrder? gauss (.int placement.size) = .ok r)
    (f : Face) (h : Half) :
    let face := (placement.numbers f.number h.number).1
    let half := (placement.numbers f.number h.number).2
    placement.rule gauss face half = .ok (Rule.onFace f (placement.lineRule r h)) ∧
      (placement.site face half).check (K := K) = .ok () ∧
      (placement.mappingFace face).mapM (Face.ofRow (K := K)) = .ok (some f) := by
  have row : (some (Literal.int f.number)).mapM (Face.ofRow (K := K)) = .ok (some f) :=
    Outcome.map_eq_ok_iff.mpr ⟨f, Face.ofRow_number f, rfl⟩
  cases placement with
  | cell rule => cases onFace
  | face order => exact ⟨Rule.face?_number line f, Face.check_number f, row⟩
  | half order =>
    refine ⟨Rule.half?_number line f h, ?_, row⟩
    simp only [site, numbers, P1.Site.check, Face.check_number, Half.check_number]
    rfl

/-- There are no rules at integers out of range. The order of the rule may be at fault as well. -/
theorem rule_of_not_inRange [Scalar K] (gauss : LineFamily K) {placement : Placement K} {i j : Int}
    (outside : ¬placement.InRange i j) :
    ∃ e, placement.rule gauss (placement.numbers i j).1 (placement.numbers i j).2 = .error e ∧
      ∀ r, LineRule.ofOrder? gauss (.int placement.size) = .ok r → e.isOutOfRange := by
  cases placement with
  | cell rule => exact absurd trivial outside
  | face order =>
    simp only [numbers, rule, Rule.face?, Face.matching_of_not_inRange outside, size]
    cases LineRule.ofOrder? gauss (.int order) with
    | error e =>
      refine ⟨e, rfl, fun r ordered => ?_⟩
      contradiction
    | ok r => exact ⟨_, rfl, fun _ _ => rfl⟩
  | half order =>
    by_cases known : Half.InRange j
    · have missing : ¬Face.InRange i := fun inside => outside ⟨inside, known⟩
      obtain ⟨h, rfl⟩ := Half.exists_number known
      simp only [numbers, rule, Rule.half?, Face.matching_of_not_inRange missing,
        Half.ofNumber_number, size]
      cases LineRule.ofOrder? gauss (.int order) with
      | error e =>
        refine ⟨e, rfl, fun r ordered => ?_⟩
        contradiction
      | ok r => exact ⟨_, rfl, fun _ _ => rfl⟩
    · simp only [numbers, rule, Rule.half?, Half.ofNumber_of_not_inRange known]
      exact ⟨_, rfl, fun _ _ => rfl⟩

end Placement

/-- One evaluation that is asked for: a cell, and the numbers of a face and a half. -/
structure Call (K : Type) where
  cell : Except (Fault K) (Quad K)
  face : Literal
  half : Literal

namespace Call
variable {K : Type} [Scalar K]

def ofIntegers (placement : Placement K) (cell : Except (Fault K) (Quad K)) (i j : Int) : Call K :=
  ⟨cell, (placement.numbers i j).1, (placement.numbers i j).2⟩

/-- The call ends before anything is written: there is no cell, or no rule where it points to. -/
def IsRefused (gauss : LineFamily K) (placement : Placement K) (k : Call K) : Prop :=
  (∃ e, k.cell = .error e) ∨ ∃ e, placement.rule gauss k.face k.half = .error e

theorem isRefused_of_not_inRange {gauss : LineFamily K} {placement : Placement K}
    {cell : Except (Fault K) (Quad K)} {i j : Int} (outside : ¬placement.InRange i j) :
    (ofIntegers placement cell i j).IsRefused gauss placement := by
  obtain ⟨e, missing, _⟩ := Placement.rule_of_not_inRange gauss outside
  exact .inr ⟨e, missing⟩

end Call

namespace Context
variable {K : Type} [Scalar K]

def call (tol : Tolerances (Bound K)) (gauss : LineFamily K) (k : Call K) (c : Context K) :
    Attempt K (Context K) :=
  c.reinit tol gauss k.cell k.face k.half

/-- The context after a sequence of calls, whatever became of each of them. -/
def after (tol : Tolerances (Bound K)) (gauss : LineFamily K) (c : Context K) :
    List (Call K) → Context K
  | [] => c
  | k :: rest => after tol gauss (c.call tol gauss k).state rest

/-- The calls of a sequence that succeed. -/
def successes (tol : Tolerances (Bound K)) (gauss : LineFamily K) (c : Context K) :
    List (Call K) → List (Call K)
  | [] => []
  | k :: rest =>
    let a := c.call tol gauss k
    let later := successes tol gauss a.state rest
    if a.fault?.isNone then k :: later else later

/-- The contexts differ at most in the geometry. -/
def AgreesOffGeometry (c d : Context K) : Prop := { c with mapping := d.mapping } = d

variable {tol : Tolerances (Bound K)} {gauss : LineFamily K} {cell : Except (Fault K) (Quad K)}
  {faceNumber halfNumber : Literal} {b c d e : Context K}

omit [Scalar K] in
theorem AgreesOffGeometry.refl (c : Context K) : c.AgreesOffGeometry c := rfl

omit [Scalar K] in
theorem AgreesOffGeometry.trans (first : c.AgreesOffGeometry d) (second : d.AgreesOffGeometry e) :
    c.AgreesOffGeometry e := by
  rw [AgreesOffGeometry] at *
  rw [← second, ← first]

/-- Nothing stops an evaluation on a face or a half that exists, with a rule that has the points for
which the context was built, if the cell has the shape functions that are asked for. -/
theorem call_onFace {placement : Placement K} {requested : UpdateFlags} {r : LineRule K}
    {V : Quad K} (tol : Tolerances (Bound K)) (reached : IsReached placement requested c)
    (onFace : placement.onFace) (line : LineRule.ofOrder? gauss (.int placement.size) = .ok r)
    (nodes : (r.length : Int) = placement.size) (pointed : r ≠ [])
    (solved : c.flags.has .values ∨ c.flags.has .gradients → V.IsAccepted tol none)
    (f : Face) (h : Half) :
    let evaluated := c.call tol gauss (.ofIntegers placement (.ok V) f.number h.number)
    evaluated.fault? = none ∧ evaluated.state.mapping =
      Mapping.written V (Rule.onFace f (placement.lineRule r h)) c.flags (some f) c.mapping := by
  have length : (Rule.onFace f (placement.lineRule r h)).length = r.length :=
    (Rule.length_onFace f _).trans (placement.length_lineRule r h)
  have present : Rule.onFace f (placement.lineRule r h) ≠ [] := by
    rw [← List.length_pos_iff, length]
    exact List.length_pos_iff.mpr pointed
  obtain ⟨ruled, site, row⟩ := placement.rule_onFace onFace line f h
  exact reinit_succeeds reached.isSound ruled present (length ▸ nodes) site row solved

theorem after_append (c : Context K) (earlier later : List (Call K)) :
    c.after tol gauss (earlier ++ later) = (c.after tol gauss earlier).after tol gauss later := by
  induction earlier generalizing c with
  | nil => rfl
  | cons k rest ih => exact ih _

theorem reaches_after (c : Context K) (calls : List (Call K)) :
    c.Reaches (c.after tol gauss calls) := by
  induction calls generalizing c with
  | nil => exact .refl c
  | cons k rest ih => exact .next (.reinit tol gauss k.cell k.face k.half c) (ih _)

theorem placement_after {placement : Placement K} {requested : UpdateFlags}
    (tol : Tolerances (Bound K)) (gauss : LineFamily K)
    (built : (build placement requested).outcome = .ok b) (calls : List (Call K)) :
    (b.after tol gauss calls).placement = placement :=
  (IsReached.isSound ⟨b, built, reaches_after b calls⟩).placement_eq

theorem after_success {placement : Placement K} {requested : UpdateFlags}
    (built : (build placement requested).outcome = .ok b) {calls : List (Call K)} {k : Call K}
    (succeeded : ((b.after tol gauss calls).call tol gauss k).fault? = none) :
    (b.call tol gauss k).fault? = none ∧
      b.after tol gauss (calls ++ [k]) = (b.call tol gauss k).state := by
  have agree : (b.call tol gauss k).Agrees (· = ·) ((b.after tol gauss calls).call tol gauss k) :=
    reinit_agrees_of_reaches built (reaches_after b calls)
  have first : (b.call tol gauss k).fault? = none := agree.fault.trans succeeded
  refine ⟨first, ?_⟩
  rw [after_append]
  exact (agree.state first).symm

theorem numbers_of_success {k : Call K} (succeeded : (c.call tol gauss k).fault? = none) :
    (c.call tol gauss k).state.face = (if c.placement.onFace then some k.face else none) ∧
      (c.call tol gauss k).state.half =
        (if c.placement.kind = .half then some k.half else none) := by
  obtain ⟨_, _, _, _, _, _, _, state⟩ := reinit_succeeds_iff.mp ⟨succeeded, rfl⟩
  rw [call, state]
  exact ⟨rfl, rfl⟩

/-- A call that fails changes nothing but the geometry. -/
theorem reinit_of_fault (failed : (c.reinit tol gauss cell faceNumber halfNumber).fault? ≠ none) :
    c.AgreesOffGeometry (c.reinit tol gauss cell faceNumber halfNumber).state := by
  unfold reinit at failed ⊢
  split
  · exact .refl c
  · next V =>
    simp only at failed
    split
    · exact .refl c
    · next rule found =>
      simp only [found] at failed
      cases stopped : (c.mapCell V rule faceNumber).fault? with
      | some fault =>
        rw [Attempt.next_of_fault _ stopped]
        rfl
      | none =>
        have filled : (fillShapes tol V faceNumber halfNumber
            (c.mapCell V rule faceNumber).state).fault? ≠ none := fun success =>
          failed (Attempt.fault?_next_eq_none_iff.mpr ⟨stopped, success⟩)
        rw [Attempt.state_next_of_success _ stopped]
        cases found : (shapeFill tol V faceNumber halfNumber
            (c.mapCell V rule faceNumber).state).outcome with
        | error fault =>
          rw [(fillShapes_of_error found).2]
          rfl
        | ok shapes => exact absurd (fillShapes_of_ok found).1 filled

theorem call_of_isRefused (tol : Tolerances (Bound K)) {k : Call K}
    (refused : k.IsRefused gauss c.placement) :
    ∃ e, c.call tol gauss k = .stop c e := by
  unfold call reinit
  obtain ⟨e, malformed⟩ | ⟨e, missing⟩ := refused
  · exact ⟨e, by rw [malformed]⟩
  · cases k.cell with
    | error fault => exact ⟨fault, rfl⟩
    | ok V => exact ⟨e, by simp only [missing]⟩

theorem ready_call (k : Call K) :
    (c.call tol gauss k).state.ready = (c.ready || (c.call tol gauss k).fault?.isNone) := by
  cases outcome : (c.call tol gauss k).fault? with
  | none =>
    obtain ⟨_, _, _, _, _, _, _, state⟩ := reinit_succeeds_iff.mp ⟨outcome, rfl⟩
    rw [call, state]
    simp [withShapes]
  | some e =>
    have kept := reinit_of_fault (c := c) (fun success : (c.call tol gauss k).fault? = none => by
      simp [outcome] at success)
    rw [call, ← kept]
    simp

theorem ready_after (c : Context K) (calls : List (Call K)) :
    (c.after tol gauss calls).ready = (c.ready || !(c.successes tol gauss calls).isEmpty) := by
  induction calls generalizing c with
  | nil => simp [after, successes]
  | cons k rest ih =>
    rw [after, ih, ready_call, successes]
    cases (c.call tol gauss k).fault? <;> simp

theorem after_of_successes_eq_nil {calls : List (Call K)}
    (failed : c.successes tol gauss calls = []) :
    c.AgreesOffGeometry (c.after tol gauss calls) := by
  induction calls generalizing c with
  | nil => exact .refl c
  | cons k rest ih =>
    rw [successes] at failed
    cases outcome : (c.call tol gauss k).fault? with
    | none => simp [outcome] at failed
    | some e =>
      have kept : c.AgreesOffGeometry (c.call tol gauss k).state :=
        reinit_of_fault fun success => by simp [call, success] at outcome
      simp only [outcome, Option.isNone_some, Bool.false_eq_true, if_false] at failed
      exact kept.trans (ih failed)

theorem after_of_isRefused {calls : List (Call K)}
    (refused : ∀ k ∈ calls, k.IsRefused gauss c.placement) : c.after tol gauss calls = c := by
  induction calls with
  | nil => rfl
  | cons k rest ih =>
    obtain ⟨e, stopped⟩ := call_of_isRefused tol (refused k List.mem_cons_self)
    rw [after, stopped]
    exact ih fun l inside => refused l (List.mem_cons_of_mem k inside)

/-- Every accessor stops with a fault. -/
structure IsSilent (c : Context K) : Prop where
  value (k q : Literal) : ∃ e, c.shapeValue k q = .error e
  gradient (k q : Literal) : ∃ e, c.shapeGradient k q = .error e
  hessian (k q : Literal) : ∃ e, c.shapeHessian k q = .error e
  point (q : Literal) : ∃ e, c.quadraturePoint q = .error e
  weight (q : Literal) : ∃ e, c.weight q = .error e
  normal (q : Literal) : ∃ e, c.normal q = .error e
  functionValues (dofs : Listing K) : ∃ e, c.functionValuesOf dofs = .error e
  functionGradients (dofs : Listing K) : ∃ e, c.functionGradientsOf dofs = .error e

theorem isSilent_of_not_ready (waiting : c.ready = false) : c.IsSilent := by
  have closed (q : Quantity) : ∃ e, c.require q = .error e := by
    have missing : ¬(c.flags.has q ∧ c.ready) := fun available => by simp [waiting] at available
    obtain ⟨e, refused, _⟩ := require_of_unavailable missing
    exact ⟨e, refused⟩
  have unread (q : Quantity) (is : List Literal) : ∃ e, c.read q is = .error e := by
    obtain ⟨e, refused⟩ := closed q
    exact ⟨e, read_of_require refused⟩
  constructor
  · intro k q
    obtain ⟨e, refused⟩ := unread .values [k, q]
    exact ⟨e, by rw [shapeValue, refused]; rfl⟩
  · intro k q
    obtain ⟨e, refused⟩ := unread .gradients [k, q]
    exact ⟨e, by rw [shapeGradient, refused]; rfl⟩
  · intro k q
    exact unread .hessians [k, q]
  · intro q
    obtain ⟨e, refused⟩ := unread .points [q]
    exact ⟨e, by rw [quadraturePoint, refused]; rfl⟩
  · intro q
    obtain ⟨e, refused⟩ := unread .weights [q]
    exact ⟨e, by rw [Context.weight, refused]; rfl⟩
  · intro q
    obtain ⟨e, refused⟩ := unread .normals [q]
    rw [Context.normal, refused]
    split
    · exact ⟨e, rfl⟩
    · exact ⟨_, rfl⟩
  · intro dofs
    obtain ⟨e, refused⟩ := closed .values
    exact ⟨e, by rw [functionValuesOf, refused]; rfl⟩
  · intro dofs
    obtain ⟨e, refused⟩ := closed .gradients
    exact ⟨e, by rw [functionGradientsOf, refused]; rfl⟩

/-- A failed call changes at most the geometry, and not even that when it is refused. What
accessors return therefore comes from the last call that succeeded: it is what a new context shows
after this one call, the geometry included if every later call was refused. -/
theorem after_failures (placement : Placement K) (requested : UpdateFlags) (b : Context K)
    (tol : Tolerances (Bound K)) (gauss : LineFamily K)
    (built : (build placement requested).outcome = .ok b) :
    (∀ calls k, ((b.after tol gauss calls).call tol gauss k).fault? ≠ none →
        (b.after tol gauss calls).AgreesOffGeometry (b.after tol gauss (calls ++ [k])) ∧
          (k.IsRefused gauss placement →
            b.after tol gauss (calls ++ [k]) = b.after tol gauss calls)) ∧
      (∀ cell i j, ¬placement.InRange i j →
        (Call.ofIntegers placement cell i j).IsRefused gauss placement) ∧
      (∀ calls, b.successes tol gauss calls = [] → (b.after tol gauss calls).IsSilent) ∧
      ∀ earlier k later, ((b.after tol gauss earlier).call tol gauss k).fault? = none →
        (b.after tol gauss (earlier ++ [k])).successes tol gauss later = [] →
        (b.call tol gauss k).fault? = none ∧
          (b.call tol gauss k).state.face = (if placement.onFace then some k.face else none) ∧
          (b.call tol gauss k).state.half = (if placement.kind = .half then some k.half else none) ∧
          (b.call tol gauss k).state.AgreesOffGeometry
            (b.after tol gauss (earlier ++ k :: later)) ∧
          ((∀ l ∈ later, l.IsRefused gauss placement) →
            b.after tol gauss (earlier ++ k :: later) = (b.call tol gauss k).state) := by
  have placed := placement_after tol gauss built
  refine ⟨fun calls k failed => ?_, fun cell i j => Call.isRefused_of_not_inRange,
    fun calls failed => ?_, fun earlier k later succeeded failed => ?_⟩
  · rw [after_append]
    refine ⟨reinit_of_fault failed, fun refused => ?_⟩
    rw [← placed calls] at refused
    obtain ⟨e, stopped⟩ := call_of_isRefused tol refused
    rw [after, stopped]
    rfl
  · have new : b.ready = false := ready_of_build built
    refine isSilent_of_not_ready ?_
    rw [ready_after, new, failed]
    rfl
  · obtain ⟨first, last⟩ := after_success built succeeded
    have whole : b.after tol gauss (earlier ++ k :: later) =
        ((b.call tol gauss k).state).after tol gauss later := by
      rw [← last, ← after_append, List.append_assoc, List.singleton_append]
    have numbers := numbers_of_success first
    rw [show b.placement = placement from placed []] at numbers
    refine ⟨first, numbers.1, numbers.2, ?_, fun refused => ?_⟩
    · rw [last] at failed
      rw [whole]
      exact after_of_successes_eq_nil failed
    · rw [whole]
      refine after_of_isRefused fun l inside => ?_
      rw [← last, placed]
      exact refused l inside

theorem after_failures_missing_face :
    ∃ b : Context ℝ, (build (.face 1) (.ofList [.values, .normals])).outcome = .ok b ∧
      let tol := (⟨0, 0, 0⟩ : Tolerances ℝ).map .number
      let gauss : LineFamily ℝ := fun _ => .ok [⟨0, 2⟩]
      let onFace (i : Int) := Call.ofIntegers (.face 1) (.ok Quad.arrowhead) i 0
      (b.call tol gauss (onFace 2)).fault? = none ∧
        b.after tol gauss [onFace 2, onFace 4] = (b.call tol gauss (onFace 2)).state := by
  obtain ⟨b, built⟩ : ∃ b : Context ℝ,
      (build (.face 1) (.ofList [.values, .normals])).outcome = .ok b := ⟨_, rfl⟩
  refine ⟨b, built, ?_⟩
  intro tol gauss onFace
  have succeeded : (b.call tol gauss (onFace 2)).fault? = none :=
    (reinit_succeeds (isSound_of_build built) rfl (List.cons_ne_nil _ _) rfl rfl rfl
      fun _ => Quad.isAccepted_arrowhead).1
  obtain ⟨_, missing, _, last⟩ := after_failures (.face 1) _ b tol gauss built
  have refused : (onFace 4).IsRefused gauss (.face 1) := missing _ 4 0 (by decide)
  obtain ⟨_, _, _, _, same⟩ := last [] (onFace 2) [onFace 4] succeeded (by
    have placed := placement_after tol gauss built [onFace 2]
    obtain ⟨e, stopped⟩ := call_of_isRefused tol (placed.symm ▸ refused)
    rw [List.nil_append, successes, stopped]
    rfl)
  refine ⟨succeeded, same fun l inside => ?_⟩
  rw [List.mem_singleton.mp inside]
  exact refused

/-- The geometry of a cell without shape functions stays behind: the point moves to a cell that
was refused, beside values of the cell before. -/
theorem failed_call_moves_point :
    ∃ b : Context ℝ, (build (.cell [⟨⟨0, 0⟩, 4⟩]) (.only .values)).outcome = .ok b ∧
      let evaluated (V : Quad ℝ) (c : Context ℝ) := c.reinit ⟨.number 0, .number 0, .number 0⟩
        (fun _ => .error .noNodes) (.ok V) .none .none
      let c := (evaluated Quad.arrowhead b).state
      let d := (evaluated Quad.flattened c).state
      (evaluated Quad.arrowhead b).fault? = none ∧ (evaluated Quad.flattened c).fault? ≠ none ∧
        d.shapes = c.shapes ∧ c.quadraturePoint (.int 0) = .ok ⟨5 / 8, 5 / 8⟩ ∧
        d.quadraturePoint (.int 0) = .ok ⟨3 / 2, 0⟩ := by
  obtain ⟨b, built⟩ : ∃ b : Context ℝ,
      (build (.cell [⟨⟨0, 0⟩, 4⟩]) (.only .values)).outcome = .ok b := ⟨_, rfl⟩
  refine ⟨b, built, ?_⟩
  intro evaluated c d
  have sound := isSound_of_build built
  have refused : ¬Quad.flattened.IsAccepted ((⟨0, 0, 0⟩ : Tolerances ℝ).map .number) none := by
    rw [Quad.isAccepted_exact_iff]
    exact not_not.mpr Quad.midlineDeterminant_flattened
  obtain ⟨succeeded, first⟩ : (evaluated Quad.arrowhead b).fault? = none ∧ c.mapping = _ :=
    reinit_succeeds sound rfl (List.cons_ne_nil _ _) rfl rfl rfl
      fun _ => Quad.isAccepted_arrowhead
  have same : b.HasPlanOf c := sound.hasPlanOf_reinit ..
  have later := sound.congr same
  have second : d.mapping = _ := mapping_reinit later rfl (List.cons_ne_nil _ _) rfl rfl
  have valued : c.flags.has .values := later.has_of_requested (by decide)
  have failed : (evaluated Quad.flattened c).fault? ≠ none := fun success =>
    refused ⟨_, (shows_of_reinit later (.inl valued) success).1⟩
  have kept : c.AgreesOffGeometry d := reinit_of_fault failed
  have ready : c.ready = true :=
    (shows_of_reinit sound (.inl (sound.has_of_requested (by decide))) succeeded).2.ready
  have placed : c.flags.has .points := later.has_points valued
  have before : c.mapping.points = [⟨5 / 8, 5 / 8⟩] := by
    rw [first, Mapping.written, if_pos (same.flags ▸ placed), Mapping.pointsOf, List.map_singleton,
      Quad.mapPoint_middle, Quad.vertexAverage_arrowhead]
  have moved : d.mapping.points = [⟨3 / 2, 0⟩] := by
    rw [second, Mapping.written, if_pos placed, Mapping.pointsOf, List.map_singleton,
      Quad.mapPoint_middle, Quad.vertexAverage_flattened]
  refine ⟨succeeded, failed, ?_, ?_, ?_⟩
  · rw [← kept]
  · exact quadraturePoint_singleton placed ready before
  · refine quadraturePoint_singleton ?_ ?_ moved
    · rw [← kept]
      exact placed
    · rw [← kept]
      exact ready

end Context
end NonconformingQuad
