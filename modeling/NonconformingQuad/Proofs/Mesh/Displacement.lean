import Mathlib.Analysis.SpecialFunctions.Log.Basic
import NonconformingQuad.Proofs.Mesh.PlacedGrid
import NonconformingQuad.Proofs.Mesh.StructuredGrid

/-! Displaced nodes in exact arithmetic. A node stays in place when one of its coordinates lies
within the tolerance of the least or the greatest such coordinate of all nodes; every other node
moves by what is given for it. The nodes on the outermost lines of a grid always stay. -/
noncomputable section
namespace NonconformingQuad

namespace Scalar

theorem lesser_real (a b : ℝ) : lesser a b = min a b := by
  rw [lesser]
  split
  · next smaller => rw [min_eq_left smaller]
  · next larger =>
    rw [if_pos (le_of_not_ge larger), min_eq_right (le_of_not_ge larger)]

theorem greater_real (a b : ℝ) : greater a b = max a b := by
  rw [greater]
  split
  · next larger => rw [max_eq_left larger]
  · next smaller =>
    rw [if_pos (le_of_not_ge smaller), max_eq_right (le_of_not_ge smaller)]

end Scalar

namespace Distortion
variable {tol amplitude x : ℝ} {xs : List ℝ} {nodes shifts : List (Point ℝ)} {p s : Point ℝ}
  {n : Nat}

theorem isLeast_least (present : xs ≠ []) : IsLeast {x | x ∈ xs} (least xs) := by
  cases xs with
  | nil => contradiction
  | cons x rest =>
    have folded : least (x :: rest) = rest.foldl min x :=
      congrArg (rest.foldl · x) (funext₂ Scalar.lesser_real)
    have found : (x :: rest).min? = some (rest.foldl min x) := List.min?_cons'
    obtain ⟨member, below⟩ := List.min?_eq_some_iff.mp found
    rw [folded]
    exact ⟨member, below⟩

theorem isGreatest_greatest (present : xs ≠ []) : IsGreatest {x | x ∈ xs} (greatest xs) := by
  cases xs with
  | nil => contradiction
  | cons x rest =>
    have folded : greatest (x :: rest) = rest.foldl max x :=
      congrArg (rest.foldl · x) (funext₂ Scalar.greater_real)
    have found : (x :: rest).max? = some (rest.foldl max x) := List.max?_cons'
    obtain ⟨member, above⟩ := List.max?_eq_some_iff.mp found
    rw [folded]
    exact ⟨member, above⟩

/-- The number lies within `tol` of the least or the greatest one of a list. -/
def IsOutermost (tol : ℝ) (xs : List ℝ) (x : ℝ) : Prop :=
  |x - least xs| ≤ tol ∨ |x - greatest xs| ≤ tol

instance : Decidable (IsOutermost tol xs x) := inferInstanceAs (Decidable (_ ∨ _))

/-- A node at this point is not displaced. -/
def Stays (tol : ℝ) (nodes : List (Point ℝ)) (p : Point ℝ) : Prop :=
  IsOutermost tol (nodes.map (·.x)) p.x ∨ IsOutermost tol (nodes.map (·.y)) p.y

instance : Decidable (Stays tol nodes p) := inferInstanceAs (Decidable (_ ∨ _))

theorem isOutermost_of_isLeast (nonneg : 0 ≤ tol) (lowest : IsLeast {x | x ∈ xs} x) :
    IsOutermost tol xs x := by
  left
  rw [lowest.unique (isLeast_least (List.ne_nil_of_mem lowest.1)), sub_self, abs_zero]
  exact nonneg

theorem isOutermost_of_isGreatest (nonneg : 0 ≤ tol) (highest : IsGreatest {x | x ∈ xs} x) :
    IsOutermost tol xs x := by
  right
  rw [highest.unique (isGreatest_greatest (List.ne_nil_of_mem highest.1)), sub_self, abs_zero]
  exact nonneg

theorem getElem?_nearEnds (tol : ℝ) (xs : List ℝ) (n : Nat) :
    (nearEnds tol xs)[n]? = xs[n]?.map fun x => decide (IsOutermost tol xs x) := by
  rw [nearEnds, List.getElem?_map]
  exact congrArg (Option.map · _) (funext fun x => (Bool.decide_or _ _).symm)

theorem getElem?_onBoundary (tol : ℝ) (nodes : List (Point ℝ)) (n : Nat) :
    (onBoundary tol nodes)[n]? = nodes[n]?.map fun p => decide (Stays tol nodes p) := by
  simp only [onBoundary, List.getElem?_zipWith, getElem?_nearEnds, List.getElem?_map]
  cases nodes[n]? with
  | none => rfl
  | some p => exact congrArg some (Bool.decide_or _ _).symm

theorem getElem?_displace (tol : ℝ) (node : nodes[n]? = some p) (shift : shifts[n]? = some s) :
    (displace tol shifts nodes)[n]? = some (p + if Stays tol nodes p then 0 else s) := by
  simp [displace, List.getElem?_zipWith, getElem?_onBoundary, node, shift]

theorem getElem?_displace_range (tol : ℝ) (shift : Nat → Point ℝ) (node : nodes[n]? = some p) :
    (displace tol ((List.range nodes.length).map shift) nodes)[n]? =
      some (p + if Stays tol nodes p then 0 else shift n) := by
  have inside := (List.getElem?_eq_some_iff.mp node).1
  refine getElem?_displace tol node ?_
  rw [List.getElem?_map, List.getElem?_range inside, Option.map_some]

theorem bounded_zero (bounded : Bounded amplitude s) : Bounded amplitude 0 := by
  obtain ⟨left, right, -, -⟩ := bounded
  have nonneg : 0 ≤ amplitude := by linarith
  exact ⟨neg_nonpos.mpr nonneg, nonneg, neg_nonpos.mpr nonneg, nonneg⟩

end Distortion

namespace Grid
open Distortion
variable {g : Grid ℝ} {tol amplitude : ℝ} {shift : Nat → Point ℝ} {i j : Nat} {p : Point ℝ}

/-- All nodes are shifted alike. -/
def IsRigid (g : Grid ℝ) : Prop := ∃ o, ∀ n, g.shiftOf n = o

/-- The lines meet on the rim of the grid. -/
def IsRim (g : Grid ℝ) (i j : Nat) : Prop := i = 0 ∨ i = g.columns ∨ j = 0 ∨ j = g.rows

theorem mem_nodes {K : Type} [Scalar K] {g : Grid K} {p : Point K} :
    p ∈ g.nodes ↔ ∃ i j, i ≤ g.columns ∧ j ≤ g.rows ∧ g.position i j = p := by
  simp only [nodes, List.mem_flatMap, List.mem_map, List.mem_range, Nat.lt_succ_iff]
  constructor
  · rintro ⟨j, row, i, column, rfl⟩
    exact ⟨i, j, column, row, rfl⟩
  · rintro ⟨i, j, column, row, rfl⟩
    exact ⟨j, row, i, column, rfl⟩

theorem crossing_of_shifted {o : Point ℝ} (shifted : ∀ n, g.shiftOf n = o) (i j : Nat) :
    g.crossing i j = ⟨o.x + i * g.width / g.columns, o.y + j * g.height / g.rows⟩ := by
  rw [crossing, shifted]
  rfl

/-- The first and the last of equally spaced lines carry the least and the greatest coordinate. -/
theorem isOutermost_line {xs : List ℝ} {o w : ℝ} {k n : Nat} (width : 0 ≤ w) (nonneg : 0 ≤ tol)
    (lines : ∀ x ∈ xs, ∃ i ≤ n, o + i * w / n = x) (member : o + k * w / n ∈ xs)
    (end_ : k = 0 ∨ k = n) : IsOutermost tol xs (o + k * w / n) := by
  rcases end_ with rfl | rfl
  · refine isOutermost_of_isLeast nonneg ⟨member, ?_⟩
    intro x listed
    obtain ⟨i, -, rfl⟩ := lines x listed
    have spacing : 0 ≤ (i : ℝ) * w / n := by positivity
    simpa using spacing
  · refine isOutermost_of_isGreatest nonneg ⟨member, ?_⟩
    intro x listed
    obtain ⟨i, within, rfl⟩ := lines x listed
    gcongr

/-- Lines further apart than the tolerance are told apart from the first and the last one. -/
theorem not_isOutermost_line {xs : List ℝ} {o w : ℝ} {k n : Nat} (width : 0 ≤ w)
    (lines : ∀ x, x ∈ xs ↔ ∃ i ≤ n, o + i * w / n = x) (apart : tol < w / n) (low : 0 < k)
    (high : k < n) : ¬IsOutermost tol xs (o + k * w / n) := by
  have first : IsLeast {x | x ∈ xs} o := by
    refine ⟨(lines o).mpr ⟨0, Nat.zero_le n, by simp⟩, ?_⟩
    intro x listed
    obtain ⟨i, -, rfl⟩ := (lines x).mp listed
    have spacing : 0 ≤ (i : ℝ) * w / n := by positivity
    linarith
  have last : IsGreatest {x | x ∈ xs} (o + n * w / n) := by
    refine ⟨(lines _).mpr ⟨n, le_rfl, rfl⟩, ?_⟩
    intro x listed
    obtain ⟨i, within, rfl⟩ := (lines x).mp listed
    gcongr
  have present : xs ≠ [] := List.ne_nil_of_mem first.1
  have spacing : 0 ≤ w / n := by positivity
  have one (i : Nat) (positive : 0 < i) : w / n ≤ i * (w / n) :=
    le_mul_of_one_le_left spacing (Nat.one_le_cast.mpr positive)
  have up : o + k * w / n - o = k * (w / n) := by ring
  have down : o + k * w / n - (o + n * w / n) = -((n - k : Nat) * (w / n)) := by
    rw [Nat.cast_sub high.le]
    ring
  rw [IsOutermost, first.unique (isLeast_least present) |>.symm,
    last.unique (isGreatest_greatest present) |>.symm, up, down, abs_neg]
  rintro (near | near)
  · have above := one k low
    linarith [le_abs_self ((k : ℝ) * (w / n))]
  · have above := one (n - k) (Nat.sub_pos_of_lt high)
    linarith [le_abs_self (((n - k : Nat) : ℝ) * (w / n))]

section Lines
variable {o : Point ℝ} (columns : 1 ≤ g.columns) (rows : 1 ≤ g.rows)
  (shifted : ∀ n, g.shiftOf n = o)
include columns rows shifted

theorem position_of_shifted (i j : Nat) :
    g.position i j = ⟨o.x + i * g.width / g.columns, o.y + j * g.height / g.rows⟩ :=
  (position_real columns rows i j).trans (crossing_of_shifted shifted i j)

theorem mem_map_x_nodes (x : ℝ) :
    x ∈ g.nodes.map (·.x) ↔ ∃ i ≤ g.columns, o.x + i * g.width / g.columns = x := by
  rw [List.mem_map]
  constructor
  · rintro ⟨p, member, rfl⟩
    obtain ⟨i, j, column, row, rfl⟩ := mem_nodes.mp member
    exact ⟨i, column, congrArg Point.x (position_of_shifted columns rows shifted i j).symm⟩
  · rintro ⟨i, column, rfl⟩
    exact ⟨_, mem_nodes.mpr ⟨i, 0, column, Nat.zero_le _, rfl⟩,
      congrArg Point.x (position_of_shifted columns rows shifted i 0)⟩

theorem mem_map_y_nodes (y : ℝ) :
    y ∈ g.nodes.map (·.y) ↔ ∃ j ≤ g.rows, o.y + j * g.height / g.rows = y := by
  rw [List.mem_map]
  constructor
  · rintro ⟨p, member, rfl⟩
    obtain ⟨i, j, column, row, rfl⟩ := mem_nodes.mp member
    exact ⟨j, row, congrArg Point.y (position_of_shifted columns rows shifted i j).symm⟩
  · rintro ⟨j, row, rfl⟩
    exact ⟨_, mem_nodes.mpr ⟨0, j, Nat.zero_le _, row, rfl⟩,
      congrArg Point.y (position_of_shifted columns rows shifted 0 j)⟩

end Lines

theorem stays_of_isRim (columns : 1 ≤ g.columns) (rows : 1 ≤ g.rows) (width : 0 ≤ g.width)
    (height : 0 ≤ g.height) (rigid : g.IsRigid) (nonneg : 0 ≤ tol) (column : i ≤ g.columns)
    (row : j ≤ g.rows) (rim : g.IsRim i j) : Stays tol g.nodes (g.crossing i j) := by
  obtain ⟨o, shifted⟩ := rigid
  have abscissas := mem_map_x_nodes columns rows shifted
  have ordinates := mem_map_y_nodes columns rows shifted
  rw [crossing_of_shifted shifted]
  rw [IsRim, ← or_assoc] at rim
  rcases rim with side | side
  · have listed := (abscissas _).mpr ⟨i, column, rfl⟩
    exact .inl (isOutermost_line width nonneg (fun x => (abscissas x).mp) listed side)
  · have listed := (ordinates _).mpr ⟨j, row, rfl⟩
    exact .inr (isOutermost_line height nonneg (fun y => (ordinates y).mp) listed side)

/-- Off the rim every node is displaced, if the tolerance is below the spacing. -/
theorem not_stays_of_not_isRim (columns : 1 ≤ g.columns) (rows : 1 ≤ g.rows)
    (width : 0 ≤ g.width) (height : 0 ≤ g.height) (rigid : g.IsRigid)
    (narrow : tol < g.width / g.columns) (low : tol < g.height / g.rows) (column : i ≤ g.columns)
    (row : j ≤ g.rows) (inner : ¬g.IsRim i j) : ¬Stays tol g.nodes (g.crossing i j) := by
  obtain ⟨o, shifted⟩ := rigid
  rw [IsRim] at inner
  rw [crossing_of_shifted shifted]
  rintro (near | near)
  · exact not_isOutermost_line width (mem_map_x_nodes columns rows shifted) narrow (by omega)
      (by omega) near
  · exact not_isOutermost_line height (mem_map_y_nodes columns rows shifted) low (by omega)
      (by omega) near

/-- How far a node of the grid is really moved when a displacement is given for each number. -/
def displacement (g : Grid ℝ) (tol : ℝ) (shift : Nat → Point ℝ) (i j : Nat) : Point ℝ :=
  if Stays tol g.nodes (g.crossing i j) then 0 else shift (g.nodeNumber i j)

/-- The mesh of the grid with its nodes displaced. -/
def displacedMesh (g : Grid ℝ) (tol : ℝ) (shift : Nat → Point ℝ) : Mesh ℝ :=
  .ofCells (displace tol ((List.range g.nodes.length).map shift) g.nodes) g.cells

/-- This is the mesh that is built when an amplitude is given. -/
theorem distortedMesh_eq_displacedMesh {seed : Seed} (positive : 0 < amplitude)
    (seeded : seed.check = .ok ()) :
    (g.distortedMesh (.number tol) (.number amplitude) seed shift).outcome =
      .ok (g.displacedMesh tol shift) := by
  have given : (Bound.number amplitude).isPositive = .ok true :=
    congrArg Except.ok (decide_eq_true positive)
  have allowed : checkAmplitude amplitude = (.ok () : Except (Fault ℝ) Unit) := by
    simp [checkAmplitude, positive.not_gt]
  rw [distortedMesh, given, Run.ofMisuse_ok_bind]
  simp only [if_true, Bound.value, seeded, Run.ofMisuse_ok_bind, allowed]
  rfl

theorem isPlacedAt_displacedMesh (columns : 1 ≤ g.columns) (rows : 1 ≤ g.rows) (tol : ℝ)
    (shift : Nat → Point ℝ) :
    g.IsPlacedAt (fun i j => g.crossing i j + g.displacement tol shift i j)
      (g.displacedMesh tol shift) where
  cells := rfl
  node i j column row := by
    exact getElem?_displace_range tol shift (getElem?_nodes_crossing columns rows column row)

theorem displacement_of_isRim (columns : 1 ≤ g.columns) (rows : 1 ≤ g.rows) (width : 0 ≤ g.width)
    (height : 0 ≤ g.height) (rigid : g.IsRigid) (nonneg : 0 ≤ tol) (column : i ≤ g.columns)
    (row : j ≤ g.rows) (rim : g.IsRim i j) : g.displacement tol shift i j = 0 :=
  if_pos (stays_of_isRim columns rows width height rigid nonneg column row rim)

theorem bounded_displacement (bounded : ∀ n, Bounded amplitude (shift n)) (i j : Nat) :
    Bounded amplitude (g.displacement tol shift i j) := by
  rw [displacement]
  split
  · exact bounded_zero (bounded 0)
  · exact bounded _

/-- A box of the displaced grid is the box of the grid with its corners displaced. -/
theorem ofBox_displaced (rigid : g.IsRigid) (tol : ℝ) (shift : Nat → Point ℝ) (i j : Nat)
    (k : Corner) :
    Quad.ofBox (fun i j => g.crossing i j + g.displacement tol shift i j) i j k =
      ⟨(g.crossing i j).x + k.steps.1 * (g.width / g.columns),
        (g.crossing i j).y + k.steps.2 * (g.height / g.rows)⟩ +
        g.displacement tol shift (i + k.steps.1) (j + k.steps.2) := by
  obtain ⟨o, shifted⟩ := rigid
  rw [Quad.ofBox]
  refine congrArg (· + _) ?_
  simp only [crossing_of_shifted shifted, Nat.cast_add]
  apply Point.ext <;> ring

end Grid
end NonconformingQuad
end
