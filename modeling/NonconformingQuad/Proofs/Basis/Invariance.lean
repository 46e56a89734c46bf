import Mathlib.Analysis.SpecialFunctions.Log.Basic
import NonconformingQuad.Proofs.Geometry.Area
import NonconformingQuad.Proofs.Geometry.PlaneMaps
import NonconformingQuad.Proofs.Geometry.Relabelling

/-! What the solver does not depend on. The refusal of a cell is a matter of the angle between its
midlines. Lengths and scalar products of the midlines are sums of squared distances of vertices, so
a similarity multiplies them all alike and leaves the angle as it is; a relabelling that keeps the
edges turns midlines round or makes one the other. The solution itself moves with the labels: each
row follows its vertex. -/
noncomputable section
namespace NonconformingQuad

namespace Point

/-- All distances are multiplied by one factor. Translations, rotations, reflections, changes of
scale, and whatever is made of them, are of this kind. -/
def IsSimilarity (g : Point ℝ → Point ℝ) : Prop :=
  ∃ r > 0, ∀ p q, (g p - g q).norm = r * (p - q).norm

def squaredDistance (p q : Point ℝ) : ℝ := dot (p - q) (p - q)

theorem sub_eq_scale_sub (p q : Point ℝ) : p - q = scale (-1) (q - p) := by
  apply Point.ext <;> simp only [scale, sub_x, sub_y] <;> ring

theorem dot_self_nonneg (v : Point ℝ) : 0 ≤ dot v v :=
  add_nonneg (mul_self_nonneg v.x) (mul_self_nonneg v.y)

theorem norm_mul_self (v : Point ℝ) : v.norm * v.norm = dot v v :=
  Real.mul_self_sqrt (dot_self_nonneg v)

theorem IsSimilarity.exists_squaredDistance {g : Point ℝ → Point ℝ} (similar : IsSimilarity g) :
    ∃ c > 0, ∀ p q, squaredDistance (g p) (g q) = c * squaredDistance p q := by
  obtain ⟨r, positive, distances⟩ := similar
  refine ⟨r * r, mul_pos positive positive, fun p q => ?_⟩
  rw [squaredDistance, squaredDistance, ← norm_mul_self, ← norm_mul_self, distances]
  ring

end Point

/-- Perpendicular images of the unit vectors, of one length, make an affine map a similarity. -/
theorem PlaneMap.isSimilarity_apply {T : PlaneMap} (square : Point.dot T.ex T.ey = 0)
    (even : Point.dot T.ey T.ey = Point.dot T.ex T.ex) (invertible : 0 < Point.dot T.ex T.ex) :
    Point.IsSimilarity T.apply := by
  refine ⟨T.ex.norm, Real.sqrt_pos.mpr invertible, fun p q => ?_⟩
  have stretched : Point.dot (T.linear (p - q)) (T.linear (p - q)) =
      Point.dot T.ex T.ex * Point.dot (p - q) (p - q) := by
    simp only [Point.dot] at square even
    simp only [linear, Point.dot, Point.scale, Point.add_x, Point.add_y]
    linear_combination 2 * (p - q).x * (p - q).y * square + (p - q).y ^ 2 * even
  rw [T.apply_sub_apply, Point.norm, stretched, Scalar.sqrt_real, Real.sqrt_mul invertible.le]
  rfl

namespace Quad
open Point Corner
variable {V W : Quad ℝ} {s : Equiv.Perm Corner} {tol : Tolerances ℝ} {rtol? : Option ℝ}

/-- The solver finds fault with the shape of the cell. -/
def IsRefused {K : Type} [Scalar K] (tol : Tolerances (Bound K)) (threshold? : Option (Bound K))
    (V : Quad K) : Prop :=
  ∃ e, (V.shapeTable tol threshold?).outcome = .error e ∧ e.isDegeneracy

theorem isRefused_iff_determinant (nonneg : 0 ≤ rtol?.getD tol.degeneracy) :
    V.IsRefused (tol.map .number) (rtol?.map .number) ↔
      |V.midlineDeterminant| ≤ rtol?.getD tol.degeneracy * V.midlineX.norm * V.midlineY.norm := by
  rw [IsRefused, refuses_iff, midlineSine_real, abs_div, mul_assoc]
  have positive : 0 ≤ V.midlineScale := mul_nonneg (Real.sqrt_nonneg _) (Real.sqrt_nonneg _)
  change _ ≤ _ ↔ _ ≤ _ * V.midlineScale
  rcases positive.eq_or_lt with flat | long
  · have parallel : V.midlineDeterminant = 0 :=
      not_not.mp fun independent => midlineScale_ne_zero independent flat.symm
    simp [parallel, ← flat, nonneg]
  · rw [abs_of_pos long, div_le_iff₀ long]

theorem sq_midlineDeterminant (V : Quad ℝ) : V.midlineDeterminant ^ 2 =
    dot V.midlineX V.midlineX * dot V.midlineY V.midlineY - dot V.midlineX V.midlineY ^ 2 := by
  simp only [midlineDeterminant, cross, dot]
  ring

theorem midlineScale_eq_sqrt (V : Quad ℝ) : V.midlineScale =
    Real.sqrt (dot V.midlineX V.midlineX * dot V.midlineY V.midlineY) := by
  rw [Real.sqrt_mul (dot_self_nonneg V.midlineX)]
  rfl

/-- The angle between the midlines is known by their lengths and their scalar product, up to a
common factor. -/
theorem abs_midlineSine_congr {c : ℝ} (positive : 0 < c)
    (lengths : dot W.midlineX W.midlineX * dot W.midlineY W.midlineY =
      c ^ 2 * (dot V.midlineX V.midlineX * dot V.midlineY V.midlineY))
    (product : dot W.midlineX W.midlineY ^ 2 = c ^ 2 * dot V.midlineX V.midlineY ^ 2) :
    |W.midlineSine| = |V.midlineSine| := by
  have square : W.midlineDeterminant ^ 2 = (c * V.midlineDeterminant) ^ 2 := by
    rw [mul_pow, sq_midlineDeterminant, sq_midlineDeterminant]
    linear_combination lengths - product
  have scale : W.midlineScale = c * V.midlineScale := by
    rw [midlineScale_eq_sqrt, midlineScale_eq_sqrt, lengths, Real.sqrt_mul (sq_nonneg c),
      Real.sqrt_sq positive.le]
  have determinant : |W.midlineDeterminant| = |c * V.midlineDeterminant| :=
    (sq_eq_sq_iff_abs_eq_abs _ _).mp square
  rw [midlineSine_real, midlineSine_real, abs_div, abs_div, determinant, scale, abs_mul, abs_mul,
    mul_div_mul_left _ _ (abs_pos.mpr positive.ne').ne']

theorem midlineDeterminant_ne_zero_iff (V : Quad ℝ) :
    V.midlineDeterminant ≠ 0 ↔ 0 < |V.midlineSine| :=
  (isAccepted_zero_iff V ⟨0, 0, 0⟩).symm.trans (@isAccepted_iff ⟨0, 0, 0⟩ (some 0) V)

theorem isRefused_congr (same : |W.midlineSine| = |V.midlineSine|) :
    W.IsRefused (tol.map .number) (rtol?.map .number) ↔
      V.IsRefused (tol.map .number) (rtol?.map .number) := by
  rw [IsRefused, IsRefused, refuses_iff, refuses_iff, same]

section Distances

theorem dot_midlineX_self (V : Quad ℝ) : dot V.midlineX V.midlineX =
    (squaredDistance (V .bottomLeft) (V .bottomRight) + squaredDistance (V .topLeft) (V .topRight) +
      squaredDistance (V .bottomLeft) (V .topRight) +
      squaredDistance (V .bottomRight) (V .topLeft) -
      squaredDistance (V .bottomLeft) (V .topLeft) -
      squaredDistance (V .bottomRight) (V .topRight)) / 4 := by
  simp only [squaredDistance, dot, midlineX, sub_x, sub_y, edgeMidpoint_x, edgeMidpoint_y,
    Face.first, Face.second]
  ring

theorem dot_midlineY_self (V : Quad ℝ) : dot V.midlineY V.midlineY =
    (squaredDistance (V .bottomLeft) (V .topLeft) + squaredDistance (V .bottomRight) (V .topRight) +
      squaredDistance (V .bottomLeft) (V .topRight) +
      squaredDistance (V .bottomRight) (V .topLeft) -
      squaredDistance (V .bottomLeft) (V .bottomRight) -
      squaredDistance (V .topLeft) (V .topRight)) / 4 := by
  simp only [squaredDistance, dot, midlineY, sub_x, sub_y, edgeMidpoint_x, edgeMidpoint_y,
    Face.first, Face.second]
  ring

/-- The midlines are as far from perpendicular as the diagonals are from having one length. -/
theorem dot_midlineX_midlineY (V : Quad ℝ) : dot V.midlineX V.midlineY =
    (squaredDistance (V .bottomLeft) (V .topRight) -
      squaredDistance (V .bottomRight) (V .topLeft)) / 4 := by
  simp only [squaredDistance, dot, midlineX, midlineY, sub_x, sub_y, edgeMidpoint_x,
    edgeMidpoint_y, Face.first, Face.second]
  ring

theorem abs_midlineSine_similar {g : Point ℝ → Point ℝ} (similar : IsSimilarity g) (V : Quad ℝ) :
    |midlineSine fun k => g (V k)| = |V.midlineSine| := by
  obtain ⟨c, positive, distances⟩ := similar.exists_squaredDistance
  refine abs_midlineSine_congr positive ?_ ?_
  · simp only [dot_midlineX_self, dot_midlineY_self, distances]
    ring
  · simp only [dot_midlineX_midlineY, distances]
    ring

end Distances

section Labels

theorem midlines_flipX (V : Quad ℝ) : (V.relabel flipX).midlineX = scale (-1) V.midlineX ∧
    (V.relabel flipX).midlineY = V.midlineY := by
  constructor
  · rw [midlineX, edgeMidpoint_relabel (g := .right) (by decide),
      edgeMidpoint_relabel (g := .left) (by decide), sub_eq_scale_sub, midlineX]
  · rw [midlineY, edgeMidpoint_relabel (g := .bottom) (by decide),
      edgeMidpoint_relabel (g := .top) (by decide), midlineY]

theorem midlines_flipY (V : Quad ℝ) : (V.relabel flipY).midlineX = V.midlineX ∧
    (V.relabel flipY).midlineY = scale (-1) V.midlineY := by
  constructor
  · rw [midlineX, edgeMidpoint_relabel (g := .left) (by decide),
      edgeMidpoint_relabel (g := .right) (by decide), midlineX]
  · rw [midlineY, edgeMidpoint_relabel (g := .top) (by decide),
      edgeMidpoint_relabel (g := .bottom) (by decide), sub_eq_scale_sub, midlineY]

theorem midlines_swapXY (V : Quad ℝ) : (V.relabel swapXY).midlineX = V.midlineY ∧
    (V.relabel swapXY).midlineY = V.midlineX := by
  constructor
  · rw [midlineX, edgeMidpoint_relabel (g := .bottom) (by decide),
      edgeMidpoint_relabel (g := .top) (by decide), midlineY]
  · rw [midlineY, edgeMidpoint_relabel (g := .left) (by decide),
      edgeMidpoint_relabel (g := .right) (by decide), midlineX]

theorem abs_midlineSine_generator (generator : s = flipX ∨ s = flipY ∨ s = swapXY) (V : Quad ℝ) :
    |(V.relabel s).midlineSine| = |V.midlineSine| := by
  obtain rfl | rfl | rfl := generator
  · obtain ⟨x, y⟩ := midlines_flipX V
    refine abs_midlineSine_congr one_pos ?_ ?_ <;> simp only [x, y, dot, scale] <;> ring
  · obtain ⟨x, y⟩ := midlines_flipY V
    refine abs_midlineSine_congr one_pos ?_ ?_ <;> simp only [x, y, dot, scale] <;> ring
  · obtain ⟨x, y⟩ := midlines_swapXY V
    refine abs_midlineSine_congr one_pos ?_ ?_ <;> simp only [x, y, dot] <;> ring

theorem abs_midlineSine_relabel (generated : s ∈ relabellings) (V : Quad ℝ) :
    |(V.relabel s).midlineSine| = |V.midlineSine| := by
  induction generated using Subgroup.closure_induction generalizing V with
  | mem s generator => exact abs_midlineSine_generator generator V
  | one => rfl
  | mul s t _ _ first second => exact (second (V.relabel s)).trans (first V)
  | inv s _ ih =>
    have back : (V.relabel s⁻¹).relabel s = V := by
      funext k
      exact congrArg V (s.symm_apply_apply k)
    rw [← ih (V.relabel s⁻¹), back]

/-- What a function is at the midpoint of an edge moves with the edge. -/
theorem hasMidpointValues_relabel {N : ShapeTable ℝ} (preserves : PreservesFaces s)
    (values : N.HasMidpointValues V) :
    ShapeTable.HasMidpointValues (V.relabel s) fun k => N (s k) := by
  intro k f
  obtain ⟨g, corners⟩ := preserves f
  rw [edgeMidpoint_relabel corners, values (s k) g]
  simp only [corners k]

end Labels

/-- A cell is refused for the angle between its midlines: when the determinant is small against
the product of their lengths, or zero as the area of the outline is. The same cells are refused
after a similarity of the plane, and after each of the eight relabellings that keep the edges. -/
theorem isRefused_by_angle (V : Quad ℝ) (tol : Tolerances ℝ) (rtol? : Option ℝ)
    (nonneg : 0 ≤ rtol?.getD tol.degeneracy) :
    let threshold := rtol?.getD tol.degeneracy
    let refused (W : Quad ℝ) := W.IsRefused (tol.map .number) (rtol?.map .number)
    (refused V ↔ |V.midlineDeterminant| ≤ threshold * V.midlineX.norm * V.midlineY.norm) ∧
      (threshold = 0 → (refused V ↔ shoelace V.outline = 0)) ∧
      (∀ g, IsSimilarity g → (refused (fun k => g (V k)) ↔ refused V)) ∧
      Fintype.card {s // PreservesFaces s} = 8 ∧
      ∀ s, PreservesFaces s → (refused (V.relabel s) ↔ refused V) := by
  intro threshold refused
  have angle : refused V ↔
      |V.midlineDeterminant| ≤ threshold * V.midlineX.norm * V.midlineY.norm :=
    isRefused_iff_determinant nonneg
  refine ⟨angle, fun exactly => ?_, fun g similar => ?_, card_preservesFaces, fun s preserves => ?_⟩
  · rw [angle, exactly, zero_mul, zero_mul, abs_nonpos_iff, midlineDeterminant_eq_shoelace]
  · exact isRefused_congr (abs_midlineSine_similar similar V)
  · exact isRefused_congr (abs_midlineSine_relabel (mem_relabellings_iff.mpr preserves) V)

/-- A reflection that makes everything larger: sides of a unit square become as long as its
diagonals. -/
def enlarged : PlaneMap := ⟨⟨1, -1⟩, ⟨1, 1⟩, ⟨1, -1⟩⟩

/-- The midlines of this cell are of one length and the sine of their angle is 8 / 17. -/
theorem isRefused_by_angle_arrowhead :
    let refused (W : Quad ℝ) :=
      W.IsRefused ((⟨0, 0, 0⟩ : Tolerances ℝ).map .number) (some (.number (1 / 2)))
    refused arrowhead ∧ refused (enlarged.image arrowhead) ∧
      refused (arrowhead.relabel (flipX * swapXY)) ∧
      ¬arrowhead.IsRefused ((⟨0, 0, 0⟩ : Tolerances ℝ).map .number) (some (.number 0)) := by
  intro refused
  obtain ⟨angle, -, similar, -, labels⟩ :=
    isRefused_by_angle arrowhead ⟨0, 0, 0⟩ (some (1 / 2)) (by norm_num)
  obtain ⟨-, area, -⟩ := isRefused_by_angle arrowhead ⟨0, 0, 0⟩ (some 0) le_rfl
  have lengths : dot arrowhead.midlineX arrowhead.midlineX *
      dot arrowhead.midlineY arrowhead.midlineY = (17 / 8) ^ 2 := by
    rw [dot_midlineX_self, dot_midlineY_self]
    norm_num [squaredDistance, dot, arrowhead, of]
  have scale : arrowhead.midlineX.norm * arrowhead.midlineY.norm = 17 / 8 := by
    rw [← midlineScale, midlineScale_eq_sqrt, lengths, Real.sqrt_sq (by norm_num)]
  have small : refused arrowhead := by
    refine angle.mpr ?_
    rw [midlineDeterminant_arrowhead, mul_assoc, scale]
    norm_num
  have enlarges : IsSimilarity enlarged.apply := by
    apply PlaneMap.isSimilarity_apply <;> norm_num [dot, enlarged]
  refine ⟨small, (similar _ enlarges).mpr small, (labels _ (by decide)).mpr small, ?_⟩
  intro flat
  have zero := (area rfl).mp flat
  rw [← midlineDeterminant_eq_shoelace, midlineDeterminant_arrowhead] at zero
  exact one_ne_zero zero

/-- There are eight relabellings that keep the edges. The solver accepts a relabelled cell as soon
as it accepts the cell, and row `k` of its solution is row `s k` of that for the cell. Where a
threshold below zero admits every cell, the determinant must not vanish: the coefficients are
quotients by it. -/
theorem shapeTable_relabelled (tol : Tolerances ℝ) (rtol? : Option ℝ) :
    Nat.card relabellings = 8 ∧ ∀ s ∈ relabellings, ∀ (V : Quad ℝ) (N : ShapeTable ℝ),
      0 ≤ rtol?.getD tol.degeneracy ∨ V.midlineDeterminant ≠ 0 →
      (V.shapeTable (tol.map .number) (rtol?.map .number)).outcome = .ok N →
      ((V.relabel s).shapeTable (tol.map .number) (rtol?.map .number)).outcome =
        .ok fun k => N (s k) := by
  refine ⟨card_relabellings, fun s generated V N defined solved => ?_⟩
  have independent : V.midlineDeterminant ≠ 0 :=
    defined.elim (fun nonneg => IsAccepted.midlineDeterminant_ne_zero nonneg ⟨N, solved⟩) id
  obtain ⟨regular, rfl⟩ := outcome_eq_ok_iff.mp solved
  have same : |(V.relabel s).midlineSine| = |V.midlineSine| := abs_midlineSine_relabel generated V
  have independent_relabelled : (V.relabel s).midlineDeterminant ≠ 0 := by
    rwa [midlineDeterminant_ne_zero_iff, same, ← midlineDeterminant_ne_zero_iff]
  have values := hasMidpointValues_relabel (mem_relabellings_iff.mp generated)
    (coefficients_hasMidpointValues independent)
  exact outcome_eq_ok_iff.mpr ⟨same.symm ▸ regular, values.unique independent_relabelled
    (coefficients_hasMidpointValues independent_relabelled)⟩

/-- The cell with its labels turned by a quarter. -/
theorem shapeTable_relabelled_arrowhead :
    ∃ N, (arrowhead.shapeTable ⟨.number 0, .number 0, .number 0⟩ none).outcome = .ok N ∧
      ((arrowhead.relabel (flipX * swapXY)).shapeTable
        ⟨.number 0, .number 0, .number 0⟩ none).outcome = .ok fun k => N ((flipX * swapXY) k) := by
  obtain ⟨N, solved⟩ := isAccepted_arrowhead
  obtain ⟨-, rows⟩ := shapeTable_relabelled ⟨0, 0, 0⟩ none
  have generated : flipX * swapXY ∈ relabellings := mem_relabellings_iff.mpr (by decide)
  exact ⟨N, solved, rows _ generated arrowhead N (.inl le_rfl) solved⟩

end Quad
end NonconformingQuad
end
