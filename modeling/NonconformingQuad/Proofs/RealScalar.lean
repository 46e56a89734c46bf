import Mathlib.Analysis.SpecialFunctions.Log.Basic
import NonconformingQuad.Scalar

/-! Exact arithmetic: the real numbers as a number system of the library. Nothing is rounded
and nothing overflows, so every number is finite. A quotient by zero is zero here, which no
computation means; statements about quotients exclude it. -/
noncomputable section
namespace NonconformingQuad.Scalar

instance instReal : Scalar ℝ where
  abs x := |x|
  sqrt := Real.sqrt
  exp := Real.exp
  log := Real.log
  isFinite _ := true
  isDivisor _ := true
  decLe _ _ := inferInstance
  decLt _ _ := inferInstance

@[simp] theorem abs_real (x : ℝ) : Scalar.abs x = |x| := rfl

@[simp] theorem sqrt_real (x : ℝ) : Scalar.sqrt x = Real.sqrt x := rfl

@[simp] theorem isFinite_real (x : ℝ) : Scalar.isFinite x = true := rfl

@[simp] theorem half_real : (half : ℝ) = 1 / 2 := by
  norm_num [half]

@[simp] theorem quarter_real : (quarter : ℝ) = 1 / 4 := by
  norm_num [quarter]

@[simp] theorem isZero_real (x : ℝ) : IsZero x ↔ x = 0 := le_antisymm_iff.symm

/-- The last value, and all of them when the spacing is zero, have formulas of their own. -/
theorem linspace_between {n : Nat} (positive : 1 ≤ n) (a b : ℝ) (i : Nat) :
    linspace a b n i = a + i * (b - a) / n := by
  have counted : (n : ℝ) ≠ 0 := Nat.cast_ne_zero.mpr (Nat.ne_of_gt positive)
  simp only [linspace, if_neg (Nat.ne_of_gt positive)]
  split
  · next last =>
    rw [last, mul_div_cancel_left₀ _ counted]
    ring
  · split
    · change (i : ℝ) / n * (b - a) + a = _
      ring
    · change (i : ℝ) * ((b - a) / n) + a = _
      ring

theorem linspace_real {n : Nat} (positive : 1 ≤ n) (w : ℝ) (i : Nat) :
    linspace 0 w n i = i * w / n := by
  rw [linspace_between positive, zero_add, sub_zero]

end NonconformingQuad.Scalar
end
