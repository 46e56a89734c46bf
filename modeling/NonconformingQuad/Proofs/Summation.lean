import Mathlib.Algebra.BigOperators.Group.List.Basic
import Mathlib.Tactic.Ring
import NonconformingQuad.Proofs.RealScalar
import NonconformingQuad.Summation

/-! Sums over the reals. Halves and running sums are another order of the same terms, so over
exact numbers a pairwise sum is the sum. -/
noncomputable section
namespace NonconformingQuad.Scalar

theorem sum_real (xs : List ℝ) : Scalar.sum xs = xs.sum :=
  List.sum_eq_foldl.symm

theorem foldl_real (xs : List ℝ) (x : ℝ) : xs.foldl (· + ·) x = x + xs.sum := by
  induction xs generalizing x with
  | nil => exact (add_zero x).symm
  | cons y rest ih => rw [List.foldl_cons, ih, List.sum_cons, add_assoc]

/-- Dealing moves terms into the running sums, whose number stays, and loses none. -/
theorem deal_real (sums xs : List ℝ) (count : sums.length = lanes) :
    (deal sums xs).1.length = lanes ∧
      (deal sums xs).1.sum + (deal sums xs).2.sum = sums.sum + xs.sum := by
  induction sums, xs using deal.induct with
  | case1 sums xs short =>
    rw [deal, dif_pos short]
    exact ⟨count, rfl⟩
  | case2 sums xs long ih =>
    have row : (xs.take lanes).length = lanes := List.length_take_of_le (not_lt.mp long)
    have length : (List.zipWith (· + ·) sums (xs.take lanes)).length = lanes := by
      rw [List.length_zipWith, count, row, Nat.min_self]
    have total : (List.zipWith (· + ·) sums (xs.take lanes)).sum =
        sums.sum + (xs.take lanes).sum := by
      rw [List.sum_add_sum_eq_sum_zipWith_add_sum_drop, count, row,
        List.drop_eq_nil_of_le count.le, List.drop_eq_nil_of_le row.le]
      simp
    obtain ⟨kept, sum⟩ := ih length
    rw [deal, dif_neg long]
    refine ⟨kept, sum.trans ?_⟩
    rw [total, add_assoc, List.sum_take_add_sum_drop]

theorem joined_real (xs : List ℝ) : joined xs = xs.sum := by
  unfold joined
  split
  · simp only [List.sum_cons, List.sum_nil]
    ring
  · exact sum_real xs

theorem blockSum_real (xs : List ℝ) : blockSum xs = xs.sum := by
  rw [blockSum]
  split
  · exact sum_real xs
  · next long =>
    have row : (xs.take lanes).length = lanes := List.length_take_of_le (not_lt.mp long)
    obtain ⟨-, sum⟩ := deal_real (xs.take lanes) (xs.drop lanes) row
    change (deal _ _).2.foldl (· + ·) (joined (deal _ _).1) = xs.sum
    rw [foldl_real, joined_real, sum, List.sum_take_add_sum_drop]

theorem pairwiseSum_real (xs : List ℝ) : pairwiseSum xs = xs.sum := by
  induction xs using pairwiseSum.induct with
  | case1 xs short =>
    rw [pairwiseSum, dif_pos short]
    exact blockSum_real xs
  | case2 xs long front back =>
    rw [pairwiseSum, dif_neg long, front, back, List.sum_take_add_sum_drop]

end NonconformingQuad.Scalar
end
