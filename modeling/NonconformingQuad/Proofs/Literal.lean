import NonconformingQuad.Number.Integral

/-! Integers among the plain values. They are compared as numbers, with no rounding. -/
namespace NonconformingQuad

namespace Literal

theorem signedRatio_int (i : Int) : Number.signedRatio (decide (i < 0)) i.natAbs 0 = (i, 1) := by
  simp only [Number.signedRatio, Number.ratio, Number.pow2, Int.toNat_zero, Int.neg_zero,
    Nat.pow_eq, Nat.pow_zero, Nat.mul_one, Prod.mk.injEq, and_true]
  split
  · next negative =>
    have below : i < 0 := of_decide_eq_true negative
    omega
  · next nonnegative =>
    have above : ¬i < 0 := fun below => nonnegative (decide_eq_true below)
    omega

theorem atMost_int (i j : Int) : (Literal.int i).atMost (.int j) = .ok (decide (i ≤ j)) := by
  simp only [atMost, number?, int?, Number.Parts.ofInt, Number.Parts.atMost, signedRatio_int,
    Int.natCast_one, Int.mul_one]

theorem same_int (i j : Int) : (Literal.int i).same (.int j) = decide (i = j) := by
  simp only [same, number?, int?, Number.Parts.ofInt, Number.Parts.sameValue, Number.ratio,
    Number.pow2, Int.toNat_zero, Int.neg_zero, Nat.pow_eq, Nat.pow_zero, Nat.mul_one]
  -- the sign counts only where the magnitude is not zero
  rw [Bool.eq_iff_iff]
  simp only [Bool.and_eq_true, Bool.or_eq_true, beq_iff_eq, decide_eq_true_eq, decide_eq_decide]
  omega

end Literal

end NonconformingQuad
