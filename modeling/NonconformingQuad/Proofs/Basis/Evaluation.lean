import NonconformingQuad.Basis.Evaluate
import NonconformingQuad.Element.P1
import NonconformingQuad.Proofs.Tensor.Broadcasting
import NonconformingQuad.Proofs.Tensor.Stacking

/-! Values of shape functions as a product of matrices. The slopes times the points, with the
constants added to every column, are the values that the element computes one by one. -/
namespace NonconformingQuad.Affine
open Tensor Index
variable {K : Type} [Scalar K]

theorem columns?_slopes (N : ShapeTable K) :
    N.toTensor.columns? 0 2 = some (tabulate [4, 2] fun is =>
      (N (.ofIndex (is.getD 0 0))).coefficient (is.getD 1 0)) := by
  simp only [columns?, ShapeTable.toTensor, shape_tabulate, Nat.min_eq_left (show 2 ≤ 3 by decide),
    Nat.sub_zero]
  refine congrArg some (tabulate_matrix_congr fun i j row column => ?_)
  have inside : Within [4, 3] [i, j] := ⟨row, by omega, trivial⟩
  simp only [Nat.zero_add, value_tabulate _ inside, List.getD_cons_zero, List.getD_cons_succ]

theorem columns?_constants (N : ShapeTable K) :
    N.toTensor.columns? 2 3 = some (tabulate [4, 1] fun is => (N (.ofIndex (is.getD 0 0))).c) := by
  simp only [columns?, ShapeTable.toTensor, shape_tabulate, Nat.min_self]
  refine congrArg some (tabulate_matrix_congr fun i j row column => ?_)
  obtain rfl : j = 0 := by omega
  have inside : Within [4, 3] [i, 2 + 0] := ⟨row, by decide, trivial⟩
  simp only [value_tabulate _ inside, List.getD_cons_zero, List.getD_cons_succ]
  rfl

theorem transpose_matrix {t : Tensor K} {m n : Nat} (matrix : t.shape = [m, n]) :
    t.transpose = tabulate [n, m] fun is => t.value is.reverse := by
  simp [transpose, matrix]

theorem evaluate_toTensor (N : ShapeTable K) (ps : List (Point K)) :
    evaluate N.toTensor (.ofPoints ps) = .ok (P1.valuesAt N (.ofPoints ps) ps.length) := by
  let slopes : Tensor K :=
    tabulate [4, 2] fun is => (N (.ofIndex (is.getD 0 0))).coefficient (is.getD 1 0)
  let constants : Tensor K := tabulate [4, 1] fun is => (N (.ofIndex (is.getD 0 0))).c
  let linear : Tensor K := tabulate [4, ps.length] fun is =>
    sumUpTo 2 fun l =>
      slopes.value [is.getD 0 0, l] * (ofPoints ps).transpose.value [l, is.getD 1 0]
  have transposed : (ofPoints ps).transpose = tabulate [2, ps.length] fun is =>
      (ofPoints ps).value is.reverse := transpose_matrix rfl
  have product : slopes.matmul? (ofPoints ps).transpose = some linear :=
    matmul?_matrix rfl (by rw [transposed]; rfl)
  have sum : zipWith? (· + ·) linear constants = some (tabulate [4, ps.length] fun is =>
      linear.value is + constants.value [is.getD 0 0, 0]) := zipWith?_column _ rfl rfl
  have whole : evaluate N.toTensor (.ofPoints ps) = .ok (tabulate [4, ps.length] fun is =>
      linear.value is + constants.value [is.getD 0 0, 0]) := by
    have first : N.toTensor.columns? 0 2 = some slopes := columns?_slopes N
    have last : N.toTensor.columns? 2 3 = some constants := columns?_constants N
    simp only [evaluate, pairs?_ofPoints, first, last, product, sum, Option.elim_some, bind,
      Except.bind]
  rw [whole]
  refine congrArg Except.ok (tabulate_matrix_congr fun k q row bound => ?_)
  have slope (j : Nat) (axis : j < 2) :
      slopes.value [k, j] = (N (.ofIndex k)).coefficient j :=
    value_tabulate _ (show Within [4, 2] [k, j] from ⟨row, axis, trivial⟩)
  have point (j : Nat) (axis : j < 2) :
      (ofPoints ps).transpose.value [j, q] = (ofPoints ps).value [q, j] := by
    rw [transposed]
    exact value_tabulate _ (show Within [2, ps.length] [j, q] from ⟨axis, bound, trivial⟩)
  have entry : linear.value [k, q] =
      slopes.value [k, 0] * (ofPoints ps).transpose.value [0, q] +
        slopes.value [k, 1] * (ofPoints ps).transpose.value [1, q] :=
    value_tabulate _ (show Within [4, ps.length] [k, q] from ⟨row, bound, trivial⟩)
  have constant : constants.value [k, 0] = (N (.ofIndex k)).c :=
    value_tabulate _ (show Within [4, 1] [k, 0] from ⟨row, by decide, trivial⟩)
  rw [entry, slope 0 (by decide), slope 1 (by decide), point 0 (by decide), point 1 (by decide),
    List.getD_cons_zero, constant]
  rfl

end NonconformingQuad.Affine
