import NonconformingQuad.Proofs.Tensor.Reading
import NonconformingQuad.Tensor.Broadcast

/-! Arrays of different shapes combined. An axis of length one repeats its only entry, so a
column and a row give a matrix; a matrix is combined with a row, or with a column, one by one. -/
namespace NonconformingQuad.Tensor
open Index
variable {K : Type} [Zero K] {a b : Tensor K} {m n : Nat}

theorem commonLength?_self (n : Nat) : commonLength? n n = some n := if_pos (.inl rfl)

theorem commonLength?_one_right (n : Nat) : commonLength? n 1 = some n := if_pos (.inr rfl)

theorem commonLength?_one_left (n : Nat) : commonLength? 1 n = some n := by
  by_cases single : n = 1
  · rw [single, commonLength?_self]
  · have other : ¬(1 = n ∨ n = 1) := by omega
    rw [commonLength?, if_neg other, if_pos rfl]

/-- Within an axis it makes no difference whether an axis of length one repeats its entry. -/
theorem project_of_within {shape is : List Nat} (within : Within shape is) :
    project shape is = is := by
  have aligned : is.length - shape.length = 0 := by
    rw [within.length_eq, Nat.sub_self]
  rw [project, aligned, List.drop_zero]
  clear aligned
  induction shape generalizing is with
  | nil =>
    cases is with
    | nil => rfl
    | cons i rest => exact within.elim
  | cons d ds ih =>
    cases is with
    | nil => exact within.elim
    | cons i rest =>
      obtain ⟨bound, inside⟩ := within
      have first : (if d = 1 then 0 else i) = i := by
        split <;> omega
      rw [List.zipWith_cons_cons, first, ih inside]

/-- A row has one entry for each column of a matrix. -/
theorem project_row (i : Nat) {j : Nat} (column : j < n) : project [1, n] [i, j] = [0, j] :=
  project_of_within (show Within [1, n] [0, j] from ⟨Nat.one_pos, column, trivial⟩)

/-- A column has one entry for each row of a matrix. -/
theorem project_column (j : Nat) {i : Nat} (row : i < m) : project [m, 1] [i, j] = [i, 0] :=
  project_of_within (show Within [m, 1] [i, 0] from ⟨row, Nat.one_pos, trivial⟩)

theorem project_matrix {i j : Nat} (row : i < m) (column : j < n) :
    project [m, n] [i, j] = [i, j] :=
  project_of_within (show Within [m, n] [i, j] from ⟨row, column, trivial⟩)

theorem commonReversed?_self (shape : List Nat) : commonReversed? shape shape = some shape := by
  induction shape with
  | nil => rfl
  | cons d rest ih => simp [commonReversed?, commonLength?_self, ih]

theorem commonShape?_self (shape : List Nat) : commonShape? shape shape = some shape := by
  simp [commonShape?, commonReversed?_self]

theorem commonShape?_scalar (shape : List Nat) : commonShape? shape [] = some shape := by
  cases reversed : shape.reverse with
  | nil => simp [commonShape?, commonReversed?, List.reverse_eq_nil_iff.mp reversed]
  | cons d rest =>
    have back : (d :: rest).reverse = shape := by
      rw [← reversed, List.reverse_reverse]
    simpa [commonShape?, commonReversed?, reversed] using back

/-- An array fills its own shape. -/
theorem extend?_self (t : Tensor K) : t.extend? t.shape = some t := by
  have whole : t = tabulate t.shape fun is => t.value (project t.shape is) :=
    eq_tabulate rfl fun is within => by rw [project_of_within within]
  rw [extend?, if_pos (commonShape?_self t.shape)]
  exact congrArg some whole.symm

/-- Zero fills every shape. -/
theorem extend?_zero (shape : List Nat) :
    (replicate [] (0 : K)).extend? shape = some (replicate shape 0) := by
  have whole : replicate shape (0 : K) =
      tabulate shape fun is => (replicate [] (0 : K)).value (project [] is) :=
    eq_tabulate rfl fun is _ => by rw [value_replicate, value_replicate]
  rw [extend?, replicate, if_pos (commonShape?_scalar shape), whole]
  rfl

/-- Arrays of one shape are combined entry by entry. -/
theorem zipWith?_vector (f : K → K → K) (left : a.shape = [n]) (right : b.shape = [n]) :
    zipWith? f a b = some (tabulate [n] fun is => f (a.value is) (b.value is)) := by
  have common : commonShape? [n] [n] = some [n] := by
    simp [commonShape?, commonReversed?, commonLength?_self]
  simp only [zipWith?, left, right, common, Option.map_some]
  refine congrArg some (tabulate_congr fun is within => ?_)
  rw [project_of_within within]

/-- A column and a row give a matrix. -/
theorem zipWith?_outer (f : K → K → K) (column : a.shape = [m, 1]) (row : b.shape = [1, n]) :
    zipWith? f a b = some (tabulate [m, n] fun is =>
      f (a.value [is.getD 0 0, 0]) (b.value [0, is.getD 1 0])) := by
  have common : commonShape? [m, 1] [1, n] = some [m, n] := by
    simp [commonShape?, commonReversed?, commonLength?_one_left, commonLength?_one_right]
  simp only [zipWith?, column, row, common, Option.map_some]
  refine congrArg some (tabulate_matrix_congr fun i j first second => ?_)
  rw [project_column j first, project_row i second]
  rfl

/-- A row is combined with every row of a matrix. -/
theorem zipWith?_row (f : K → K → K) (row : a.shape = [1, n]) (matrix : b.shape = [m, n]) :
    zipWith? f a b = some (tabulate [m, n] fun is =>
      f (a.value [0, is.getD 1 0]) (b.value is)) := by
  have common : commonShape? [1, n] [m, n] = some [m, n] := by
    simp [commonShape?, commonReversed?, commonLength?_self, commonLength?_one_left]
  simp only [zipWith?, row, matrix, common, Option.map_some]
  refine congrArg some (tabulate_matrix_congr fun i j first second => ?_)
  rw [project_row i second, project_matrix first second]
  rfl

/-- A column is combined with every column of a matrix. -/
theorem zipWith?_column (f : K → K → K) (matrix : a.shape = [m, n]) (column : b.shape = [m, 1]) :
    zipWith? f a b = some (tabulate [m, n] fun is =>
      f (a.value is) (b.value [is.getD 0 0, 0])) := by
  have common : commonShape? [m, n] [m, 1] = some [m, n] := by
    simp [commonShape?, commonReversed?, commonLength?_self, commonLength?_one_right]
  simp only [zipWith?, matrix, column, common, Option.map_some]
  refine congrArg some (tabulate_matrix_congr fun i j first second => ?_)
  rw [project_column j first, project_matrix first second]
  rfl

end NonconformingQuad.Tensor
