import NonconformingQuad.Tensor.Points
import NonconformingQuad.Tensor.Product

/-! Reading arrays that are made from lists, points and products. Each lemma gives the entries
of one construction, so that later proofs read an array without looking at places. -/
namespace NonconformingQuad.Tensor
open Index
variable {K : Type}

theorem tabulate_congr {shape : List Nat} {f g : List Nat → K}
    (same : ∀ is, Within shape is → f is = g is) : tabulate shape f = tabulate shape g := by
  have entries : (fun n : Fin (volume shape) => f (ofPlace shape n)) =
      fun n : Fin (volume shape) => g (ofPlace shape n) := by
    funext n
    exact same _ (within_ofPlace n.isLt)
  simp only [tabulate, entries]

theorem eq_of_within_one {is : List Nat} (within : Within [1] is) : is = [0] := by
  rcases is with _ | ⟨i, _ | _⟩
  · exact within.elim
  · rw [Nat.lt_one_iff.mp within.1]
  · exact within.2.elim

theorem exists_of_within_two {m n : Nat} {is : List Nat} (within : Within [m, n] is) :
    ∃ i j, is = [i, j] ∧ i < m ∧ j < n := by
  rcases is with _ | ⟨i, _ | ⟨j, _ | _⟩⟩
  · exact within.elim
  · exact within.2.elim
  · exact ⟨i, j, rfl, within.1, within.2.1⟩
  · exact within.2.2.elim

/-- Matrices are the same when they have the same rows and columns. -/
theorem tabulate_matrix_congr {m n : Nat} {f g : List Nat → K}
    (same : ∀ i j, i < m → j < n → f [i, j] = g [i, j]) :
    tabulate [m, n] f = tabulate [m, n] g := by
  refine tabulate_congr fun is within => ?_
  obtain ⟨i, j, rfl, row, column⟩ := exists_of_within_two within
  exact same i j row column

theorem exists_of_within_three {l m n : Nat} {is : List Nat} (within : Within [l, m, n] is) :
    ∃ i j k, is = [i, j, k] ∧ i < l ∧ j < m ∧ k < n := by
  rcases is with _ | ⟨i, rest⟩
  · exact within.elim
  · obtain ⟨j, k, rfl, second, third⟩ := exists_of_within_two within.2
    exact ⟨i, j, k, rfl, within.1, second, third⟩

/-- An axis of length one changes no place. -/
theorem reshape?_tabulate_one (shape : List Nat) (f : List Nat → K) :
    (tabulate (1 :: shape) f).reshape? shape = some (tabulate shape fun is => f (0 :: is)) := by
  have size : volume (tabulate (1 :: shape) f).shape = volume shape := Nat.one_mul _
  rw [reshape?, dif_pos size]
  congr 1
  apply Tensor.ext
  · rfl
  · apply Array.ext
    · simpa only [tabulate, Array.size_ofFn] using size
    · intro n first second
      have bound : n < volume shape := by simpa only [tabulate, Array.size_ofFn] using second
      simp only [tabulate, Array.getElem_ofFn, ofPlace, Nat.div_eq_of_lt bound,
        Nat.mod_eq_of_lt bound]

theorem reshape?_self (t : Tensor K) : t.reshape? t.shape = some t := dif_pos rfl

/-- Lists of one length, put one after the other, are found again at multiples of it. -/
theorem getElem?_flatMap_uniform {α β : Type} {f : α → List β} {v k : Nat} {xs : List α}
    (uniform : ∀ x ∈ xs, (f x).length = v) (bound : k < v) (i : Nat) :
    (xs.flatMap f)[i * v + k]? = xs[i]?.bind fun x => (f x)[k]? := by
  induction xs generalizing i with
  | nil => simp
  | cons x rest ih =>
    obtain ⟨length, others⟩ := List.forall_mem_cons.mp uniform
    rw [List.flatMap_cons]
    cases i with
    | zero =>
      rw [Nat.zero_mul, Nat.zero_add, List.getElem?_append_left (length.symm ▸ bound)]
      rfl
    | succ i =>
      have later : (i + 1) * v + k = (f x).length + (i * v + k) := by
        rw [length, Nat.succ_mul]
        omega
      rw [later, List.getElem?_append_right (Nat.le_add_right _ _), Nat.add_sub_cancel_left,
        ih others]
      rfl

theorem getElem?_flatMap_coordinates (ps : List (Point K)) (i : Nat) :
    (ps.flatMap fun p => [p.x, p.y])[i * 2]? = ps[i]?.map (·.x) ∧
      (ps.flatMap fun p => [p.x, p.y])[i * 2 + 1]? = ps[i]?.map (·.y) := by
  have pairs : ∀ p ∈ ps, [p.x, p.y].length = 2 := fun _ _ => rfl
  have first := getElem?_flatMap_uniform pairs Nat.two_pos i
  have second := getElem?_flatMap_uniform pairs Nat.one_lt_two i
  rw [Nat.add_zero] at first
  rw [first, second]
  cases ps[i]? with
  | none => exact ⟨rfl, rfl⟩
  | some p => exact ⟨rfl, rfl⟩

section Entries
variable [Zero K]

theorem value_ofPlace {t : Tensor K} {n : Nat} (bound : n < t.entries.size) :
    t.value (ofPlace t.shape n) = t.entries[n] := by
  have inside : n < volume t.shape := t.size_entries ▸ bound
  simp [value, get?, within_ofPlace inside, place_ofPlace inside, bound]

/-- An array is known by its shape and the values at all index lists within it. -/
theorem eq_tabulate {t : Tensor K} {shape : List Nat} {f : List Nat → K} (shaped : t.shape = shape)
    (values : ∀ is, Within shape is → t.value is = f is) : t = tabulate shape f := by
  subst shaped
  apply Tensor.ext
  · rfl
  · apply Array.ext
    · simp only [tabulate, Array.size_ofFn, t.size_entries]
    · intro n first second
      have inside : n < volume t.shape := t.size_entries ▸ first
      simp only [tabulate, Array.getElem_ofFn, ← values _ (within_ofPlace inside),
        value_ofPlace first]

theorem value_leadingAxis (t : Tensor K) (is : List Nat) :
    t.leadingAxis.value (0 :: is) = t.value is := by
  simp only [value, get?, leadingAxis, Within, place, Nat.zero_lt_one, true_and, Nat.zero_mul,
    Nat.zero_add]

theorem mapM_resolve? {axes is : List Nat} (within : Within axes is) :
    (axes.zip (is.map Int.ofNat)).mapM (fun (d, i) => resolve? d i) = some is := by
  induction axes generalizing is with
  | nil =>
    cases is with
    | nil => rfl
    | cons i rest => exact within.elim
  | cons d rest ih =>
    cases is with
    | nil => exact within.elim
    | cons i js =>
      obtain ⟨bound, inside⟩ := within
      simp [resolve?_natCast bound, ih inside]

/-- Leading indices within their axes pick a part of an array. -/
theorem sub?_of_within {t : Tensor K} (axes rest is : List Nat) (shape : t.shape = axes ++ rest)
    (within : Within axes is) :
    t.sub? (is.map Int.ofNat) = some (tabulate rest fun js => t.value (is ++ js)) := by
  have length : is.length = axes.length := within.length_eq
  have enough : ¬t.rank < (is.map Int.ofNat).length := by
    simp [rank, shape, length]
  rw [sub?, if_neg enough]
  simp only [shape, List.length_map, length, List.take_left', List.drop_left',
    mapM_resolve? within, Option.map_some]

theorem sub?_singleton {t : Tensor K} {d i : Nat} {rest : List Nat} (shape : t.shape = d :: rest)
    (bound : i < d) :
    t.sub? [(i : Int)] = some (tabulate rest fun is => t.value (i :: is)) :=
  sub?_of_within [d] rest [i] shape ⟨bound, trivial⟩

theorem value_ofList {xs : List K} {i : Nat} (bound : i < xs.length) :
    (ofList xs).value [i] = xs[i] := by
  have within : Within [xs.length] [i] := ⟨bound, trivial⟩
  simp [value, get?, ofList, within, place, volume, bound]

theorem value_replicate (shape is : List Nat) : (replicate shape (0 : K)).value is = 0 := by
  by_cases within : Within shape is
  · simp [value, get?, replicate, within, place_lt within]
  · simp [value, get?, replicate, within]

end Entries

section Products
variable [Scalar K]

theorem value_ofPoints {ps : List (Point K)} {i : Nat} (bound : i < ps.length) :
    (ofPoints ps).value [i, 0] = ps[i].x ∧ (ofPoints ps).value [i, 1] = ps[i].y := by
  obtain ⟨first, second⟩ := getElem?_flatMap_coordinates ps i
  rw [List.getElem?_eq_getElem bound, Option.map_some] at first second
  have at0 : (ofPoints ps).get? [i, 0] = some ps[i].x := by
    rw [get?, if_pos ⟨bound, by decide, trivial⟩, ← first]
    exact List.getElem?_toArray
  have at1 : (ofPoints ps).get? [i, 1] = some ps[i].y := by
    rw [get?, if_pos ⟨bound, by decide, trivial⟩, ← second]
    exact List.getElem?_toArray
  rw [value, value, at0, at1]
  exact ⟨rfl, rfl⟩

/-- The product of two matrices, whose inner axes have one length. -/
theorem product?_matrix {a b : Tensor K} {m k n : Nat} (left : a.shape = [m, k])
    (right : b.shape = [k, n]) :
    product? a b = some (tabulate [m, n] fun is =>
      sumUpTo k fun l => a.value [is.getD 0 0, l] * b.value [l, is.getD 1 0]) := by
  simp [product?, splitMatrix?, left, right, commonShape?, commonReversed?, project]

theorem matmul?_matrix {a b : Tensor K} {m k n : Nat} (left : a.shape = [m, k])
    (right : b.shape = [k, n]) :
    a.matmul? b = some (tabulate [m, n] fun is =>
      sumUpTo k fun l => a.value [is.getD 0 0, l] * b.value [l, is.getD 1 0]) := by
  have rows : a.asRow = a := by simp [asRow, rank, left]
  have columns : b.asColumn = b := by simp [asColumn, right]
  have whole : a.matmul? b = (tabulate [m, n] fun is =>
      sumUpTo k fun l => a.value [is.getD 0 0, l] * b.value [l, is.getD 1 0]).reshape? [m, n] := by
    simp [matmul?, rows, columns, product?_matrix left right, rank, left, right]
  exact whole.trans (reshape?_self _)

theorem matmul?_row {a b : Tensor K} {k n : Nat} (row : a.shape = [k]) (matrix : b.shape = [k, n]) :
    a.matmul? b =
      some (tabulate [n] fun is => sumUpTo k fun l => a.value [l] * b.value [l, is.getD 0 0]) := by
  have lead : a.asRow = a.leadingAxis := if_pos (by simp [rank, row])
  have same : b.asColumn = b := by simp [asColumn, matrix]
  have left : a.leadingAxis.shape = [1, k] := congrArg (1 :: ·) row
  have whole : a.matmul? b = (tabulate [1, n] fun is =>
      sumUpTo k fun l => a.leadingAxis.value [is.getD 0 0, l] * b.value [l, is.getD 1 0]).reshape?
        [n] := by
    simp [matmul?, lead, same, product?_matrix left matrix, rank, row, matrix]
  simp only [whole, reshape?_tabulate_one, List.getD_cons_zero, List.getD_cons_succ,
    value_leadingAxis]

theorem value_asColumn {t : Tensor K} {k : Nat} (column : t.shape = [k]) (l : Nat) :
    t.asColumn.value [l, 0] = t.value [l] := by
  have widened : t.asColumn = tabulate [k, 1] fun is => t.value (is.take 1) := by
    simp [asColumn, column]
  by_cases bound : l < k
  · rw [widened, value_tabulate _ (by simp [Within, bound])]
    rfl
  · simp [value, get?, widened, column, Within, bound]

theorem matmul?_column {a b : Tensor K} {k : Nat} (matrix : a.shape = [1, k])
    (column : b.shape = [k]) :
    a.matmul? b = some (tabulate [1] fun _ => sumUpTo k fun l => a.value [0, l] * b.value [l]) := by
  have same : a.asRow = a := by simp [asRow, rank, matrix]
  have widened : b.asColumn.shape = [k, 1] := by simp [asColumn, column]
  have whole : a.matmul? b = (tabulate [1, 1] fun is =>
      sumUpTo k fun l => a.value [is.getD 0 0, l] * b.asColumn.value [l, is.getD 1 0]).reshape?
        [1] := by
    simp [matmul?, same, product?_matrix matrix widened, rank, column, matrix]
  simp only [whole, reshape?_tabulate_one, List.getD_cons_zero, List.getD_cons_succ]
  congr 1
  apply tabulate_congr
  intro is within
  rw [eq_of_within_one within]
  simp only [List.getD_cons_zero, value_asColumn column]

end Products
end NonconformingQuad.Tensor
