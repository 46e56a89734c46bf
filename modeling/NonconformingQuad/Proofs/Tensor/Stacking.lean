import NonconformingQuad.Proofs.Tensor.Reading

/-! Stacks of arrays and the lists that they are made from. A stack lists its arrays one after the
other, so what was stacked can be read back in groups of one length. -/
namespace NonconformingQuad

namespace Tensor
open Index
variable {K : Type}

variable [Scalar K]

/-- A stack has the entries of its arrays, one array after the other. -/
theorem entries_stack {shape : List Nat} {ts : List (Tensor K)}
    (shapes : ∀ t ∈ ts, t.shape = shape) :
    (stack shape ts.toArray).entries.toList = ts.flatMap fun t => t.entries.toList := by
  have uniform : ∀ t ∈ ts, t.entries.toList.length = volume shape := by
    intro t member
    rw [Array.length_toList, t.size_entries, shapes t member]
  have size : (ts.flatMap fun t => t.entries.toList).length = ts.length * volume shape := by
    rw [List.length_flatMap, List.map_congr_left uniform, List.map_const', List.sum_replicate_nat]
  let joined : Tensor K :=
    { shape := ts.length :: shape
      entries := (ts.flatMap fun t => t.entries.toList).toArray
      size_entries := by rw [List.size_toArray, size, volume] }
  suffices same : joined = stack shape ts.toArray by
    rw [← same]
  refine eq_tabulate (congrArg (· :: shape) List.size_toArray.symm) ?_
  intro is within
  cases is with
  | nil => exact within.elim
  | cons i rest =>
    obtain ⟨bound, inside⟩ := within
    rw [List.size_toArray] at bound
    have read : (ts[i].entries.toList)[place shape rest]? = ts[i].get? rest := by
      rw [get?, shapes _ (List.getElem_mem bound), if_pos inside, Array.getElem?_toList]
    have found : joined.get? (i :: rest) = ts[i].get? rest := by
      have listed : Within joined.shape (i :: rest) := ⟨bound, inside⟩
      rw [get?, if_pos listed, ← read]
      change (ts.flatMap fun t => t.entries.toList).toArray[
        i * volume shape + place shape rest]? = _
      rw [List.getElem?_toArray, getElem?_flatMap_uniform uniform (place_lt inside),
        List.getElem?_eq_getElem bound]
      rfl
    simp only [value, found, List.getElem?_toArray, List.getElem?_eq_getElem bound,
      Option.map_some, Option.getD_some]

theorem value_stack {shape is : List Nat} {ts : List (Tensor K)} {i : Nat} (bound : i < ts.length)
    (inside : Within shape is) : (stack shape ts.toArray).value (i :: is) = ts[i].value is := by
  have within : Within (ts.toArray.size :: shape) (i :: is) := ⟨by simpa using bound, inside⟩
  rw [stack, value_tabulate _ within]
  simp only [List.getElem?_toArray, List.getElem?_eq_getElem bound, Option.map_some,
    Option.getD_some]

theorem sub?_stack {shape : List Nat} {ts : List (Tensor K)} {i : Nat}
    (shapes : ∀ t ∈ ts, t.shape = shape) (bound : i < ts.length) :
    (stack shape ts.toArray).sub? [(i : Int)] = some ts[i] := by
  have part : ts[i] = tabulate shape fun is => (stack shape ts.toArray).value (i :: is) :=
    eq_tabulate (shapes _ (List.getElem_mem bound)) fun is inside => (value_stack bound inside).symm
  rw [part]
  exact sub?_singleton rfl (by simpa using bound)

omit [Scalar K] in
theorem shape_of_mem_map {n : Nat} {pss : List (List (Point K))}
    (lengths : ∀ ps ∈ pss, ps.length = n) : ∀ t ∈ pss.map ofPoints, t.shape = [n, 2] := by
  intro t member
  obtain ⟨ps, inside, rfl⟩ := List.mem_map.mp member
  exact congrArg (· :: [2]) (lengths ps inside)

theorem toPoints_stack {n : Nat} {pss : List (List (Point K))}
    (lengths : ∀ ps ∈ pss, ps.length = n) :
    (stack [n, 2] (pss.map ofPoints).toArray).toPoints = pss.flatten := by
  have coordinates : (stack [n, 2] (pss.map ofPoints).toArray).entries.toList =
      (ofPoints pss.flatten).entries.toList := by
    rw [entries_stack (shape_of_mem_map lengths), List.flatMap_map]
    simp only [ofPoints, List.toList_toArray]
    rw [← List.flatMap_id, List.flatMap_assoc]
    rfl
  rw [toPoints, coordinates]
  exact toPoints_ofPoints pss.flatten

omit [Scalar K] in
theorem pairs?_ofPoints (ps : List (Point K)) : (ofPoints ps).pairs? = some (ofPoints ps) := by
  have rows : (ofPoints ps).entries.size / 2 = ps.length := by
    rw [(ofPoints ps).size_entries]
    exact Nat.mul_div_cancel ps.length Nat.two_pos
  rw [pairs?, rows]
  exact reshape?_self (ofPoints ps)

end Tensor
end NonconformingQuad
