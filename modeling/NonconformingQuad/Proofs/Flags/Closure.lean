import NonconformingQuad.Element.P1

/-! What a closure adds to a request. The single pass over the table asks the request itself,
so a quantity is in the result when it was requested or is needed for one that was. -/
namespace NonconformingQuad

@[simp] theorem UpdateFlags.has_empty (q : Quantity) : empty.has q = false := Nat.zero_testBit _

theorem FlagClosure.testBit_foldl (ds : List Dependency) (f out : UpdateFlags) (n : Nat) :
    (ds.foldl (fun out d => if f.has d.key then out.union d.needs else out) out).bits.testBit n =
      (out.bits.testBit n || ds.any fun d => f.has d.key && d.needs.bits.testBit n) := by
  induction ds generalizing out with
  | nil => simp
  | cons d rest ih =>
    rw [List.foldl_cons, ih, List.any_cons]
    cases f.has d.key <;> simp [UpdateFlags.union, Bool.or_assoc]

theorem FlagClosure.has_apply (c : FlagClosure) (f : UpdateFlags) (q : Quantity) :
    (c.apply f).has q = (f.has q || c.dependencies.any fun d => f.has d.key && d.needs.has q) :=
  testBit_foldl c.dependencies f f q.index

namespace P1

/-- A quantity is in the closure of the element when it is requested, or with one that is. -/
theorem has_resolve (f : UpdateFlags) (q : Quantity) :
    (resolve f).has q = (f.has q || (q == .points && f.has .values) ||
      (q == .weights && f.has .normals)) := by
  rw [resolve, FlagClosure.has_apply]
  cases q <;> simp [closure, UpdateFlags.ofList, UpdateFlags.only_has, Bool.beq_eq_decide_eq]

theorem has_resolve_of_has {f : UpdateFlags} {q : Quantity} (requested : f.has q) :
    (resolve f).has q := by
  simp [has_resolve, requested]

theorem has_points_of_has_values {f : UpdateFlags} (asked : (resolve f).has .values) :
    (resolve f).has .points := by
  have requested : f.has .values := by simpa [has_resolve, Bool.beq_eq_decide_eq] using asked
  simp [has_resolve, requested, Bool.beq_eq_decide_eq]

theorem has_weights_of_has_normals {f : UpdateFlags} (asked : (resolve f).has .normals) :
    (resolve f).has .weights := by
  have requested : f.has .normals := by simpa [has_resolve, Bool.beq_eq_decide_eq] using asked
  simp [has_resolve, requested, Bool.beq_eq_decide_eq]

theorem has_resolve_resolve (f : UpdateFlags) (q : Quantity) :
    (resolve (resolve f)).has q = (resolve f).has q := by
  cases q <;> simp [has_resolve, Bool.beq_eq_decide_eq]

end P1
end NonconformingQuad
