import NonconformingQuad.Proofs.Literal
import NonconformingQuad.Quadrature.Rule

/-! Integers as numbers of faces and halves, and as orders of rules. An integer in range is the
number of exactly one face or half; every other integer is refused, by a check and by a search
alike. -/
namespace NonconformingQuad

theorem Literal.isBelow_int (n : Nat) (i : Int) :
    (Literal.int i).isBelow n = .ok (decide (0 ≤ i ∧ i < n)) := by
  simp only [Literal.isBelow, Literal.atMost_int, bind, Except.bind, pure, Except.pure]
  congr 1
  rw [Bool.eq_iff_iff]
  simp

namespace Face
variable {K : Type} {i : Int}

def InRange (i : Int) : Prop := 0 ≤ i ∧ i < all.length

instance : Decidable (InRange i) := inferInstanceAs (Decidable (_ ∧ _))

theorem exists_number (inside : InRange i) : ∃ f : Face, i = f.number := by
  obtain ⟨low, high⟩ := inside
  have cases : i = 0 ∨ i = 1 ∨ i = 2 ∨ i = 3 := by
    simp only [all, List.length_cons, List.length_nil] at high
    omega
  obtain rfl | rfl | rfl | rfl := cases
  · exact ⟨left, rfl⟩
  · exact ⟨right, rfl⟩
  · exact ⟨bottom, rfl⟩
  · exact ⟨top, rfl⟩

theorem inRange_number (f : Face) : InRange f.number := by
  cases f <;> decide

theorem check_int (i : Int) :
    check (K := K) (.int i) = if InRange i then .ok () else .error (.faceNumber (.int i)) := by
  have below : (Literal.int i).isBelow all.length = .ok (decide (InRange i)) :=
    Literal.isBelow_int all.length i
  rw [check, below]
  by_cases inside : InRange i
  · rw [decide_eq_true inside, if_pos inside]
    rfl
  · rw [decide_eq_false inside, if_neg inside]
    rfl

theorem ofRow_of_not_inRange (outside : ¬InRange i) :
    ofRow (K := K) (.int i) = .error (.faceNumber (.int i)) := by
  rw [ofRow, check_int, if_neg outside]
  rfl

theorem matching_of_not_inRange (outside : ¬InRange i) :
    matching (K := K) (.int i) = .error (.faceNumber (.int i)) := by
  have missing : (all.find? fun f => (Literal.int f.number).same (.int i)) = none := by
    rw [List.find?_eq_none]
    intro f _ same
    rw [Literal.same_int, decide_eq_true_eq] at same
    exact outside (same ▸ inRange_number f)
  rw [matching, missing]

end Face

namespace Half
variable {K : Type} {i : Int}

def InRange (i : Int) : Prop := 0 ≤ i ∧ i < all.length

instance : Decidable (InRange i) := inferInstanceAs (Decidable (_ ∧ _))

theorem exists_number (inside : InRange i) : ∃ h : Half, i = h.number := by
  obtain ⟨low, high⟩ := inside
  have cases : i = 0 ∨ i = 1 := by
    simp only [all, List.length_cons, List.length_nil] at high
    omega
  obtain rfl | rfl := cases
  · exact ⟨lower, rfl⟩
  · exact ⟨upper, rfl⟩

theorem check_int (i : Int) :
    check (K := K) (.int i) = if InRange i then .ok () else .error (.halfNumber (.int i)) := by
  have below : (Literal.int i).isBelow all.length = .ok (decide (InRange i)) :=
    Literal.isBelow_int all.length i
  rw [check, below]
  by_cases inside : InRange i
  · rw [decide_eq_true inside, if_pos inside]
    rfl
  · rw [decide_eq_false inside, if_neg inside]
    rfl

theorem ofNumber_of_not_inRange (outside : ¬InRange i) :
    ofNumber (K := K) (.int i) = .error (.halfNumber (.int i)) := by
  rw [ofNumber, check_int, if_neg outside]
  rfl

end Half

theorem LineRule.ofOrder?_int {K : Type} {gauss : LineFamily K} {n : Nat} {r : LineRule K}
    (positive : 1 ≤ n) (found : gauss n = .ok r) : ofOrder? gauss (.int n) = .ok r := by
  have order : order? (K := K) (.int n) = .ok n := by
    have enough : ¬(n : Int) < 1 := by omega
    simp only [order?, Literal.int?, if_neg enough, Int.toNat_natCast]
  rw [ofOrder?, order]
  change (gauss n).mapError Fault.misuse = _
  rw [found]
  rfl

namespace Rule
variable {K : Type} [Scalar K] {gauss : LineFamily K} {r : LineRule K} {order : Literal}

theorem length_square (r : LineRule K) : (square r).length = r.length * r.length := by
  simp [square, List.length_flatMap, List.map_const']

theorem square_ne_nil (pointed : r ≠ []) : square r ≠ [] := by
  have positive := List.length_pos_iff.mpr pointed
  rw [← List.length_pos_iff, length_square]
  exact Nat.mul_pos positive positive

theorem length_onFace (f : Face) (r : LineRule K) : (onFace f r).length = r.length :=
  List.length_map _

theorem length_onHalf (h : Half) (r : LineRule K) : (r.onHalf h).length = r.length :=
  List.length_map _

theorem square?_eq_ok (line : LineRule.ofOrder? gauss order = .ok r) :
    square? gauss order = .ok (square r) := by
  rw [square?, line]
  rfl

theorem face?_number (line : LineRule.ofOrder? gauss order = .ok r) (f : Face) :
    face? gauss (.int f.number) order = .ok (onFace f r) := by
  rw [face?, line, Face.matching_number]
  rfl

theorem half?_number (line : LineRule.ofOrder? gauss order = .ok r) (f : Face) (h : Half) :
    half? gauss (.int f.number) (.int h.number) order = .ok (onFace f (r.onHalf h)) := by
  rw [half?, line, Face.matching_number, Half.ofNumber_number]
  rfl

end Rule
end NonconformingQuad
