import Mathlib.Order.Nat
import NonconformingQuad.Tensor.Room

/-! Room for arrays. An array fits when its lengths, its bytes and its entries are within their
bounds, so with fewer axes and no more entries it fits as well. -/
namespace NonconformingQuad.Tensor

theorem checkRoom_eq_ok_iff {shape : List Nat} :
    checkRoom shape = .ok () ↔ (∀ d ∈ shape, d < countBound) ∧
      entryBytes * extent shape < countBound ∧ Index.volume shape ≤ roomBound := by
  have countable : (shape.any (countBound ≤ ·) || countBound ≤ entryBytes * extent shape) = false ↔
      (∀ d ∈ shape, d < countBound) ∧ entryBytes * extent shape < countBound := by
    simp
  rw [checkRoom, ← and_assoc, ← countable]
  split
  · next large => simp [large]
  · next small =>
    rw [Bool.not_eq_true] at small
    split
    · next full => simp [full]
    · next room => simp [small, Nat.le_of_not_lt room]

theorem extent_cons (d : Nat) (rest : List Nat) :
    extent (d :: rest) = if 0 < d then d * extent rest else extent rest := by
  by_cases positive : 0 < d <;> simp [extent, positive, Index.volume]

/-- Fewer axes have fewer entries, empty axes left out. -/
theorem extent_le_of_sublist {small large : List Nat} (part : small.Sublist large) :
    extent small ≤ extent large := by
  induction part with
  | slnil => exact le_rfl
  | cons d part ih =>
    rw [extent_cons]
    split
    · next positive => exact ih.trans (Nat.le_mul_of_pos_left _ positive)
    · exact ih
  | cons_cons d part ih =>
    rw [extent_cons, extent_cons]
    split
    · exact Nat.mul_le_mul_left d ih
    · exact ih

theorem checkRoom_of_sublist {small large : List Nat} (part : small.Sublist large)
    (volume : Index.volume small ≤ Index.volume large) (room : checkRoom large = .ok ()) :
    checkRoom small = .ok () := by
  obtain ⟨lengths, bytes, entries⟩ := checkRoom_eq_ok_iff.mp room
  have fewer := extent_le_of_sublist part
  rw [checkRoom_eq_ok_iff]
  refine ⟨fun d inside => lengths d (part.subset inside), ?_, volume.trans entries⟩
  exact (Nat.mul_le_mul_left entryBytes fewer).trans_lt bytes

theorem checkShape_natCast (shape : List Nat) :
    checkShape (shape.map Int.ofNat) = checkRoom shape := by
  have nonneg : (shape.map Int.ofNat).any (· < 0) = false := by
    simp
  have same : (shape.map Int.ofNat).map Int.toNat = shape := by
    rw [List.map_map]
    exact List.map_id shape
  rw [checkShape, nonneg, same]
  rfl

end NonconformingQuad.Tensor
