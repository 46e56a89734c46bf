import Mathlib.Algebra.Group.Subgroup.Lattice
import Mathlib.Data.Fintype.Perm
import NonconformingQuad.Proofs.Basis.MidpointValues

/-! Relabellings of the vertices. Each cell of a mesh lists its vertices from a corner and in a
direction of its own; what cells agree on is which vertices have an edge between them. The
relabellings that keep the edges are the eight symmetries of the reference square, made of three
of them, and they take midpoints of edges to midpoints of edges. -/
namespace NonconformingQuad

namespace Corner

instance : Fintype Corner := ⟨⟨all, by decide⟩, mem_all⟩

instance : Fintype Face := ⟨⟨Face.all, by decide⟩, Face.mem_all⟩

/-- The corners of every face are taken to the corners of a face. -/
def PreservesFaces (s : Equiv.Perm Corner) : Prop :=
  ∀ f : Face, ∃ g : Face, ∀ k, g.HasCorner (s k) ↔ f.HasCorner k

instance (s : Equiv.Perm Corner) : Decidable (PreservesFaces s) :=
  inferInstanceAs (Decidable (∀ f : Face, ∃ g : Face, ∀ k, g.HasCorner (s k) ↔ f.HasCorner k))

/-- The first reference coordinate is turned round. -/
def flipX : Equiv.Perm Corner := .swap bottomLeft bottomRight * .swap topLeft topRight

/-- The second reference coordinate is turned round. -/
def flipY : Equiv.Perm Corner := .swap bottomLeft topLeft * .swap bottomRight topRight

/-- The reference coordinates change places. -/
def swapXY : Equiv.Perm Corner := .swap bottomRight topLeft

def relabellings : Subgroup (Equiv.Perm Corner) := .closure {flipX, flipY, swapXY}

theorem mul_preservesFaces {s t : Equiv.Perm Corner} (first : PreservesFaces s)
    (second : PreservesFaces t) : PreservesFaces (s * t) := by
  intro f
  obtain ⟨g, corners⟩ := second f
  obtain ⟨h, further⟩ := first g
  exact ⟨h, fun k => (further (t k)).trans (corners k)⟩

theorem inv_preservesFaces : ∀ s, PreservesFaces s → PreservesFaces s⁻¹ := by
  decide

theorem exists_product : ∀ s, PreservesFaces s →
    ∃ i j k : Fin 2, s = flipX ^ i.val * flipY ^ j.val * swapXY ^ k.val := by
  decide

theorem mem_relabellings_iff {s : Equiv.Perm Corner} : s ∈ relabellings ↔ PreservesFaces s := by
  constructor
  · intro generated
    induction generated using Subgroup.closure_induction with
    | mem s generator => obtain rfl | rfl | rfl := generator <;> decide
    | one => decide
    | mul s t _ _ first second => exact mul_preservesFaces first second
    | inv s _ ih => exact inv_preservesFaces s ih
  · intro preserves
    obtain ⟨i, j, k, rfl⟩ := exists_product s preserves
    have generator {g} (listed : g ∈ ({flipX, flipY, swapXY} : Set (Equiv.Perm Corner))) (n : Nat) :
        g ^ n ∈ relabellings := pow_mem (Subgroup.subset_closure listed) n
    exact mul_mem (mul_mem (generator (.inl rfl) _) (generator (.inr (.inl rfl)) _))
      (generator (.inr (.inr rfl)) _)

theorem card_preservesFaces : Fintype.card {s // PreservesFaces s} = 8 := by
  decide

theorem card_relabellings : Nat.card relabellings = 8 := by
  rw [← card_preservesFaces, ← Nat.card_eq_fintype_card]
  exact Nat.card_congr (Equiv.subtypeEquivRight fun _ => mem_relabellings_iff)

end Corner

namespace Face
variable {s : Equiv.Perm Corner} {f g : Face}

theorem ends_of_hasCorner (corners : ∀ k, g.HasCorner (s k) ↔ f.HasCorner k) :
    s f.first = g.first ∧ s f.second = g.second ∨ s f.first = g.second ∧ s f.second = g.first := by
  have different : s f.first ≠ s f.second := fun same =>
    f.first_lt_second.ne (congrArg Corner.number (s.injective same))
  have first : g.HasCorner (s f.first) := (corners f.first).mpr (.inl rfl)
  have second : g.HasCorner (s f.second) := (corners f.second).mpr (.inr rfl)
  rcases first with first | first <;> rcases second with second | second
  · exact absurd (first.trans second.symm) different
  · exact .inl ⟨first, second⟩
  · exact .inr ⟨first, second⟩
  · exact absurd (first.trans second.symm) different

end Face

namespace Quad
variable {s : Equiv.Perm Corner} {V : Quad ℝ}

/-- The cell with vertex `s k` in place of vertex `k`. -/
def relabel {K : Type} (s : Equiv.Perm Corner) (V : Quad K) : Quad K := fun k => V (s k)

theorem edgeMidpoint_relabel {f g : Face} (corners : ∀ k, g.HasCorner (s k) ↔ f.HasCorner k) :
    (V.relabel s).edgeMidpoint f = V.edgeMidpoint g := by
  obtain ⟨first, second⟩ | ⟨first, second⟩ := Face.ends_of_hasCorner corners
  · simp only [edgeMidpoint, relabel, first, second]
  · simp only [edgeMidpoint, relabel, first, second]
    exact Point.midpoint_comm _ _

end Quad
end NonconformingQuad
