/-! Index lists of rectangular arrays. The last index runs fastest, so the place of an
entry and its index list determine each other. -/
namespace NonconformingQuad.Index

def volume : List Nat → Nat
  | [] => 1
  | d :: ds => d * volume ds

/-- There is one index for each length, and below it. -/
def Within : List Nat → List Nat → Prop
  | [], [] => True
  | d :: ds, i :: is => i < d ∧ Within ds is
  | _, _ => False

instance decidableWithin : ∀ shape is : List Nat, Decidable (Within shape is)
  | [], [] => .isTrue trivial
  | _ :: ds, _ :: is =>
    have := decidableWithin ds is
    inferInstanceAs (Decidable (_ ∧ _))
  | [], _ :: _ | _ :: _, [] => .isFalse id

theorem Within.length_eq : ∀ {shape is : List Nat}, Within shape is → is.length = shape.length
  | [], [], _ => rfl
  | _ :: _, _ :: _, ⟨_, h⟩ => congrArg (· + 1) (Within.length_eq h)

def place : List Nat → List Nat → Nat
  | _ :: ds, i :: is => i * volume ds + place ds is
  | _, _ => 0

def ofPlace : List Nat → Nat → List Nat
  | [], _ => []
  | _ :: ds, n => n / volume ds :: ofPlace ds (n % volume ds)

theorem place_lt : ∀ {shape is : List Nat}, Within shape is → place shape is < volume shape
  | [], [], _ => by simp [place, volume]
  | d :: ds, i :: is, ⟨hi, his⟩ => by
    have h := place_lt his
    calc i * volume ds + place ds is < i * volume ds + volume ds := by omega
      _ = (i + 1) * volume ds := by rw [Nat.add_mul, Nat.one_mul]
      _ ≤ d * volume ds := Nat.mul_le_mul_right _ hi

theorem ofPlace_place : ∀ {shape is : List Nat}, Within shape is →
    ofPlace shape (place shape is) = is
  | [], [], _ => rfl
  | d :: ds, i :: is, ⟨_, his⟩ => by
    have h := place_lt his
    have pos : 0 < volume ds := by omega
    simp only [place, ofPlace, List.cons.injEq]
    constructor
    · rw [Nat.mul_comm, Nat.mul_add_div pos, Nat.div_eq_of_lt h, Nat.add_zero]
    · rw [Nat.mul_comm, Nat.mul_add_mod, Nat.mod_eq_of_lt h, ofPlace_place his]

theorem within_ofPlace : ∀ {shape : List Nat} {n : Nat}, n < volume shape →
    Within shape (ofPlace shape n)
  | [], _, _ => trivial
  | d :: ds, n, h => by
    have pos : 0 < volume ds := Nat.pos_of_ne_zero fun zero => by simp [volume, zero] at h
    exact ⟨Nat.div_lt_of_lt_mul (by rwa [Nat.mul_comm]), within_ofPlace (Nat.mod_lt _ pos)⟩

theorem place_ofPlace : ∀ {shape : List Nat} {n : Nat}, n < volume shape →
    place shape (ofPlace shape n) = n
  | [], n, h => by simp [volume] at h; simp [place, h]
  | d :: ds, n, h => by
    have pos : 0 < volume ds := Nat.pos_of_ne_zero fun zero => by simp [volume, zero] at h
    simp only [ofPlace, place, place_ofPlace (Nat.mod_lt n pos)]
    rw [Nat.mul_comm]
    exact Nat.div_add_mod n (volume ds)

/-- The natural number that an index stands for on an axis; a negative one counts from the
end of the axis. -/
def resolve? (length : Nat) (i : Int) : Option Nat :=
  let j := if i < 0 then i + length else i
  if 0 ≤ j ∧ j < length then some j.toNat else none

theorem resolve?_natCast {length i : Nat} (h : i < length) : resolve? length i = some i := by
  have nonneg : ¬(i : Int) < 0 := by omega
  simp [resolve?, nonneg, h]

end NonconformingQuad.Index
