import NonconformingQuad.Number.Integral
import NonconformingQuad.Scalar

/-! Bounds as they are handed over. A bound is a number as a rule, but it may be an integer
too large for a double, or no number at all; that is found when it is first compared. -/
namespace NonconformingQuad

/-- A bound as it is handed over. -/
inductive Bound (K : Type) where
  | number (x : K)
  | beyond (negative : Bool)
  | missing

namespace Bound

variable {K : Type} [Scalar K]

def ofLiteral (v : Literal) : Bound Float :=
  match v, v.toFloat, v.int? with
  | .text _, _, _ => missing
  | _, .ok x, _ => number x
  | _, .error _, some i => beyond (i < 0)
  | _, .error _, none => missing

def value : Bound K → Except Misuse K
  | number x => .ok x
  | beyond _ => .error .overflow
  | missing => .error .notAnInteger

/-- The number of a bound that is compared with all of `n` doubles; without any of them a
missing bound goes unnoticed. -/
def valueFor (n : Nat) (b : Bound K) : Except Misuse K :=
  match b with
  | missing => if n = 0 then .ok 0 else .error .notAnInteger
  | b => b.value

/-- The magnitude of a measured number is at most the bound. What cannot be measured counts
as zero; that zero is exact, so it may be compared with any integer. -/
def admits (b : Bound K) (measured? : Option K) : Except Misuse Bool :=
  match b, measured? with
  | beyond negative, none => .ok !negative
  | b, x? => b.value.map fun bound => decide (Scalar.abs (x?.getD 0) ≤ bound)

/-- The bound is above zero. -/
def isPositive : Bound K → Except Misuse Bool
  | number x => .ok (decide (0 < x))
  | beyond negative => .ok !negative
  | missing => .error .notAnInteger

@[simp] theorem admits_number (x : K) (measured? : Option K) :
    (number x).admits measured? = .ok (decide (Scalar.abs (measured?.getD 0) ≤ x)) := by
  cases measured? <;> rfl

end Bound
end NonconformingQuad
