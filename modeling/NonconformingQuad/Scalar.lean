/-! Numbers the geometry is computed in. Every formula of the library is written
once, over `Scalar`, and runs on doubles; over the reals the same formula is
what its theorems are about. A class instance supplies operations only, no laws:
doubles obey none that would be needed. -/
namespace NonconformingQuad

/-- Arithmetic, comparison, roots and logarithms of a number system. -/
class Scalar (K : Type) extends Add K, Sub K, Mul K, Div K, Neg K, Zero K, One K, NatCast K,
    LE K, LT K where
  abs : K → K
  sqrt : K → K
  exp : K → K
  log : K → K
  /-- Neither infinite nor undefined; always true of a real number. -/
  isFinite : K → Bool
  /-- Large enough in magnitude to be divided by; always true of a real number. -/
  isDivisor : K → Bool
  decLe (a b : K) : Decidable (a ≤ b)
  decLt (a b : K) : Decidable (a < b)

instance (priority := low) Scalar.instDecidableLe {K : Type} [Scalar K] (a b : K) :
    Decidable (a ≤ b) :=
  Scalar.decLe a b

instance (priority := low) Scalar.instDecidableLt {K : Type} [Scalar K] (a b : K) :
    Decidable (a < b) :=
  Scalar.decLt a b

/-- The least positive double whose reciprocal is sure to be finite. -/
def leastNormal : Float := 2.2250738585072014e-308

instance : Scalar Float where
  zero := 0.0
  one := 1.0
  natCast := Float.ofNat
  abs := Float.abs
  sqrt := Float.sqrt
  exp := Float.exp
  log := Float.log
  isFinite := Float.isFinite
  isDivisor x := leastNormal ≤ x.abs
  decLe := Float.decLe
  decLt := Float.decLt

namespace Scalar

variable {K : Type} [Scalar K]

def half : K := 1 / Nat.cast 2

def quarter : K := 1 / Nat.cast 4

/-- Zero of either sign; an undefined number is not zero. -/
def IsZero (x : K) : Prop := x ≤ 0 ∧ 0 ≤ x

instance (x : K) : Decidable (IsZero x) := inferInstanceAs (Decidable (_ ∧ _))

/-- `1`, `-1` or `0`; an undefined number is its own sign. -/
def sign (x : K) : K :=
  if 0 < x then 1 else if x < 0 then -1 else if IsZero x then 0 else x

/-- The smaller of two numbers, undefined as soon as one of them is. -/
def lesser (a b : K) : K :=
  if a ≤ b then a else if b ≤ a then b else if a ≤ a then b else a

/-- The larger of two numbers, undefined as soon as one of them is. -/
def greater (a b : K) : K :=
  if b ≤ a then a else if a ≤ b then b else if a ≤ a then b else a

/-- Repeated product; the empty product is one whatever the base. -/
def npow (x : K) : Nat → K
  | 0 => 1
  | n + 1 => npow x n * x

/-- Sum from left to right, starting from zero. -/
def sum (xs : List K) : K := xs.foldl (· + ·) 0

/-- Value `i` of `n + 1` equally spaced values from `start` to `stop`. The last one is
`stop` itself; a spacing that underflows to zero is multiplied in after the division. -/
def linspace (start stop : K) (n i : Nat) : K :=
  let delta := stop - start
  if n = 0 then Nat.cast i * delta + start
  else if i = n then stop
  else
    let step := delta / Nat.cast n
    if IsZero step then Nat.cast i / Nat.cast n * delta + start else Nat.cast i * step + start

end Scalar
end NonconformingQuad
