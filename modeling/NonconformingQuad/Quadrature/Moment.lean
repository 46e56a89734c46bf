import NonconformingQuad.Number.Integral
import NonconformingQuad.Quadrature.Rule

/-! Weighted sums of monomials. Exponents may be negative, and they may have fractions. A power
that leaves the range of doubles, or divides by zero, is refused at once; a sum with a power
that is no real number is refused when all its powers have been taken. -/
namespace NonconformingQuad.Rule

/-- Power of a double. A negative number raised to a fraction has no real power; its magnitude
may still be out of range. An infinite base or exponent never is. -/
def power? (x : Float) (exponent : Literal) : Except Misuse (Option Float) := do
  let e ← exponent.toFloat
  let finite := x.isFinite && e.isFinite
  if finite && x == 0.0 && e < 0.0 then throw .divisionByZero
  let real := !(finite && x < 0.0 && e != e.floor)
  let y := (if real then x else -x).pow e
  if finite && y.isInf then throw .overflow
  return if real then some y else none

/-- The weighted value of a monomial at a point, if it is a real number. -/
def term? (i j : Literal) (p : RulePoint Float) : Except Misuse (Option Float) := do
  let x? ← power? p.point.x i
  let y? ← power? p.point.y j
  return do return p.weight * (← x?) * (← y?)

/-- Weighted sum of the values of the monomial `x ^ i * y ^ j`, point by point. -/
def moment? (r : Rule Float) (i j : Literal) : Except Misuse Float := do
  let terms ← r.mapM (term? i j)
  match terms.mapM id with
  | some values => return Scalar.sum values
  | none => throw .notReal

end NonconformingQuad.Rule
