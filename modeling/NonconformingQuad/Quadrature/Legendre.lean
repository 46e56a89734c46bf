import NonconformingQuad.Quadrature.LineRule
import NonconformingQuad.Summation
import NonconformingQuad.Tensor.Room

/-! The Gauss rules in doubles. Their nodes are the roots of the Legendre polynomials, found
by Newton steps from a trigonometric guess. The weight of a node comes from the polynomial
before and from the derivative; then all weights are scaled to sum to two, the length of the
interval. A rule is symmetric about zero. -/
namespace NonconformingQuad.Legendre

def pi : Float := 3.141592653589793

/-- Sum of a series of Legendre polynomials, by Clenshaw's recurrence. Coefficients come with
the highest degree first. -/
def series (coefficients : List Float) (x : Float) : Float :=
  match coefficients with
  | [] => 0.0
  | [c] => c
  | first :: second :: rest =>
    let (low, high, _) := rest.foldl (fun (low, high, n) c =>
      (c - high * ((n - 1.0) / n), low + high * x * ((2.0 * n - 1.0) / n), n - 1.0))
      (second, first, Float.ofNat (rest.length + 1))
    low + high * x

def unit (n : Nat) : List Float := 1.0 :: List.replicate n 0.0

/-- Coefficients of the derivative of the polynomial of degree `n`: odd numbers and zeros in
turn. -/
def derivative (n : Nat) : List Float :=
  (List.range n).map fun k => if k % 2 = 0 then Float.ofNat (2 * (n - 1 - k) + 1) else 0.0

/-- The root of the polynomial of degree `n` next to a guess. -/
def refine (n : Nat) (guess : Float) : Nat → Float
  | 0 => guess
  | steps + 1 =>
    let x := refine n guess steps
    x - series (unit n) x / series (derivative n) x

/-- Number of Newton steps; the guess is good to several digits, and each step doubles them. -/
def newtonSteps : Nat := 8

/-- The root of number `i`, counted from the largest. -/
def root (n i : Nat) : Float :=
  let angle := pi * (Float.ofNat i + 0.75) / (Float.ofNat n + 0.5)
  refine n (Float.cos angle) newtonSteps

/-- Weight of a node of the rule of order `n`, up to a factor that is common to all nodes. -/
def rawWeight (n : Nat) (x : Float) : Float :=
  1.0 / (series (unit (n - 1)) x * series (derivative n) x)

/-- Nodes and weights of the rule of order `n`, the weights up to a common factor. -/
def rawRule (n : Nat) : LineRule Float :=
  let positive := (List.range (n / 2)).map fun i =>
    let x := root n i
    (⟨x, rawWeight n x⟩ : LinePoint Float)
  let middle := if n % 2 = 1 then [⟨0.0, rawWeight n 0.0⟩] else []
  positive.map (fun p => ⟨-p.node, p.weight⟩) ++ middle ++ positive.reverse

def normalized (r : LineRule Float) : LineRule Float :=
  let factor := 2.0 / Scalar.pairwiseSum (r.map (·.weight))
  r.map fun p => ⟨p.node, p.weight * factor⟩

/-- The largest order for which there is room: the equations for the nodes of a rule are as
many as its nodes. -/
def largestOrder : Nat := 32768

/-- The Gauss rule of order `n`. -/
def gauss : LineFamily Float := fun n =>
  if Tensor.countBound ≤ n then .error .overflow
  else if Tensor.roomBound < n then .error .noRoom
  else if largestOrder < n then .error .noRoom
  else .ok (normalized (rawRule n))

end NonconformingQuad.Legendre
