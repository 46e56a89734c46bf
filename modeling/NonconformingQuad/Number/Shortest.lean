import NonconformingQuad.Number.Scientific

/-! The fewest decimal digits that read back as the same double. For one digit, two
digits and so on, the two neighbours of the value on that decimal grid are tried; the
first grid with a hit wins, and of two hits the nearer one. -/
namespace NonconformingQuad.Number

/-- Candidate on the grid `10 ^ g` for the value `4 * m` in units of `2 ^ (e - 2)`, if one of
the two neighbours lies between `4 * m - below` and `4 * m + 2`. The ends belong to the
interval exactly when the significand is even. -/
def gridHit (m : Nat) (e : Int) (below : Nat) (g : Int) : Option Nat :=
  let a := pow2 (e - 2).toNat * pow10 (-g).toNat
  let b := pow2 (2 - e).toNat * pow10 g.toNat
  let value := 4 * m * a
  let low := (4 * m - below) * a
  let high := (4 * m + 2) * a
  let hit (c : Nat) : Bool :=
    if m % 2 = 0 then low ≤ c * b && c * b ≤ high else low < c * b && c * b < high
  let c := value / b
  match hit c, hit (c + 1) with
  | true, true =>
    let gapLow := value - c * b
    let gapHigh := (c + 1) * b - value
    some (if gapLow < gapHigh then c else if gapHigh < gapLow then c + 1 else c + c % 2)
  | true, false => some c
  | false, true => some (c + 1)
  | false, false => none

/-- Tries grids from `digits` significant digits on; seventeen always suffice. -/
def shortestFrom (m : Nat) (e : Int) (below : Nat) (k : Int) (digits : Nat) : Nat → Nat × Int
  | 0 => (0, 0)
  | fuel + 1 =>
    let g := k - digits + 1
    match gridHit m e below g with
    | some c => (c, g)
    | none => shortestFrom m e below k (digits + 1) fuel

/-- Digits and exponent of the last digit of the shortest decimal for `m * 2 ^ e`, `m ≠ 0`.
Below a power of two the spacing of doubles is halved, except at the least normal one. -/
def shortestDigits (m : Nat) (e : Int) : Nat × Int :=
  let (num, den) := ratio m e
  let below := if m = leadingBit ∧ leastExponent < e then 1 else 2
  shortestFrom m e below (decimalExponent num den) 1 17

/-- Decimal notation: positional from `10 ^ (-4)` up to, but without, `10 ^ 16`, scientific
elsewhere. A positional text always shows a point and a digit on either side of it. -/
def layout (c : Nat) (g : Int) : String :=
  let zeros := fun (n : Nat) => String.ofList (List.replicate n '0')
  let ds := (Nat.toDigits 10 c).reverse.dropWhile (· == '0') |>.reverse
  let ds := if ds.isEmpty then ['0'] else ds
  let k : Int := g + digitCount c - 1
  let n : Int := ds.length
  if k < -4 ∨ 16 ≤ k then
    let tail := String.ofList (ds.drop 1)
    String.ofList (ds.take 1) ++ (if tail.isEmpty then "" else "." ++ tail) ++ exponentText k
  else if k < 0 then "0." ++ zeros (-k - 1).toNat ++ String.ofList ds
  else if n ≤ k + 1 then String.ofList ds ++ zeros (k + 1 - n).toNat ++ ".0"
  else
    String.ofList (ds.take (k + 1).toNat) ++ "." ++ String.ofList (ds.drop (k + 1).toNat)

def shortest (x : Float) : String :=
  match Parts.ofFloat x with
  | .undefined => "nan"
  | .infinite negative => if negative then "-inf" else "inf"
  | .finite negative m e =>
    let (c, g) := if m = 0 then (0, 0) else shortestDigits m e
    (if negative then "-" else "") ++ layout c g

end NonconformingQuad.Number
