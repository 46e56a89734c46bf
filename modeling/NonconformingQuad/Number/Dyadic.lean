/-! A double as an exact number: a sign, a natural significand and a power of two.
All number text is computed from these parts, so it never meets a rounded operation. -/
namespace NonconformingQuad.Number

inductive Parts where
  | undefined
  | infinite (negative : Bool)
  /-- The value `± significand * 2 ^ exponent`. -/
  | finite (negative : Bool) (significand : Nat) (exponent : Int)
deriving Repr, DecidableEq

def pow2 (k : Nat) : Nat := Nat.pow 2 k

def pow10 (k : Nat) : Nat := Nat.pow 10 k

/-- Significand of the least normal double, and of every power of two among normal doubles. -/
def leadingBit : Nat := pow2 52

/-- Exponent of the subnormal doubles and of the least normal ones. -/
def leastExponent : Int := -1074

/-- Fields of the bit pattern: a sign bit, eleven exponent bits, 52 fraction bits. -/
def Parts.ofBits (bits : UInt64) : Parts :=
  let n := bits.toNat
  let negative := n / pow2 63 == 1
  let exponent := n / leadingBit % 2048
  let fraction := n % leadingBit
  if exponent = 2047 then (if fraction = 0 then .infinite negative else .undefined)
  else if exponent = 0 then .finite negative fraction leastExponent
  else .finite negative (leadingBit + fraction) (exponent - 1 + leastExponent)

/-- The exact value of a double. -/
def Parts.ofFloat (x : Float) : Parts := .ofBits x.toBits

def ratio (m : Nat) (e : Int) : Nat × Nat := (m * pow2 e.toNat, pow2 (-e).toNat)

def Parts.ofInt (i : Int) : Parts := .finite (i < 0) i.natAbs 0

/-- Sign and ratio of a finite number agree. The two zeros are one number; the undefined
number equals none. -/
def Parts.sameValue : Parts → Parts → Bool
  | .infinite s, .infinite t => s == t
  | .finite s m e, .finite t n f =>
    let (a, b) := ratio m e
    let (c, d) := ratio n f
    a * d == c * b && (s == t || m == 0)
  | _, _ => false

def Parts.magnitude : Parts → Parts
  | .undefined => .undefined
  | .infinite _ => .infinite false
  | .finite _ m e => .finite false m e

def signedRatio (negative : Bool) (m : Nat) (e : Int) : Int × Nat :=
  let (num, den) := ratio m e
  (if negative then -(num : Int) else num, den)

/-- The first number is at most the second; of the undefined number this is never true. -/
def Parts.atMost : Parts → Parts → Bool
  | .undefined, _ | _, .undefined => false
  | .infinite true, _ | _, .infinite false => true
  | .infinite false, _ | _, .infinite true => false
  | .finite s m e, .finite t n f =>
    let (a, b) := signedRatio s m e
    let (c, d) := signedRatio t n f
    a * d ≤ c * b

/-- A finite number cut to the integer next to it on the side of zero. -/
def Parts.truncate? : Parts → Option Int
  | .finite negative m e =>
    let (num, den) := ratio m e
    let n : Int := (num / den : Nat)
    some (if negative then -n else n)
  | _ => none

/-- The quotient `num / den` rounded to the nearest natural number, a tie to the even one. -/
def roundDiv (num den : Nat) : Nat :=
  let q := num / den
  let r := 2 * (num % den)
  if r < den then q else if den < r then q + 1 else q + q % 2

/-- Number of decimal digits, one for zero. -/
def digitCount (n : Nat) : Nat := (Nat.toDigits 10 n).length

/-- `k` with `10 ^ k ≤ num / den < 10 ^ (k + 1)`, for a positive quotient. With `d` the
difference of the digit counts of the two numbers it is `d` or `d - 1`. -/
def decimalExponent (num den : Nat) : Int :=
  let d : Int := (digitCount num : Int) - digitCount den
  if den * pow10 d.toNat ≤ num * pow10 (-d).toNat then d else d - 1

end NonconformingQuad.Number
