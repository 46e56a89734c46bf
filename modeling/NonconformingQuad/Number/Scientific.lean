import NonconformingQuad.Number.Dyadic

/-! Scientific notation with a fixed number of places: one digit, a point, the places,
and an exponent of two digits or more. The exact value of the double is rounded once,
a tie to the even digit. -/
namespace NonconformingQuad.Number

/-- Digits of `n`, filled up with zeros on the left to `width`. -/
def padded (width n : Nat) : String :=
  let s := String.ofList (Nat.toDigits 10 n)
  String.ofList (List.replicate (width - s.length) '0') ++ s

/-- Exponent with its sign and at least two digits. -/
def exponentText (e : Int) : String :=
  (if e < 0 then "e-" else "e+") ++ padded 2 e.natAbs

/-- The integer of `places + 1` digits and the decimal exponent that stand for the positive
quotient `num / den`. -/
def significantDigits (places num den : Nat) : Nat × Int :=
  let k := decimalExponent num den
  let shift := (places : Int) - k
  let n := roundDiv (num * pow10 shift.toNat) (den * pow10 (-shift).toNat)
  if n = pow10 (places + 1) then (pow10 places, k + 1) else (n, k)

/-- A double in scientific notation; `nan`, `inf` and `-inf` stand for themselves. -/
def scientific (places : Nat) (x : Float) : String :=
  match Parts.ofFloat x with
  | .undefined => "nan"
  | .infinite negative => if negative then "-inf" else "inf"
  | .finite negative m e =>
    let (n, k) := if m = 0 then (0, 0) else
      let (num, den) := ratio m e
      significantDigits places num den
    let digits := padded (places + 1) n
    let head := String.ofList (digits.toList.take 1)
    let tail := String.ofList (digits.toList.drop 1)
    (if negative then "-" else "") ++ head ++ (if places = 0 then "" else "." ++ tail) ++
      exponentText k

end NonconformingQuad.Number
