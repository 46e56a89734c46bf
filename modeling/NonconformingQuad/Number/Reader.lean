import NonconformingQuad.Text.Blank
import NonconformingQuad.Text.Digit

/-! Decimal numbers in texts: an optional sign, digits of any script with a point and an
exponent, or a name of infinity or of the undefined number. A single underscore may stand
between two digits. Hexadecimal notation is not read. -/
namespace NonconformingQuad.Number

open Text

/-- The double nearest to `m * 10 ^ e`. Beyond the exponents at which every such number is
infinite, or rounds to zero, the power of ten is not formed. -/
def ofDecimal (m : Nat) (e : Int) : Float :=
  if m = 0 then 0.0
  else
    let magnitude : Int := (Nat.toDigits 10 m).length + e
    if 400 < magnitude then 1.0 / 0.0
    else if magnitude < -400 then 0.0
    else Float.ofScientific m (e < 0) e.natAbs

/-- Leading digits and the rest of the text. An underscore is passed over after a digit if
another digit follows it. -/
def takeDigits (afterDigit : Bool) : List Char → List Nat × List Char
  | [] => ([], [])
  | c :: rest =>
    match digitValue? c with
    | some d =>
      let (ds, left) := takeDigits true rest
      (d :: ds, left)
    | none =>
      if afterDigit && c == '_' then
        match takeDigits false rest with
        | ([], _) => ([], c :: rest)
        | found => found
      else ([], c :: rest)

def ofDigits (ds : List Nat) : Nat := ds.foldl (fun n d => 10 * n + d) 0

/-- A sign in front, if there is one: true for minus. -/
def takeSign : List Char → Bool × List Char
  | '+' :: rest => (false, rest)
  | '-' :: rest => (true, rest)
  | rest => (false, rest)

/-- The integer in the text: digits with an optional sign, and nothing else. -/
def readInteger? (cs : List Char) : Option Int :=
  let (negative, rest) := takeSign cs
  match takeDigits false rest with
  | (d :: ds, []) =>
    let n : Int := ofDigits (d :: ds)
    some (if negative then -n else n)
  | _ => none

/-- The exponent, which has to end the text. -/
def exponent? : List Char → Option Int
  | [] => some 0
  | c :: rest => if c = 'e' ∨ c = 'E' then readInteger? rest else none

/-- A number without a sign. -/
def unsigned? (cs : List Char) : Option Float :=
  let name := String.ofList (cs.map Char.toLower)
  if name = "inf" ∨ name = "infinity" then some (1.0 / 0.0)
  else if name = "nan" then some (0.0 / 0.0)
  else
    let (whole, rest) := takeDigits false cs
    let (fraction, rest) := match rest with
      | '.' :: after => takeDigits false after
      | _ => ([], rest)
    if whole.isEmpty && fraction.isEmpty then none
    else (exponent? rest).map fun e =>
      ofDecimal (ofDigits (whole ++ fraction)) (e - fraction.length)

def read? (cs : List Char) : Option Float :=
  let (negative, rest) := takeSign cs
  (unsigned? rest).map fun x => if negative then -x else x

end NonconformingQuad.Number
