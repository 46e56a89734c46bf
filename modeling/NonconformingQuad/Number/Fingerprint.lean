import NonconformingQuad.Number.Dyadic

/-! Fingerprints of numbers: residues modulo the prime `2 ^ 61 - 1`, with the sign kept.
Numbers of equal value have equal fingerprints, whether they are integers or doubles. -/
namespace NonconformingQuad.Number

def fingerprintBits : Nat := 61

def fingerprintModulus : Nat := pow2 fingerprintBits - 1

/-- A residue with its sign. The fingerprint `-1` is not used. -/
def signedResidue (negative : Bool) (r : Nat) : Int :=
  if negative then (if r = 1 then -2 else -(r : Int)) else r

/-- Fingerprint of an exact number; an undefined one has none. A power of two has order
`fingerprintBits` modulo the modulus, so a negative exponent becomes a positive one. -/
def Parts.fingerprint? : Parts → Option Int
  | .undefined => none
  | .infinite negative => some (if negative then -314159 else 314159)
  | .finite negative m e =>
    let shift := (e % (fingerprintBits : Int)).toNat
    some (signedResidue negative (m * pow2 shift % fingerprintModulus))

def fingerprint (i : Int) : Int := signedResidue (i < 0) (i.natAbs % fingerprintModulus)

end NonconformingQuad.Number
