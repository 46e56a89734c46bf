import NonconformingQuad.Fault
import NonconformingQuad.Number.Reader

/-! Plain values as numbers of a certain form: integers with the fraction cut off, integers
of 64 bits, and doubles. -/
namespace NonconformingQuad.Literal

open Number

/-- The integer that is left when the fraction is cut off. A text has to hold an integer. -/
def truncated (v : Literal) : Except Misuse Int :=
  match v, v.number? with
  | .text s, _ => (readInteger? (Text.strip s.toList)).elim (.error .unreadable) .ok
  | _, Option.none => .error .notAnInteger
  | _, some p =>
    match p, p.truncate? with
    | .undefined, _ => .error .undefinedInteger
    | _, some i => .ok i
    | _, Option.none => .error .overflow

/-- The index into an array that a value stands for. A fraction or a text is no index; a truth
value, or nothing, picks no single entry. -/
def index : Literal → Except Misuse Int
  | .int i => .ok i
  | .float _ | .text _ => .error .outOfRange
  | .bool _ | .none => .error .notASingleNumber

/-- The first value is at most the second, both taken as exact numbers. -/
def atMost (v w : Literal) : Except Misuse Bool :=
  match v.number?, w.number? with
  | some p, some q => .ok (p.atMost q)
  | _, _ => .error .notAnInteger

def fits64 (i : Int) : Bool := -9223372036854775808 ≤ i && i ≤ 9223372036854775807

def truncated64 (v : Literal) : Except Misuse Int := do
  let i ← v.truncated
  if fits64 i then return i else throw .overflow

/-- The nearest double. A text has to hold a number. -/
def toFloat (v : Literal) : Except Misuse Float :=
  match v, v.int? with
  | .float x, _ => .ok x
  | .text s, _ => (read? (Text.strip s.toList)).elim (.error .unreadable) .ok
  | _, some n =>
    let x := ofDecimal n.natAbs 0
    if x.isFinite then .ok (if n < 0 then -x else x) else .error .overflow
  | _, Option.none => .error .notAnInteger

/-- The double that an entry of an array stands for; a missing one is undefined. -/
def toEntry (v : Literal) : Except Misuse Float :=
  match v with
  | .none => .ok (0.0 / 0.0)
  | v => v.toFloat

end NonconformingQuad.Literal
