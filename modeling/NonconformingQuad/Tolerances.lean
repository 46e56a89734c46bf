import NonconformingQuad.Bound

/-! Tolerances of the geometry, and their values read from environment variables. -/
namespace NonconformingQuad

/-- Thresholds on the sine of the angle between the midlines, and on coordinates. -/
structure Tolerances (T : Type) where
  /-- A cell is degenerate when the sine is at or below this value. -/
  degeneracy : T
  /-- A cell that is not degenerate is reported when the sine is at or below this value. -/
  warning : T
  /-- Distance up to which coordinates count as equal. -/
  point : T

namespace Tolerances

def map {T U : Type} (f : T → U) (tol : Tolerances T) : Tolerances U :=
  ⟨f tol.degeneracy, f tol.warning, f tol.point⟩

/-- The thresholds that hold unless others are set. -/
def standard : Tolerances Float := ⟨1e-12, 1e-8, 1e-12⟩

/-- Magnitude of one number against another, both by their exact values. -/
def magnitudeAtMost (x bound : Literal) : Except Misuse Bool :=
  match x.number?, bound.number? with
  | some p, some q => .ok (p.magnitude.atMost q)
  | _, _ => .error .notAnInteger

/-- The sine is degenerate, and nearly degenerate. Sine and thresholds are taken by their
exact values, whatever their form. -/
def judge (tol : Tolerances Literal) (sine : Literal) (threshold? : Option Literal) :
    Except Misuse (Bool × Bool) := do
  let degenerate ← magnitudeAtMost sine (threshold?.getD tol.degeneracy)
  let near ← magnitudeAtMost sine tol.warning
  return (degenerate, near)

structure Variables where
  degeneracy : String
  warning : String
  point : String

/-- The number in a variable; a blank or missing one leaves the default. -/
def readVariable (environment : List (String × String)) (name : String) (default : Float) :
    Except (Fault Float) Float :=
  let raw := ((environment.lookup name).map String.toList).getD []
  match Text.strip raw with
  | [] => .ok default
  | text =>
    match Number.read? text with
    | some x => .ok x
    | none => .error (.notANumber name (String.ofList text))

/-- The standard thresholds, overridden by environment variables; the first one that is not
a number is reported. -/
def ofEnvironment (names : Variables) (environment : List (String × String)) :
    Except (Fault Float) (Tolerances Float) := do
  let degeneracy ← readVariable environment names.degeneracy standard.degeneracy
  let warning ← readVariable environment names.warning standard.warning
  let point ← readVariable environment names.point standard.point
  return ⟨degeneracy, warning, point⟩

end Tolerances
end NonconformingQuad
