import NonconformingQuad.Number.Fingerprint
import NonconformingQuad.Run

/-! Layouts of elements: how many degrees of freedom sit on each vertex, each line and the
interior of a quadrilateral, and what identifies an element. -/
namespace NonconformingQuad

inductive Conformity where
  | l2 | h1
deriving DecidableEq, Repr

namespace Conformity

def name : Conformity → String
  | l2 => "L2"
  | h1 => "H1"

def ofName? {K : Type} (s : String) : Except (Fault K) Conformity :=
  if s = "L2" then .ok l2 else if s = "H1" then .ok h1 else .error (.misuse .unknownConformity)

end Conformity

structure ElementData where
  /-- Degrees of freedom on each vertex, each line and the interior. -/
  dofs : List Int
  components : Int
  degree : Int
  conformity : Conformity
deriving DecidableEq, Repr

namespace ElementData

variable {K : Type}

def dof (d : ElementData) (i : Nat) : Except (Fault K) Int :=
  match d.dofs[i]? with
  | some n => .ok n
  | none => .error (.misuse .outOfRange)

def perVertex (d : ElementData) : Except (Fault K) Int := d.dof 0

def perLine (d : ElementData) : Except (Fault K) Int := d.dof 1

def perInterior (d : ElementData) : Except (Fault K) Int := d.dof 2

def perFace (d : ElementData) : Except (Fault K) Int := do
  return 2 * (← d.perVertex) + (← d.perLine)

def perCell (d : ElementData) : Except (Fault K) Int := do
  return 4 * (← d.perVertex) + 4 * (← d.perLine) + (← d.perInterior)

/-- Degrees of freedom that refining a face creates, and those on the coarse face. -/
def constraintsSize (d : ElementData) : Except (Fault K) (Int × Int) := do
  return ((← d.perVertex) + 2 * (← d.perLine), ← d.perFace)

end ElementData

structure Layout where
  family : String
  name : String
  data : ElementData

namespace Layout

variable {K : Type}

/-- Elements are the same when name and data agree, whatever their family. -/
def same (a b : Layout) : Bool := a.name == b.name && a.data == b.data

def render (e : Layout) : Except (Fault K) String := do
  return "<" ++ e.family ++ " '" ++ e.name ++ "', dofs_per_object=" ++ Fault.tuple e.data.dofs ++
    ", dofs_per_cell=" ++ toString (← e.data.perCell) ++ ">"

def fingerprint (e : Layout) : String × List Int × Int × Int × Conformity :=
  (e.name, e.data.dofs.map Number.fingerprint, Number.fingerprint e.data.components,
    Number.fingerprint e.data.degree, e.data.conformity)

end Layout

inductive Candidate where
  | element (e : Layout)
  | other (v : Literal)
  | compound

namespace Candidate

/-- Equality: elements by name and data, values by value. -/
def same : Candidate → Candidate → Bool
  | element a, element b => a.same b
  | other v, other w => v.same w
  | _, _ => false

/-- Agreement of fingerprints of plain values. The empty text has that of zero. -/
def sameLiteralFingerprint (v w : Literal) : Bool :=
  let number (v : Literal) : Option Number.Parts :=
    match v with
    | .text "" => some (.ofInt 0)
    | v => v.number?
  match number v, number w with
  | some p, some q => p.fingerprint?.isSome && p.fingerprint? == q.fingerprint?
  | _, _ => v.same w

def sameFingerprint : Candidate → Candidate → Bool
  | element a, element b => a.fingerprint == b.fingerprint
  | other v, other w => sameLiteralFingerprint v w
  | _, _ => false

/-- Refuses values that have no fingerprint. -/
def checkFingerprint {K : Type} : Candidate → Except (Fault K) Unit
  | compound => .error (.misuse .noFingerprint)
  | _ => .ok ()

end Candidate
end NonconformingQuad
