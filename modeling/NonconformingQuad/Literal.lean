import NonconformingQuad.Number.Shortest
import NonconformingQuad.Text.Quoted

/-! Plain values that a caller may hand over where a number or a flag is expected. They
appear in messages as they are written, and are compared as numbers where they are numbers. -/
namespace NonconformingQuad

/-- A plain value. -/
inductive Literal where
  | none
  | bool (b : Bool)
  | int (i : Int)
  | float (x : Float)
  | text (s : String)

namespace Literal

open Number

def render : Literal → String
  | .none => "None"
  | .bool true => "True"
  | .bool false => "False"
  | .int i => toString i
  | .float x => shortest x
  | .text s => Text.quoted s

/-- The value as a message shows it on its own, a text without its quotes. -/
def plain : Literal → String
  | .text s => s
  | v => v.render

/-- The integer that a value stands for; true counts as one and false as zero. -/
def int? : Literal → Option Int
  | .bool b => some (if b then 1 else 0)
  | .int i => some i
  | _ => Option.none

/-- The exact number that a value stands for. -/
def number? (v : Literal) : Option Parts :=
  match v, v.int? with
  | _, some i => some (.ofInt i)
  | .float x, _ => some (.ofFloat x)
  | _, _ => Option.none

/-- Equality of values: numbers by their exact value, whatever their form. -/
def same (v w : Literal) : Bool :=
  match v.number?, w.number? with
  | some p, some q => p.sameValue q
  | some _, Option.none | Option.none, some _ => false
  | Option.none, Option.none =>
    match v, w with
    | .none, .none => true
    | .text s, .text t => s == t
    | _, _ => false

end Literal
end NonconformingQuad
