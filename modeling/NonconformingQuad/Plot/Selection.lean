import NonconformingQuad.Geometry.Corner
import NonconformingQuad.Literal
import NonconformingQuad.Fault
import NonconformingQuad.Tensor.Index
import NonconformingQuad.Tensor.Nested

/-! Selections of shape functions. As a rule a selection is the number of one function; lists of
numbers select several, and truth values tell for each function whether it is selected. -/
namespace NonconformingQuad.Plot

abbrev Selection := Nested Literal

namespace Selection

def single (k : Corner) : Selection := .number (.int k.number)

/-- The corner of a number; a negative number counts from the end. -/
def cornerAt (i : Int) : Except Misuse Corner :=
  ((Index.resolve? 4 i).bind Corner.ofIndex?).elim (.error .outOfRange) .ok

def truth? : Literal → Option Bool
  | .bool b => some b
  | _ => none

/-- The corners of a list of values: those marked as true if all values are truth values, or
else those whose numbers the values are. -/
def cornersOf (flat : Bool) (values : List Literal) : Except Misuse (List Corner) :=
  match values, values.mapM truth?, values.mapM Literal.int? with
  | [], _, _ => .ok []
  | _, some marks, _ =>
    if flat && marks.length = 4 then
      .ok ((List.zip Corner.all marks).filterMap fun (k, marked) => if marked then some k else none)
    else .error .outOfRange
  | _, _, some numbers => numbers.mapM cornerAt
  | _, _, _ => .error .outOfRange

/-- The corners whose functions are selected. A truth value, or nothing, selects all of them or
none. -/
def corners (s : Selection) : Except Misuse (List Corner) :=
  match s, s.shape? with
  | .number (.int i), _ => return [← cornerAt i]
  | .number (.bool false), _ => .ok []
  | .number (.bool true), _ | .number .none, _ => .ok Corner.all
  | .number _, _ => .error .outOfRange
  | .list _, none => .error .ragged
  | .list _, some shape => cornersOf (shape.length == 1) s.flatten

mutual
def render : Nested Literal → String
  | .number v => v.render
  | .list items => ("[" ++ String.intercalate ", " (renderAll items)) ++ "]"
def renderAll : List (Nested Literal) → List String
  | [] => []
  | item :: rest => render item :: renderAll rest
end

def plain : Selection → String
  | .number v => v.plain
  | s => render s

end Selection
end NonconformingQuad.Plot
