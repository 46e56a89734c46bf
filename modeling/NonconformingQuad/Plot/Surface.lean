import NonconformingQuad.Plot.Call
import NonconformingQuad.Run

/-! Plotting surfaces. A surface answers a call with the label of what it has made, or it refuses
the call. A refusal ends the drawing, but the calls before it have been made. -/
namespace NonconformingQuad.Plot

/-- What a surface answers to a call after other calls, or why it refuses it. -/
structure Surface (K ε : Type) where
  answer : List (Call K) → Call K → Except ε String
  /-- Labels of the axes, where a call makes a row of them. -/
  answerRow : List (Call K) → Call K → Except ε (List String)

/-- Why a drawing stopped. -/
inductive Stop (K ε : Type) where
  | fault (f : Fault K)
  | refused (reason : ε)

/-- What a drawing did: its calls, a refused one among them, its notices and its end. -/
structure Session (K ε α : Type) where
  calls : List (Call K)
  notices : List (Notice K)
  outcome : Except (Stop K ε) α

/-- Something to be drawn on a surface that has had other calls before. -/
def Sketch (K ε α : Type) : Type := List (Call K) → Session K ε α

namespace Sketch

variable {K ε α β : Type}

/-- A computation that makes no calls. -/
def ofRun (r : Run K α) : Sketch K ε α := fun _ => ⟨[], r.notices, r.outcome.mapError .fault⟩

def ofMisuse (outcome : Except Misuse α) : Sketch K ε α := ofRun (.ofMisuse outcome)

/-- The second sketch goes on from the calls and the value of the first. -/
def bind (x : Sketch K ε α) (f : α → Sketch K ε β) : Sketch K ε β := fun before =>
  let first := x before
  match first.outcome with
  | .error stop => ⟨first.calls, first.notices, .error stop⟩
  | .ok a =>
    let second := f a (before ++ first.calls)
    ⟨first.calls ++ second.calls, first.notices ++ second.notices, second.outcome⟩

instance instMonad : Monad (Sketch K ε) where
  pure a := fun _ => ⟨[], [], .ok a⟩
  bind := bind

end Sketch

namespace Surface

variable {K ε : Type}

def ask (s : Surface K ε) (c : Call K) : Sketch K ε String := fun before =>
  ⟨[c], [], (s.answer before c).mapError .refused⟩

def askRow (s : Surface K ε) (c : Call K) : Sketch K ε (List String) := fun before =>
  ⟨[c], [], (s.answerRow before c).mapError .refused⟩

/-- Calls whose answers do not matter. -/
def askAll (s : Surface K ε) : List (Call K) → Sketch K ε Unit
  | [] => pure ()
  | c :: rest => do
    let _ ← s.ask c
    s.askAll rest

def labelsOfRow (n : Nat) : List String := (List.range n).map fun i => "ax" ++ toString i

/-- A surface that draws nothing and refuses nothing. -/
def recorder : Surface K Empty where
  answer _ c :=
    match c.method with
    | "subplots" => .ok "ax"
    | "PolyCollection" => .ok "poly"
    | method => .ok method
  answerRow _ c :=
    match c.positional with
    | [_, .literal (.int n)] => .ok (labelsOfRow n.toNat)
    | _ => .ok []

end Surface

/-- The drawing that the recorder gets. -/
def Sketch.record {K α : Type} (x : Sketch K Empty α) : Run K (Drawing K α) :=
  let session := x []
  match session.outcome with
  | .ok a => ⟨session.notices, .ok ⟨session.calls, a⟩⟩
  | .error (.fault f) => ⟨session.notices, .error f⟩

end NonconformingQuad.Plot
