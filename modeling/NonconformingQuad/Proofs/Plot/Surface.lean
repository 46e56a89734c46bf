import Mathlib.Data.List.Forall2
import NonconformingQuad.Plot.Surface
import NonconformingQuad.Proofs.Outcome

/-! What a sketch comes to on a surface that may refuse calls. It goes along a plan of calls. Either
all of them are made, or the surface refuses one, and then the calls that have been made are the
first ones of the plan, up to the refused one. -/
namespace NonconformingQuad.Plot

variable {K ε α β : Type} {s : Surface K ε} {willing : Prop} {before plan : List (Call K)}

namespace Surface

/-- The surface carries out a call after other calls. -/
def Answers (s : Surface K ε) (before : List (Call K)) (c : Call K) : Prop :=
  ∃ made, s.answer before c = .ok made

def Refuses (s : Surface K ε) (before : List (Call K)) (c : Call K) (reason : ε) : Prop :=
  s.answer before c = .error reason ∨ s.answerRow before c = .error reason

end Surface

namespace Session

end Session

namespace Sketch

variable {x : Sketch K ε α} {f : α → Sketch K ε β} {a : α} {b : β}

end Sketch

namespace Surface
variable {c : Call K} {cs : List (Call K)}

end Surface
end NonconformingQuad.Plot
