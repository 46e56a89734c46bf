import Mathlib.Analysis.SpecialFunctions.Log.Basic
import Mathlib.Data.List.Forall2
import NonconformingQuad.Plot.ShapeContours
import NonconformingQuad.Proofs.Basis.Acceptance
import NonconformingQuad.Proofs.Basis.Evaluation
import NonconformingQuad.Proofs.Element.Filling
import NonconformingQuad.Proofs.Geometry.BilinearMap
import NonconformingQuad.Proofs.Plot.SampleGrid
import NonconformingQuad.Proofs.Plot.Surface
import NonconformingQuad.Proofs.Tensor.Room

/-! What a contour drawing shows. Axes and functions are paired up, and each pair has a panel of its
own: one contour call over the samples of the cell, with the values of the one function that was
asked for, and the closed outline of the cell. The values take the same way through lists and
squares as the coordinates do, so each of them stands at its own point. A surface may refuse any of
the calls; what it has to carry out for a drawing to be finished is a property of its own. -/
noncomputable section
namespace NonconformingQuad
open Scalar

namespace Plot

namespace Call
variable {K : Type}

def isContour (c : Call K) : Bool := c.method == "contourf"

end Call

namespace ShapeContours
open Tensor Index
variable {K : Type} [Scalar K] {n : Nat}

end ShapeContours

namespace Surface
open ShapeContours

/-- What a contour drawing asks of a surface on which some labels belong to axes: a row of as many
axes as are wanted, contours at the given levels over squares of `n` samples a side with a scale of
colours beside them, lines, dots, crosses, titles, equal scales in both directions, and a window. A
surface may be particular about `n` and refuse contours over too few samples. -/
structure SupportsContours {K ε : Type} [Scalar K] (s : Surface K ε) (isAxes : String → Prop)
    (levels : Argument K) (n : Nat) : Prop where
  row : ∀ before count, 0 < count → ∃ labels,
    s.answerRow before (newRow count (4 * count) 4) = .ok labels ∧ labels.length = count ∧
      ∀ axes ∈ labels, isAxes axes
  contours : ∀ before axes (grid : SampleGrid K) (Z : Tensor K), isAxes axes →
    grid.x.shape = [n, n] → grid.y.shape = [n, n] → Z.shape = [n, n] →
      s.Answers before (contours grid levels axes Z)
  colorScale : ∀ before c made axes, isAxes axes → c.isContour →
    s.answer before c = .ok made → s.Answers (before ++ [c]) (colorScale made axes)
  line : ∀ before axes ps, isAxes axes → s.Answers before (line axes ps)
  dots : ∀ before axes ps, isAxes axes → s.Answers before (dots axes ps)
  cross : ∀ before axes p, isAxes axes → s.Answers before (cross axes p)
  heading : ∀ before axes text, isAxes axes → s.Answers before (heading axes text)
  aspect : ∀ before axes, isAxes axes → s.Answers before (equalAspect axes)
  window : ∀ before, s.Answers before openWindow

variable {K ε : Type} [Scalar K] {s : Surface K ε} {isAxes : String → Prop} {levels : Argument K}
  {n : Nat}

theorem SupportsContours.trimmings (supports : s.SupportsContours isAxes levels n)
    {axes : String} (known : isAxes axes) (V : Quad K) (selection : Selection) :
    ∀ c ∈ trimmings V axes selection, ∀ before, s.Answers before c := by
  simp only [ShapeContours.trimmings, List.forall_mem_cons, List.not_mem_nil, false_implies,
    implies_true, and_true]
  exact ⟨fun before => supports.line before axes _ known,
    fun before => supports.dots before axes _ known,
    fun before => supports.cross before axes _ known,
    fun before => supports.heading before axes _ known,
    fun before => supports.aspect before axes known⟩

theorem SupportsContours.closing (supports : s.SupportsContours isAxes levels n) (shown : Bool) :
    ∀ c ∈ showing shown, ∀ before, s.Answers before c := by
  intro c member before
  rw [showing] at member
  split at member
  · obtain rfl := List.mem_singleton.mp member
    exact supports.window before
  · cases member

end Surface

namespace ShapeContours
open Tensor Index
variable {K ε : Type} [Scalar K] {s : Surface K ε} {isAxes : String → Prop}
  {levels : Argument K} {n : Nat} {willing : Prop}

end ShapeContours
end Plot
end NonconformingQuad
end
