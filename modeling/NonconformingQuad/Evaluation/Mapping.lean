import NonconformingQuad.Geometry.Bilinear
import NonconformingQuad.Geometry.Jacobian
import NonconformingQuad.Quadrature.Rule
import NonconformingQuad.Tensor.Room

/-! Geometry at the quadrature points of a cell or a face: physical points, weights that
measure area or length, and outward unit normals. Buffers are filled for the requested
quantities only. -/
namespace NonconformingQuad

structure MappingBuffers (K : Type) where
  points : List (Point K)
  weights : List K
  normals : List (Point K)

namespace MappingBuffers

variable {K : Type} [Scalar K]

/-- Buffers of zeros for `n` points, without entries for what is not requested. -/
def allocate (n : Int) (flags : UpdateFlags) (withNormals : Bool) :
    Except (Fault K) (MappingBuffers K) := do
  let size (wanted : Bool) : Int := if wanted then n else 0
  let points := size (flags.has .points)
  let weights := size (flags.has .weights)
  let normals := size (withNormals && flags.has .normals)
  ([[points, 2], [weights], [normals, 2]].forM Tensor.checkShape).mapError .misuse
  return { points := .replicate points.toNat 0
           weights := .replicate weights.toNat 0
           normals := .replicate normals.toNat 0 }

def filled (x : K) (b : MappingBuffers K) : MappingBuffers K :=
  { points := b.points.map fun _ => ⟨x, x⟩
    weights := b.weights.map fun _ => x
    normals := b.normals.map fun _ => ⟨x, x⟩ }

end MappingBuffers

/-- New entries for a buffer. A single entry is repeated; otherwise the lengths agree. -/
def assign {K α : Type} (buffer entries : List α) : Except (Fault K) (List α) :=
  if entries.length = buffer.length then .ok entries
  else match entries with
    | [x] => .ok (.replicate buffer.length x)
    | _ => .error (.misuse .shapesDiffer)

theorem length_of_assign {K α : Type} {buffer entries written : List α}
    (h : assign (K := K) buffer entries = .ok written) : written.length = buffer.length := by
  simp only [assign] at h
  split at h
  · cases h; assumption
  · split at h
    · cases h; exact List.length_replicate
    · cases h

namespace Mapping

open Scalar

variable {K : Type} [Scalar K]

def pointsOf (V : Quad K) (rule : Rule K) : List (Point K) :=
  rule.map fun p => Bilinear.mapPoint V p.point

/-- Weight of a point as a part of the area. -/
def areaWeight (V : Quad K) (p : RulePoint K) : K :=
  abs (Reference.jacobian V p.point).determinant * p.weight

/-- Derivative of the physical point along a face. -/
def tangentAt (V : Quad K) (f : Face) (p : Point K) : Point K :=
  (Reference.jacobian V p).along f.tangent

/-- Weight of a point as a part of the length of a face. -/
def lengthWeight (V : Quad K) (f : Face) (p : RulePoint K) : K :=
  (tangentAt V f p.point).norm * p.weight

/-- Outward unit normal of a face: the unit tangent turned by the side on which the face
lies and by the orientation of the cell. -/
def normalAt (V : Quad K) (f : Face) (p : Point K) : Point K :=
  let turn := f.turn * sign (Reference.jacobian V p).determinant
  let t := tangentAt V f p
  let length := t.norm
  ⟨-turn * (t.y / length), turn * (t.x / length)⟩

/-- Writes the physical points, if they are requested. -/
def fillPoints (V : Quad K) (rule : Rule K) (flags : UpdateFlags) (out : MappingBuffers K) :
    Attempt K (MappingBuffers K) :=
  if flags.has .points then
    match assign out.points (pointsOf V rule) with
    | .ok points => .done { out with points := points }
    | .error f => .stop out f
  else .done out

/-- Writes given weights, if they are requested. -/
def fillWeights (weights : List K) (flags : UpdateFlags) (out : MappingBuffers K) :
    Attempt K (MappingBuffers K) :=
  if flags.has .weights then
    match assign out.weights weights with
    | .ok weights => .done { out with weights := weights }
    | .error f => .stop out f
  else .done out

/-- Writes given normals, if they are requested and have a buffer. -/
def fillNormals (normals : List (Point K)) (flags : UpdateFlags) (out : MappingBuffers K) :
    Attempt K (MappingBuffers K) :=
  if flags.has .normals && !out.normals.isEmpty then
    match assign out.normals normals with
    | .ok normals => .done { out with normals := normals }
    | .error f => .stop out f
  else .done out

def fillFace (V : Quad K) (rule : Rule K) (flags : UpdateFlags) (number : Literal)
    (out : MappingBuffers K) : Attempt K (MappingBuffers K) :=
  match Face.ofRow number with
  | .error f => .stop out f
  | .ok f =>
    if rule.isEmpty then .stop out (.misuse .shapesDiffer)
    else (fillWeights (rule.map (lengthWeight V f)) flags out).next
      (fillNormals (rule.map fun p => normalAt V f p.point) flags)

/-- Writes the geometry of a rule on a cell, or on the face of a number. Points come first;
the face is looked at only when weights or normals are requested. -/
def fill (V : Quad K) (rule : Rule K) (flags : UpdateFlags) (face? : Option Literal)
    (out : MappingBuffers K) : Attempt K (MappingBuffers K) :=
  (fillPoints V rule flags out).next fun out =>
    if !(flags.has .weights || flags.has .normals) then .done out
    else match face? with
      | none =>
        if rule.isEmpty then .stop out (.misuse .emptyRule)
        else fillWeights (rule.map (areaWeight V)) flags out
      | some number => fillFace V rule flags number out

/-- Writes the geometry of a rule on a cell that may itself be faulty. A faulty cell goes
unnoticed when nothing is requested of it. -/
def fillOn (cell : Except (Fault K) (Quad K)) (rule : Rule K) (flags : UpdateFlags)
    (face? : Option Literal) (out : MappingBuffers K) : Attempt K (MappingBuffers K) :=
  if flags.has .points || flags.has .weights || flags.has .normals then
    match cell with
    | .ok V => fill V rule flags face? out
    | .error f => .stop out f
  else .done out

end Mapping
end NonconformingQuad
