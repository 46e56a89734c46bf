import NonconformingQuad.Fault

/-! Notices: what a computation reports while it goes on. Warnings concern the cells,
the others tell what was prepared or built. -/
namespace NonconformingQuad

inductive ContextKind where
  | cell | face | half
deriving DecidableEq, Repr

namespace ContextKind

def name : ContextKind → String
  | cell => "FEValues"
  | face => "FEFaceValues"
  | half => "FESubfaceValues"

end ContextKind

inductive Notice (K : Type) where
  | nearlyDegenerate (sine : K)
  | nearlyDegenerateCells (indices : List Nat)
  | dataPrepared (element : String) (requested resolved : UpdateFlags) (size : Int)
  | contextBuilt (kind : ContextKind) (element : String) (size : Int) (flags : UpdateFlags)
  | meshBuilt (nodes cells faces : Nat)

namespace Notice

open Number

def isWarning {K : Type} : Notice K → Bool
  | nearlyDegenerate _ | nearlyDegenerateCells _ => true
  | _ => false

def text : Notice Float → String
  | nearlyDegenerate sine =>
    "Nearly degenerate cell: sin of midline angle is " ++ scientific 3 sine
  | nearlyDegenerateCells indices =>
    toString indices.length ++ " nearly degenerate cell(s): indices " ++ Fault.indexText indices
  | dataPrepared element requested resolved size =>
    element ++ ".get_data: requested " ++ requested.render ++ ", resolved " ++ resolved.render ++
      ", n_q=" ++ toString size
  | contextBuilt kind element size flags =>
    kind.name ++ "(" ++ element ++ "): n_q=" ++ toString size ++ ", flags=" ++ flags.render
  | meshBuilt nodes cells faces =>
    "QuadMesh with " ++ toString nodes ++ " nodes, " ++ toString cells ++ " cells, " ++
      toString faces ++ " faces"

end Notice
end NonconformingQuad
