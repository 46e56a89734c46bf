import NonconformingQuad.Tensor.Broadcast

/-! Products of arrays as matrices. The last two axes are those of the matrices, axes before
them count matrices; a vector is a row on the left and a column on the right. -/
namespace NonconformingQuad.Tensor

open Index

variable {K : Type} [Scalar K]

/-- Sum of `n` terms in order. -/
def sumUpTo (n : Nat) (f : Nat → K) : K :=
  match n with
  | 0 => 0
  | n + 1 => (List.range n).foldl (fun s k => s + f (k + 1)) (f 0)

/-- Lengths of the stack, of the rows and of the columns of an array as matrices. -/
def splitMatrix? (shape : List Nat) : Option (List Nat × Nat × Nat) :=
  match shape.reverse with
  | columns :: rows :: stack => some (stack.reverse, rows, columns)
  | _ => none

/-- Product of arrays with two axes or more, if the inner lengths agree. -/
def product? (a b : Tensor K) : Option (Tensor K) := do
  let (stackA, m, k) ← splitMatrix? a.shape
  let (stackB, k', n) ← splitMatrix? b.shape
  if k = k' then
    let stack ← commonShape? stackA stackB
    let d := stack.length
    return tabulate (stack ++ [m, n]) fun is =>
      let i := is.getD d 0
      let j := is.getD (d + 1) 0
      sumUpTo k fun l =>
        a.value (project stackA (is.take d) ++ [i, l]) *
          b.value (project stackB (is.take d) ++ [l, j])
  else none

def asRow (t : Tensor K) : Tensor K := if t.rank = 1 then t.leadingAxis else t

def asColumn (t : Tensor K) : Tensor K :=
  match t.shape with
  | [n] => tabulate [n, 1] fun is => t.value (is.take 1)
  | _ => t

/-- Matrix product; axes that only stood in for a vector are dropped again. -/
def matmul? (a b : Tensor K) : Option (Tensor K) := do
  let c ← product? a.asRow b.asColumn
  let columns := if b.rank = 1 then [] else c.shape.drop (c.rank - 1)
  let rows := if a.rank = 1 then [] else (c.shape.drop (c.rank - 2)).take 1
  c.reshape? (c.shape.take (c.rank - 2) ++ rows ++ columns)

end NonconformingQuad.Tensor
