import NonconformingQuad.Scalar

/-! Pairwise sums. A long list is summed in two halves, a list of moderate length by eight
running sums side by side, and a short one from left to right. Over an exact number system
every order of summation gives the same number; over doubles the halves keep the rounding
errors small, and the order decides what is left when large terms cancel. -/
namespace NonconformingQuad.Scalar

variable {K : Type} [Scalar K]

def lanes : Nat := 8

/-- Longest list that is not summed in halves. -/
def blockLength : Nat := 128

/-- The running sums after a list has been dealt out to them, with the items that are too few
for another round. -/
def deal (sums xs : List K) : List K × List K :=
  if _ : xs.length < lanes then (sums, xs)
  else deal (List.zipWith (· + ·) sums (xs.take lanes)) (xs.drop lanes)
termination_by xs.length
decreasing_by
  rename_i h
  simp only [List.length_drop, lanes] at h ⊢
  omega

/-- Sum of the running sums: neighbours first, then neighbouring pairs, then the halves. -/
def joined : List K → K
  | [a, b, c, d, e, f, g, h] => (a + b + (c + d)) + (e + f + (g + h))
  | xs => sum xs

/-- Sum of a list by running sums; what they leave is added at the end. -/
def blockSum (xs : List K) : K :=
  if xs.length < lanes then sum xs
  else
    let (sums, rest) := deal (xs.take lanes) (xs.drop lanes)
    rest.foldl (· + ·) (joined sums)

/-- Where a long list is divided: at its middle, or at the last full round before. -/
def middle (n : Nat) : Nat := n / 2 / lanes * lanes

/-- Sum of a list, in halves as long as it is long. -/
def pairwiseSum (xs : List K) : K :=
  if _ : xs.length ≤ blockLength then blockSum xs
  else pairwiseSum (xs.take (middle xs.length)) + pairwiseSum (xs.drop (middle xs.length))
termination_by xs.length
decreasing_by
  all_goals
    rename_i h
    simp only [List.length_take, List.length_drop, middle, lanes, blockLength] at h ⊢
    omega

end NonconformingQuad.Scalar
