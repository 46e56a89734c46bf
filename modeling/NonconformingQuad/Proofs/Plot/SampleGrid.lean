import NonconformingQuad.Plot.SampleGrid
import NonconformingQuad.Proofs.Tensor.Broadcasting

/-! The samples of a cell, found again in its squares. On their way they are spread over two
matrices, listed, mapped one by one and put back into squares. In row `i` and column `j` stands the
image of the reference point whose first coordinate has number `j` and whose second one has number
`i`. -/
namespace NonconformingQuad.Plot.SampleGrid
open Scalar Tensor Index
variable {K : Type} [Scalar K]

/-- The reference point in row `i` and column `j`. -/
def referenceAt (n i j : Nat) : Point K := ⟨linspace (-1) 1 (n - 1) j, linspace (-1) 1 (n - 1) i⟩

end NonconformingQuad.Plot.SampleGrid
