import NonconformingQuad.Basis.Evaluate
import NonconformingQuad.Basis.StackInput
import NonconformingQuad.Element.P1
import NonconformingQuad.Evaluation.Context
import NonconformingQuad.Evaluation.Mapping
import NonconformingQuad.Flags.Entry
import NonconformingQuad.Geometry.Bilinear
import NonconformingQuad.Geometry.CellInput
import NonconformingQuad.Geometry.Jacobian
import NonconformingQuad.Mesh.Distortion
import NonconformingQuad.Mesh.Query
import NonconformingQuad.Number.Reader
import NonconformingQuad.Plot.MeshOutline
import NonconformingQuad.Plot.ShapeContours
import NonconformingQuad.Proofs.Basis.Acceptance
import NonconformingQuad.Proofs.Basis.Combinations
import NonconformingQuad.Proofs.Basis.Evaluation
import NonconformingQuad.Proofs.Basis.Invariance
import NonconformingQuad.Proofs.Basis.MidpointValues
import NonconformingQuad.Proofs.Basis.StackAgreement
import NonconformingQuad.Proofs.Basis.StackInput
import NonconformingQuad.Proofs.Element.Filling
import NonconformingQuad.Proofs.Element.InPlace
import NonconformingQuad.Proofs.Element.Shapes
import NonconformingQuad.Proofs.Evaluation.Accessors
import NonconformingQuad.Proofs.Evaluation.AffineEquivariance
import NonconformingQuad.Proofs.Evaluation.AffineReproduction
import NonconformingQuad.Proofs.Evaluation.AllocatedBuffers
import NonconformingQuad.Proofs.Evaluation.Allocation
import NonconformingQuad.Proofs.Evaluation.Calls
import NonconformingQuad.Proofs.Evaluation.CellArea
import NonconformingQuad.Proofs.Evaluation.EdgeRules
import NonconformingQuad.Proofs.Evaluation.ElementMatrices
import NonconformingQuad.Proofs.Evaluation.FaceMidpoint
import NonconformingQuad.Proofs.Evaluation.Geometry
import NonconformingQuad.Proofs.Evaluation.GreenIdentity
import NonconformingQuad.Proofs.Evaluation.HalfFaces
import NonconformingQuad.Proofs.Evaluation.Histories
import NonconformingQuad.Proofs.Evaluation.InterruptedFills
import NonconformingQuad.Proofs.Evaluation.Outcomes
import NonconformingQuad.Proofs.Evaluation.OutwardNormals
import NonconformingQuad.Proofs.Evaluation.Renewal
import NonconformingQuad.Proofs.Evaluation.Sampling
import NonconformingQuad.Proofs.Evaluation.SharedFaces
import NonconformingQuad.Proofs.Evaluation.StackedContexts
import NonconformingQuad.Proofs.Evaluation.Success
import NonconformingQuad.Proofs.Flags.Closure
import NonconformingQuad.Proofs.Flags.LeastClosure
import NonconformingQuad.Proofs.Flags.Tables
import NonconformingQuad.Proofs.Geometry.Area
import NonconformingQuad.Proofs.Geometry.BilinearMap
import NonconformingQuad.Proofs.Geometry.Convexity
import NonconformingQuad.Proofs.Geometry.Midlines
import NonconformingQuad.Proofs.Geometry.Normals
import NonconformingQuad.Proofs.Geometry.Numbering
import NonconformingQuad.Proofs.Geometry.Relabelling
import NonconformingQuad.Proofs.Literal
import NonconformingQuad.Proofs.Mesh.BoundaryFaces
import NonconformingQuad.Proofs.Mesh.DisplacedArea
import NonconformingQuad.Proofs.Mesh.DisplacedConvexity
import NonconformingQuad.Proofs.Mesh.Displacement
import NonconformingQuad.Proofs.Mesh.FaceContinuity
import NonconformingQuad.Proofs.Mesh.FaceTables
import NonconformingQuad.Proofs.Mesh.GridFaces
import NonconformingQuad.Proofs.Mesh.Lookup
import NonconformingQuad.Proofs.Mesh.MovableNodes
import NonconformingQuad.Proofs.Mesh.Neighbors
import NonconformingQuad.Proofs.Mesh.Owners
import NonconformingQuad.Proofs.Mesh.PlacedGrid
import NonconformingQuad.Proofs.Mesh.StructuredGrid
import NonconformingQuad.Proofs.Outcome
import NonconformingQuad.Proofs.Plot.SampleGrid
import NonconformingQuad.Proofs.Plot.ShapeContours
import NonconformingQuad.Proofs.Plot.Surface
import NonconformingQuad.Proofs.Quadrature.Centred
import NonconformingQuad.Proofs.Quadrature.Exactness
import NonconformingQuad.Proofs.Quadrature.Halves
import NonconformingQuad.Proofs.Quadrature.ProductRules
import NonconformingQuad.Proofs.Quadrature.Segments
import NonconformingQuad.Proofs.RealScalar
import NonconformingQuad.Proofs.Summation
import NonconformingQuad.Proofs.Tensor.Broadcasting
import NonconformingQuad.Proofs.Tensor.Reading
import NonconformingQuad.Proofs.Tensor.Room
import NonconformingQuad.Proofs.Tensor.Stacking
import NonconformingQuad.Quadrature.Legendre
import NonconformingQuad.Quadrature.Moment
import NonconformingQuad.Quadrature.Rule
import NonconformingQuad.Quadrature.Segment
import NonconformingQuad.Run
import NonconformingQuad.Tensor.Nested
import NonconformingQuad.Tensor.Product
import NonconformingQuad.Tolerances
