import NonlinearProgram.Arith.Double
import NonlinearProgram.AugmentedLagrangian.Solver
import NonlinearProgram.Backend
import NonlinearProgram.Problem.Expr
import NonlinearProgram.Problem.Samples
import NonlinearProgram.ProjectedGradient
import NonlinearProgram.Solver.Callback
import NonlinearProgram.Solver.Recorder
import NonlinearProgram.Solver.Saved
import NonlinearProgram.Proofs.Differentiation.Difference
import NonlinearProgram.Proofs.Pattern.FirstFit
import NonlinearProgram.Proofs.Differentiation.Compression
import NonlinearProgram.Proofs.Differentiation.Agreement
import NonlinearProgram.Proofs.Arith.Zero
import NonlinearProgram.Proofs.AugmentedLagrangian.Assembly
import NonlinearProgram.Proofs.Relay.SolverLayout
import NonlinearProgram.Proofs.Relay.SolverJacobian
import NonlinearProgram.Proofs.Backend.Pending
import NonlinearProgram.Proofs.AugmentedLagrangian.MajorIteration
import NonlinearProgram.Proofs.AugmentedLagrangian.Trials
import NonlinearProgram.Proofs.AugmentedLagrangian.Simulation
import NonlinearProgram.Proofs.AugmentedLagrangian.Exchanges
import NonlinearProgram.Proofs.AugmentedLagrangian.Coherence
import NonlinearProgram.Proofs.Arith.Order
import NonlinearProgram.Proofs.AugmentedLagrangian.Protocol
import NonlinearProgram.Proofs.AugmentedLagrangian.Exits
import NonlinearProgram.Proofs.Problem.Effects
import NonlinearProgram.Proofs.Differentiation.Settled
import NonlinearProgram.Proofs.Differentiation.History
import NonlinearProgram.Proofs.Arith.One
import NonlinearProgram.Proofs.Problem.Tangents
import NonlinearProgram.Proofs.Differentiation.Sweeps
import NonlinearProgram.Proofs.Differentiation.SweepAgreement
import NonlinearProgram.Proofs.Differentiation.Finite
import NonlinearProgram.Proofs.Pattern.Lossless
import NonlinearProgram.Proofs.Session.CallOrder
import NonlinearProgram.Proofs.Setup
import NonlinearProgram.Proofs.Solver.InfiniteBound
import NonlinearProgram.Proofs.Solver.Handover
import NonlinearProgram.Proofs.Solver.OptionTable
import NonlinearProgram.Proofs.Solver.WorkspaceHistory
import NonlinearProgram.Proofs.AugmentedLagrangian.Limits
import NonlinearProgram.Proofs.AugmentedLagrangian.WellFormed
import NonlinearProgram.Proofs.AugmentedLagrangian.CallbackState
import NonlinearProgram.Proofs.Session.Beginning
import NonlinearProgram.Proofs.Session.Exits
import NonlinearProgram.Proofs.Session.FirstPoint
import NonlinearProgram.Proofs.AugmentedLagrangian.Guarded
import NonlinearProgram.Proofs.AugmentedLagrangian.Safety
import NonlinearProgram.Proofs.AugmentedLagrangian.Finiteness
import NonlinearProgram.Proofs.AugmentedLagrangian.FinalState
import NonlinearProgram.Proofs.Session.Resumption
import NonlinearProgram.Proofs.AugmentedLagrangian.AppliedOptions
import NonlinearProgram.Proofs.AugmentedLagrangian.Assignments
import NonlinearProgram.Proofs.Arith.Multiples
import NonlinearProgram.Proofs.AugmentedLagrangian.PositiveDivisors
import NonlinearProgram.Proofs.AugmentedLagrangian.Setters
import NonlinearProgram.Proofs.Session.History
import NonlinearProgram.Proofs.Backend.ColdStart
import NonlinearProgram.Proofs.Differentiation.Requests
import NonlinearProgram.Proofs.Pattern.DeclarationOrder
import NonlinearProgram.Proofs.Differentiation.DeclarationOrder
import NonlinearProgram.Proofs.AugmentedLagrangian.Box
import NonlinearProgram.Proofs.AugmentedLagrangian.Output
import NonlinearProgram.Proofs.Session.Registry
import NonlinearProgram.Proofs.Arith.Sums
import NonlinearProgram.Proofs.Arith.Sign
import NonlinearProgram.Proofs.Arith.Exact
import NonlinearProgram.Proofs.Arith.Rounding
import NonlinearProgram.Proofs.Arith.ExactValue
import NonlinearProgram.Proofs.AugmentedLagrangian.Steps
import NonlinearProgram.Proofs.AugmentedLagrangian.Convergence
import NonlinearProgram.Proofs.AugmentedLagrangian.Decrease
import NonlinearProgram.Proofs.Differentiation.Quotients
import NonlinearProgram.Proofs.Differentiation.Divisors
import NonlinearProgram.Proofs.Pattern.Detection
import NonlinearProgram.Proofs.Pattern.Coordinates
import NonlinearProgram.Proofs.Differentiation.Calls
import NonlinearProgram.Proofs.Relay.Accounts
import NonlinearProgram.Proofs.Differentiation.Frame
import NonlinearProgram.Proofs.Solver.BoundMaps
import NonlinearProgram.Proofs.Solver.SavedStart
import NonlinearProgram.Proofs.Text.Words
import NonlinearProgram.Proofs.AugmentedLagrangian.Keys
