import NonlinearProgram.Problem.Failure
import NonlinearProgram.Scalar.Dual
import NonlinearProgram.Scalar.Complex
import NonlinearProgram.Word

/-!
# Problems

A problem computes an objective and constraint values. It is evaluated with real, dual or complex
variables, and it may supply its own derivatives. Constraint values are written into a buffer the
caller lends; whatever was written before a failure stays written, so an evaluation reports the
buffer as it was left besides the outcome.

A problem may carry state of a type `σ` from call to call. The state of `Problem.counted` is a tally
of the calls made with each kind of scalar.
-/

namespace NonlinearProgram

/-- Numbers of variables and of constraints. -/
structure Dimensions where
  nx : Nat
  ng : Nat
  deriving DecidableEq, Repr

/-- Number of function rows: the objective comes first, the constraints follow. -/
def Dimensions.rows (dims : Dimensions) : Nat := dims.ng + 1

/-- Number of function rows as it is computed, which wraps around if every word counts a
constraint. -/
def Dimensions.nf (dims : Dimensions) : Nat := wrap dims.rows

/-- Length of a dense constraint Jacobian as it is computed. -/
def Dimensions.denseLength (dims : Dimensions) : Nat := wrap (dims.ng * dims.nx)

theorem Dimensions.nf_eq_rows {dims : Dimensions} (fits : FitsWord dims.rows) :
    dims.nf = dims.rows :=
  fits.wrap

/-- Outcome of an evaluation and the constraint buffer it left. -/
structure Evaluation (T : Type) (ng : Nat) where
  outcome : Except EvaluationFailure T
  constraints : Vector T ng

/-- Constraint values, objective gradient and constraint Jacobian, as one caller lends them. -/
structure Buffers (R : Type) (nx ng nj : Nat) where
  g : Vector R ng
  df : Vector R nx
  dg : Vector R nj

/-- An objective with constraints, over the reals `R` and with state `σ`. -/
structure Problem (R σ : Type) where
  real : {nx ng : Nat} → Vector R nx → Vector R ng → StateM σ (Evaluation R ng)
  dual : {nx ng : Nat} → Vector (Dual R) nx → Vector (Dual R) ng →
    StateM σ (Evaluation (Dual R) ng)
  complex : {nx ng : Nat} → Vector (Complex R) nx → Vector (Complex R) ng →
    StateM σ (Evaluation (Complex R) ng)
  /-- Values and derivatives together, if the problem supplies them. -/
  derivatives : Option ({nx ng nj : Nat} → Vector R nx → Buffers R nx ng nj →
    StateM σ (Except EvaluationFailure R × Buffers R nx ng nj))

/-- Calls made, by the kind of scalar they were made with. -/
structure Tally where
  real : Nat := 0
  dual : Nat := 0
  complex : Nat := 0
  derivatives : Nat := 0
  deriving DecidableEq, Repr

/-- Calls of any kind. -/
def Tally.total (tally : Tally) : Nat :=
  tally.real + tally.dual + tally.complex + tally.derivatives

namespace Problem

variable {R σ : Type}

/-- The problem supplies derivatives. -/
def hasDerivatives (problem : Problem R σ) : Bool := problem.derivatives.isSome

/-- Values and derivatives in one call; fails for a problem that supplies none. -/
def evaluateWithDerivatives (problem : Problem R σ) {nx ng nj : Nat} (x : Vector R nx)
    (buffers : Buffers R nx ng nj) : StateM σ (Except EvaluationFailure R × Buffers R nx ng nj) :=
  match problem.derivatives with
  | some evaluate => evaluate x buffers
  | none => pure (.error .noDerivatives, buffers)

/-- Runs a call on the problem's own state and counts it. -/
def countedCall {α : Type} (count : Tally → Tally) (call : StateM σ α) : StateM (σ × Tally) α :=
  fun (state, tally) =>
    let (result, state) := call state
    (result, state, count tally)

/-- The same problem, with a tally of the calls made to it. -/
def counted (problem : Problem R σ) : Problem R (σ × Tally) where
  real x g := countedCall (fun tally => { tally with real := tally.real + 1 }) (problem.real x g)
  dual x g := countedCall (fun tally => { tally with dual := tally.dual + 1 }) (problem.dual x g)
  complex x g :=
    countedCall (fun tally => { tally with complex := tally.complex + 1 }) (problem.complex x g)
  derivatives := problem.derivatives.map fun evaluate => fun x buffers =>
    countedCall (fun tally => { tally with derivatives := tally.derivatives + 1 })
      (evaluate x buffers)

end Problem

end NonlinearProgram
