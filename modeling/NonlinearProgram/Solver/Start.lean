import NonlinearProgram.Setup
import NonlinearProgram.Arith.Basic
import NonlinearProgram.Problem.Basic

/-!
# Starting states

Between solves a solver's knowledge of a problem is a point, the function values there, and for both
a state code and a multiplier per entry. A cold start knows the point only; a warm start resumes
from the state an earlier solve left. The solver receives either as it is, so its sizes are checked
first.
-/

namespace NonlinearProgram

/-- Whether a solver begins from scratch or resumes. -/
inductive StartMode where
  | cold
  | warm
  deriving DecidableEq, Repr

/-- The number a solver is given for a mode. -/
def StartMode.code : StartMode → Int
  | .cold => 0
  | .warm => 2

def StartMode.name : StartMode → String
  | .cold => "Cold"
  | .warm => "Warm"

/-- What a solver knows of a problem between solves. -/
structure SolverState (R : Type) where
  superbasics : Int
  x : Array R
  xState : Array Int
  xMul : Array R
  /-- Function values, the objective first. -/
  f : Array R
  fState : Array Int
  fMul : Array R
  deriving DecidableEq

def SolverState.length {R : Type} (state : SolverState R) : StateField → Nat
  | .x => state.x.size
  | .xState => state.xState.size
  | .xMul => state.xMul.size
  | .f => state.f.size
  | .fState => state.fState.size
  | .fMul => state.fMul.size

structure Start (R : Type) where
  mode : StartMode
  state : SolverState R
  deriving DecidableEq

namespace Start

variable {R : Type} [Arith R]

/-- A cold start at a point, for a number of function rows. -/
def cold (x : Array R) (functions : Nat) : Start R where
  mode := .cold
  state :=
    { superbasics := 0
      x
      xState := .replicate x.size 0
      xMul := .replicate x.size 0
      f := .replicate functions 0
      fState := .replicate functions 0
      fMul := .replicate functions 0 }

def isWarm (start : Start R) : Bool := start.mode == .warm

/-- Size of a component in a problem. -/
def requiredLength (dims : Dimensions) : StateField → Nat
  | .x | .xState | .xMul => dims.nx
  | .f | .fState | .fMul => dims.nf

/-- Checks the sizes in the order of the components, then that the point is finite. -/
def validate (start : Start R) (dims : Dimensions) : Except SetupError Unit := do
  for component in [StateField.x, .xState, .xMul, .f, .fState, .fMul] do
    checkExtent (.start component) (requiredLength dims component) (start.state.length component)
  if start.state.x.any (!Arith.isFinite ·) then
    throw (.unusableValue .startNotFinite)

end Start

end NonlinearProgram
