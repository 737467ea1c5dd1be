import NonlinearProgram.Differentiation.Method
import NonlinearProgram.Problem.Failure

/-!
# Failures of a setup

What can be wrong with a problem, its pattern, bounds, starting state or configuration before any
solver is involved. Each cause is a constructor; `SetupError.message` holds the wording.
-/

namespace NonlinearProgram

/-- A component of a starting state that has a length. -/
inductive StateField where
  | x
  | xState
  | xMul
  | f
  | fState
  | fMul
  deriving DecidableEq, Repr

def StateField.name : StateField → String
  | .x => "x"
  | .xState => "xstate"
  | .xMul => "xmul"
  | .f => "F"
  | .fState => "Fstate"
  | .fMul => "Fmul"

/-- Something whose size a problem prescribes. -/
inductive Extent where
  | xLower
  | xUpper
  | gLower
  | gUpper
  | patternRows
  | patternColumns
  /-- A probe point of known or unknown position. -/
  | probe (index : Option Nat)
  | start (component : StateField)
  | savedStart (component : StateField)
  deriving DecidableEq, Repr

def Extent.name : Extent → String
  | .xLower => "x_lower"
  | .xUpper => "x_upper"
  | .gLower => "g_lower"
  | .gUpper => "g_upper"
  | .patternRows => "pattern rows"
  | .patternColumns => "pattern columns"
  | .probe none => "probe point"
  | .probe (some index) => s!"probe point {index}"
  | .start component => "start " ++ component.name
  | .savedStart component => "saved start " ++ component.name

/-- A defect of a sparsity pattern. Rows and columns are counted from one. -/
inductive PatternDefect where
  | outOfRange (entry row column nrows ncols : Nat)
  | repeated (entry row column : Nat)
  | noObjectiveRow
  deriving DecidableEq, Repr

def PatternDefect.reason : PatternDefect → String
  | .outOfRange entry row column nrows ncols =>
      s!"entry {entry} at ({row}, {column}) lies outside 1..={nrows} x 1..={ncols}"
  | .repeated entry row column => s!"entry {entry} repeats ({row}, {column})"
  | .noObjectiveRow => "dense pattern must include the objective row"

/-- Largest code of a variable's or a row's state. -/
def largestStateCode : Int := 5

/-- An unusable configuration value. -/
inductive ConfigurationFault where
  | crossedBounds (position : Nat)
  | identicalProbes (first second : Nat)
  | unknownMethod (name : String)
  | startNotFinite
  | constantNotFinite
  | negativeSuperbasics (count : Int)
  | stateCode (code : Int)
  deriving DecidableEq, Repr

def ConfigurationFault.parameter : ConfigurationFault → String
  | .crossedBounds _ => "bounds"
  | .identicalProbes .. => "probe points"
  | .unknownMethod _ => "differentiation method"
  | .startNotFinite => "start x"
  | .constantNotFinite => "objective_add"
  | .negativeSuperbasics _ => "saved start ns"
  | .stateCode _ => "saved start states"

def ConfigurationFault.reason : ConfigurationFault → String
  | .crossedBounds position => s!"lower bound exceeds upper bound at position {position}"
  | .identicalProbes first second => s!"probe {first} and probe {second} are identical"
  | .unknownMethod name => s!"unknown method '{name}'"
  | .startNotFinite => "starting point must be finite"
  | .constantNotFinite => "objective constant must be finite"
  | .negativeSuperbasics count => s!"superbasic count {count} is negative"
  | .stateCode code => s!"state code {code} outside 0..={largestStateCode}"

inductive SetupError where
  | wrongSize (what : Extent) (expected actual : Nat)
  | malformedPattern (defect : PatternDefect)
  | unusableValue (fault : ConfigurationFault)
  | methodUnavailable (method : Method)
  | evaluation (failure : EvaluationFailure)
  deriving DecidableEq, Repr

def SetupError.message : SetupError → String
  | .wrongSize what expected actual =>
      s!"Dimension mismatch for {what.name}: expected {expected}, got {actual}"
  | .malformedPattern defect => s!"Invalid sparsity pattern: {defect.reason}"
  | .unusableValue fault =>
      s!"Invalid configuration for {fault.parameter}: {fault.reason}"
  | .methodUnavailable method =>
      s!"Differentiation method {method.name} unavailable: " ++
        "function does not implement eval_with_derivatives"
  | .evaluation failure => s!"Evaluation failed during setup: {failure.message}"

def checkExtent (what : Extent) (expected actual : Nat) : Except SetupError Unit :=
  if actual = expected then .ok () else .error (.wrongSize what expected actual)

/-- The method with a name, whatever the case of its ASCII letters. -/
def Method.parse (name : String) : Except SetupError Method :=
  match find? name with
  | some method => .ok method
  | none => .error (.unusableValue (.unknownMethod name))

end NonlinearProgram
