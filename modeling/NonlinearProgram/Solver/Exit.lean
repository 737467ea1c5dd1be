/-!
# Exits

A solver reports how it stopped as a number. The number belongs to one of a few categories, and each
known number has a fixed message. Numbers a solver is not known to report are `unknown`.
-/

namespace NonlinearProgram

/-- What an exit means for the caller. -/
inductive ExitCategory where
  | optimal
  | feasiblePoint
  | accuracyNotAchieved
  | infeasible
  | unbounded
  | resourceLimit
  | numericalDifficulty
  | derivativeError
  | userFunctionError
  | userStop
  | storageError
  | inputError
  | internalError
  | unknown
  deriving DecidableEq, Repr

def ExitCategory.name : ExitCategory → String
  | .optimal => "optimal"
  | .feasiblePoint => "feasible_point"
  | .accuracyNotAchieved => "accuracy_not_achieved"
  | .infeasible => "infeasible"
  | .unbounded => "unbounded"
  | .resourceLimit => "resource_limit"
  | .numericalDifficulty => "numerical_difficulty"
  | .derivativeError => "derivative_error"
  | .userFunctionError => "user_function_error"
  | .userStop => "user_stop"
  | .storageError => "storage_error"
  | .inputError => "input_error"
  | .internalError => "internal_error"
  | .unknown => "unknown"

/-- The final point is worth reporting. -/
def ExitCategory.isWorthReporting : ExitCategory → Bool
  | .optimal | .feasiblePoint | .accuracyNotAchieved | .resourceLimit => true
  | _ => false

structure Exit where
  code : Int
  category : ExitCategory
  message : String
  deriving DecidableEq, Repr

namespace Exit

/-- Every exit a solver is known to report. -/
def table : List Exit :=
  [⟨1, .optimal, "optimality conditions satisfied"⟩,
    ⟨2, .feasiblePoint, "feasible point found"⟩,
    ⟨3, .accuracyNotAchieved, "requested accuracy could not be achieved"⟩,
    ⟨11, .infeasible, "infeasible linear constraints"⟩,
    ⟨12, .infeasible, "infeasible linear equalities"⟩,
    ⟨13, .infeasible, "nonlinear infeasibilities minimized"⟩,
    ⟨14, .infeasible, "linear infeasibilities minimized"⟩,
    ⟨15, .infeasible, "infeasible linear constraints in QP subproblem"⟩,
    ⟨21, .unbounded, "unbounded objective"⟩,
    ⟨22, .unbounded, "constraint violation limit reached"⟩,
    ⟨31, .resourceLimit, "iteration limit reached"⟩,
    ⟨32, .resourceLimit, "major iteration limit reached"⟩,
    ⟨33, .resourceLimit, "the superbasics limit is too small"⟩,
    ⟨41, .numericalDifficulty, "current point cannot be improved"⟩,
    ⟨42, .numericalDifficulty, "singular basis"⟩,
    ⟨43, .numericalDifficulty, "cannot satisfy the general constraints"⟩,
    ⟨44, .numericalDifficulty, "ill-conditioned null-space basis"⟩,
    ⟨51, .derivativeError, "incorrect objective derivatives"⟩,
    ⟨52, .derivativeError, "incorrect constraint derivatives"⟩,
    ⟨61, .userFunctionError, "undefined function at the first feasible point"⟩,
    ⟨62, .userFunctionError, "undefined function at the initial point"⟩,
    ⟨63, .userFunctionError, "unable to proceed into undefined region"⟩,
    ⟨71, .userStop, "terminated during function evaluation"⟩,
    ⟨74, .userStop, "terminated from monitor routine"⟩,
    ⟨81, .storageError, "work arrays must have at least 500 elements"⟩,
    ⟨82, .storageError, "not enough character storage"⟩,
    ⟨83, .storageError, "not enough integer storage"⟩,
    ⟨84, .storageError, "not enough real storage"⟩,
    ⟨91, .inputError, "invalid input argument"⟩,
    ⟨92, .inputError, "basis file dimensions do not match this problem"⟩,
    ⟨141, .internalError, "wrong number of basic variables"⟩,
    ⟨142, .internalError, "error in basis package"⟩]

/-- The exit a number stands for. -/
def ofCode (code : Int) : Exit :=
  (table.find? (·.code == code)).getD ⟨code, .unknown, "unknown termination code"⟩

def isOptimal (exit : Exit) : Bool := exit.category == .optimal

def display (exit : Exit) : String :=
  s!"EXIT {exit.code} ({exit.category.name}): {exit.message}"

end Exit

end NonlinearProgram
