/-!
# Failures of a single evaluation

A problem may be undefined at one sampled point and fine at the next. Such a failure is a value: the
caller decides whether to back off, and nothing that owns the problem becomes unusable.
-/

namespace NonlinearProgram

/-- Output in which a value that is not finite was found. -/
inductive Quantity where
  | function
  | objective
  | constraint
  | gradient
  | jacobian
  deriving DecidableEq, Repr

def Quantity.name : Quantity → String
  | .function => "function"
  | .objective => "objective"
  | .constraint => "constraint"
  | .gradient => "gradient"
  | .jacobian => "jacobian"

inductive EvaluationFailure where
  /-- An output is infinite or not a number; its position within that output is given. -/
  | nonFinite (quantity : Quantity) (index : Nat)
  | undefined (reason : String)
  | noDerivatives
  deriving DecidableEq, Repr

def EvaluationFailure.message : EvaluationFailure → String
  | .nonFinite quantity index => s!"Non-finite {quantity.name} at index {index}"
  | .undefined reason => s!"Function undefined at the sampled point: {reason}"
  | .noDerivatives => "Function does not supply derivatives"

end NonlinearProgram
