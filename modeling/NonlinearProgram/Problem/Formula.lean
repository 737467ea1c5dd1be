import NonlinearProgram.Problem.Basic

/-!
# Problems given by formulas

A formula is written once over any scalar type. The constraint formulas of a problem are evaluated
in order, each written to its place, until one fails or either side runs out; the objective comes
last. Places beyond the last formula keep what they held.
-/

namespace NonlinearProgram

/-- Writes values in order from `position` on. Stops at the first failure, or at the end of the
buffer, and reports the buffer as left. -/
def fillFrom {T : Type} {n : Nat} :
    List (Except EvaluationFailure T) → Nat → Vector T n →
      Except EvaluationFailure Unit × Vector T n
  | [], _, buffer => (.ok (), buffer)
  | value :: rest, position, buffer =>
      if inside : position < n then
        match value with
        | .ok value => fillFrom rest (position + 1) (buffer.set position value)
        | .error failure => (.error failure, buffer)
      else (.ok (), buffer)

def coordinate {T : Type} {nx : Nat} (x : Vector T nx) (index : Nat) : Except EvaluationFailure T :=
  match x[index]? with
  | some value => .ok value
  | none => .error (.undefined s!"no variable {index}")

structure DerivativeFormulas (R : Type) where
  gradient : {nx : Nat} → Vector R nx → List (Except EvaluationFailure R)
  /-- Constraint derivatives, in the order in which they are to be stored. -/
  jacobian : {nx : Nat} → Vector R nx → List (Except EvaluationFailure R)

/-- Formulas for the objective and the constraints, over any scalar. -/
structure Formulas (R : Type) where
  objective : {T : Type} → [Scalar R T] → {nx : Nat} → Vector T nx → Except EvaluationFailure T
  /-- Constraint values; the number of constraints asked for is given. -/
  constraints : {T : Type} → [Scalar R T] → {nx : Nat} → Vector T nx → Nat →
    List (Except EvaluationFailure T)
  derivatives : Option (DerivativeFormulas R) := none

namespace Formulas

variable {R : Type}

def evaluate (formulas : Formulas R) {T : Type} [Scalar R T] {nx ng : Nat} (x : Vector T nx)
    (constraints : Vector T ng) : Evaluation T ng :=
  match fillFrom (formulas.constraints x ng) 0 constraints with
  | (.ok _, constraints) => ⟨formulas.objective x, constraints⟩
  | (.error failure, constraints) => ⟨.error failure, constraints⟩

/-- Evaluates constraints, gradient and Jacobian in this order, and the objective last. -/
def evaluateWith [Scalar R R] (formulas : Formulas R) (derivatives : DerivativeFormulas R)
    {nx ng nj : Nat} (x : Vector R nx) (buffers : Buffers R nx ng nj) :
    Except EvaluationFailure R × Buffers R nx ng nj :=
  match fillFrom (formulas.constraints x ng) 0 buffers.g with
  | (.error failure, g) => (.error failure, { buffers with g })
  | (.ok _, g) =>
    match fillFrom (derivatives.gradient x) 0 buffers.df with
    | (.error failure, df) => (.error failure, { buffers with g, df })
    | (.ok _, df) =>
      match fillFrom (derivatives.jacobian x) 0 buffers.dg with
      | (.error failure, dg) => (.error failure, ⟨g, df, dg⟩)
      | (.ok _, dg) => (formulas.objective x, ⟨g, df, dg⟩)

/-- The problem the formulas describe. It keeps no state. -/
def toProblem [Elementary R] (formulas : Formulas R) : Problem R Unit where
  real x g := pure (formulas.evaluate x g)
  dual x g := pure (formulas.evaluate x g)
  complex x g := pure (formulas.evaluate x g)
  derivatives := formulas.derivatives.map fun derivatives => fun x buffers =>
    pure (formulas.evaluateWith derivatives x buffers)

end Formulas

end NonlinearProgram
