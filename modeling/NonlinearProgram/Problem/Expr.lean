import NonlinearProgram.Problem.Formula

/-!
# Expressions

A small language for objectives and constraints: constants, variables, arithmetic, the elementary
functions, powers, a choice on real parts and an explicit failure. Arguments are evaluated from left
to right and the first failure ends the evaluation.
-/

namespace NonlinearProgram

/-- Arithmetic operation of two arguments. -/
inductive BinaryOp where
  | add
  | sub
  | mul
  | div
  deriving DecidableEq, Repr

/-- Function of one argument. -/
inductive UnaryOp where
  | neg
  | sqrt
  | exp
  | log
  | sin
  | cos
  deriving DecidableEq, Repr

/-- Applies an operation. -/
def BinaryOp.apply {R T : Type} [Scalar R T] : BinaryOp → T → T → T
  | .add, left, right => left + right
  | .sub, left, right => left - right
  | .mul, left, right => left * right
  | .div, left, right => left / right

/-- Applies a function. -/
def UnaryOp.apply {R T : Type} [Scalar R T] : UnaryOp → T → T
  | .neg, argument => -argument
  | .sqrt, argument => Scalar.sqrt argument
  | .exp, argument => Scalar.exp argument
  | .log, argument => Scalar.log argument
  | .sin, argument => Scalar.sin argument
  | .cos, argument => Scalar.cos argument

/-- An expression over real constants of type `R`. -/
inductive Expr (R : Type) where
  | constant (value : R)
  | var (index : Nat)
  | binary (operation : BinaryOp) (left right : Expr R)
  | unary (operation : UnaryOp) (argument : Expr R)
  | power (base : Expr R) (exponent : Int)
  | pow (base : Expr R) (exponent : R)
  /-- The first branch where the real part of `left` is below that of `right`, else the second. -/
  | ifLess (left right first second : Expr R)
  | undefined (reason : String)

namespace Expr

variable {R T : Type} [Arith R] [Scalar R T]

/-- Value of an expression at a point. -/
def evaluate {nx : Nat} (x : Vector T nx) : Expr R → Except EvaluationFailure T
  | constant value => .ok (Scalar.ofReal value)
  | var index => coordinate x index
  | binary operation left right => do
      let left ← left.evaluate x
      let right ← right.evaluate x
      return operation.apply left right
  | unary operation argument => do
      return operation.apply (← argument.evaluate x)
  | power base exponent => do
      return Scalar.power (← base.evaluate x) exponent
  | pow base exponent => do
      return Scalar.pow (← base.evaluate x) exponent
  | ifLess left right first second => do
      let left ← left.evaluate x
      let right ← right.evaluate x
      if Scalar.re left < Scalar.re right then first.evaluate x else second.evaluate x
  | undefined reason => .error (.undefined reason)

end Expr

/-- A problem whose objective, constraints and derivatives are expressions. -/
def Formulas.ofExprs {R : Type} [Elementary R] (objective : Expr R) (constraints : List (Expr R))
    (derivatives : Option (List (Expr R) × List (Expr R))) : Formulas R where
  objective x := objective.evaluate x
  constraints x _ := constraints.map (·.evaluate x)
  derivatives := derivatives.map fun (gradient, jacobian) =>
    { gradient := fun x => gradient.map (·.evaluate x)
      jacobian := fun x => jacobian.map (·.evaluate x) }

end NonlinearProgram
