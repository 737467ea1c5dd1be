import NonlinearProgram.Problem.Formula

/-!
# Sample problems

Small problems with known behaviour: a quadratic with and without supplied derivatives, an objective
undefined on half of the line, a chain with a banded Jacobian, and Rosenbrock's function with a disk
constraint.
-/

namespace NonlinearProgram.Sample

variable {R : Type} [Elementary R]

/-- `x₁ * x₁` for the variable at a position. -/
def square {T : Type} [Scalar R T] {nx : Nat} (x : Vector T nx) (index : Nat) :
    Except EvaluationFailure T := do
  let value ← coordinate x index
  return value * value

/-- `f = x₁² + x₂²`, `g = x₁ + x₂`. -/
def quadratic : Formulas R where
  objective x := do
    return (← square x 0) + (← square x 1)
  constraints x _ := [do return (← coordinate x 0) + (← coordinate x 1)]

/-- The same quadratic with its derivatives. With one constraint the dense layout of the Jacobian
and the declared layout of `(1,1), (1,2)` agree. -/
def quadraticWithDerivatives : Formulas R :=
  { quadratic with
    derivatives := some
      { gradient := fun x => [0, 1].map fun index => do return 2.0 * (← coordinate x index)
        jacobian := fun _ => [.ok 1, .ok 1] } }

/-- `f = √x₁` without constraints, undefined for `x₁ ≤ 0`. -/
def squareRoot : Formulas R where
  objective x := do
    let value ← coordinate x 0
    if Scalar.re value ≤ 0 then
      throw (.undefined "sqrt of non-positive argument")
    return Scalar.sqrt value
  constraints _ _ := []

/-- `f = Σ exp xᵢ`, `gᵢ = xᵢ² - xᵢ₊₁`: the constraint Jacobian is upper bidiagonal. -/
def chain : Formulas R where
  objective x := .ok (x.foldl (fun sum value => sum + Scalar.exp value) (Scalar.ofReal 0))
  constraints x ng := (List.range ng).map fun index => do
    return (← square x index) - (← coordinate x (index + 1))

/-- Rosenbrock's function `(1 - x₁)² + 100 (x₂ - x₁²)²` with `g = x₁² + x₂²`. -/
def rosenbrockOnDisk : Formulas R where
  objective x := do
    let a := Scalar.ofReal 1 - (← coordinate x 0)
    let b := (← coordinate x 1) - (← square x 0)
    return a * a + Scalar.ofReal 100.0 * b * b
  constraints x _ := [do return (← square x 0) + (← square x 1)]

end NonlinearProgram.Sample
