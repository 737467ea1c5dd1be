import NonlinearProgram.Differentiation.Method
import NonlinearProgram.Differentiation.Scratch
import NonlinearProgram.Pattern.Coloring

/-!
# Difference quotients

All quotients come from `jointDifference`, which perturbs a set of variables at once and keeps the
undivided differences. One variable at a time gives columns of the Jacobian; all variables of one
colour give a compressed column, which the colouring takes apart again.

The divisor of a variable is the step that was actually taken, `(x + h) - x` or
`(x + h) - (x - h)`, and not the step that was asked for.
-/

namespace NonlinearProgram

variable {R σ : Type} [Arith R] {nx ng groups : Nat}

def complexStep : R := 1e-20

/-- Step for a variable at `x`: relative above one, absolute below. -/
def Scheme.step [Precision R] (scheme : Scheme) (x : R) : R :=
  let scale := Arith.maximum 1 (Arith.abs x)
  match scheme with
  | forward => Precision.sqrtEpsilon * scale
  | central => Precision.cbrtEpsilon * scale
  | .complexStep => NonlinearProgram.complexStep

/-- Changes the entries at the given positions. -/
def alter {T : Type} (columns : List (Fin nx)) (values : Vector T nx) (change : Fin nx → T → T) :
    Vector T nx :=
  .ofFn fun column =>
    if column ∈ columns then change column (values.get column) else values.get column

variable [Precision R]

namespace Sampling

def setDivisors (columns : List (Fin nx)) (divisor : Fin nx → R) :
    Sampling R σ nx ng groups Unit :=
  modify fun scratch =>
    { scratch with divisors := alter columns scratch.divisors fun column _ => divisor column }

/-- Perturbs some variables together and records the undivided differences of the function rows.
`base` holds the function rows at `x`. -/
def jointDifference (problem : Problem R σ) (x : Vector R nx) (columns : List (Fin nx)) :
    Scheme → Vector R (ng + 1) → Sampling R σ nx ng groups Unit
  | .forward, base => do
      let shifted := alter columns x fun _ value => value + Scheme.forward.step value
      setDivisors columns fun column => shifted.get column - x.get column
      samplePlus problem shifted
      modify fun scratch => { scratch with raw := scratch.plus.zipWith (· - ·) base }
  | .central, _ => do
      samplePlus problem (alter columns x fun _ value => value + Scheme.central.step value)
      sampleMinus problem (alter columns x fun _ value => value - Scheme.central.step value)
      setDivisors columns fun column =>
        let step := Scheme.central.step (x.get column)
        (x.get column + step) - (x.get column - step)
      modify fun scratch => { scratch with raw := scratch.plus.zipWith (· - ·) scratch.minus }
  | .complexStep, _ => do
      setDivisors columns fun _ => complexStep
      sampleComplex problem
        (alter columns (x.map Complex.ofReal) fun _ value => ⟨value.re, complexStep⟩)
      modify fun scratch => { scratch with raw := scratch.complexRows.map Complex.im }

/-- Jacobian of all function rows, one variable at a time, and the rows themselves. -/
def differenceJacobian (problem : Problem R σ) (scheme : Scheme) (x : Vector R nx) :
    Sampling R σ nx ng nx Unit := do
  sampleRows problem x
  let base := (← get).rows
  (List.finRange nx).forM fun column => do
    jointDifference problem x [column] scheme base
    modify fun scratch =>
      let quotients := scratch.raw.map (· / scratch.divisors.get column)
      { scratch with jacobian := scratch.jacobian.set column quotients column.isLt }

/-- Objective gradient, one variable at a time. `base` holds the function rows at `x`. -/
def differenceGradient (problem : Problem R σ) (scheme : Scheme) (x : Vector R nx)
    (base : Vector R (ng + 1)) : Sampling R σ nx ng groups Unit :=
  (List.finRange nx).forM fun column => do
    jointDifference problem x [column] scheme base
    modify fun scratch =>
      let quotient := scratch.raw.get objectiveRow / scratch.divisors.get column
      { scratch with gradient := scratch.gradient.set column quotient column.isLt }

/-- Undivided differences of all function rows, one colour at a time. The divisors of all variables
are left beside them. `base` holds the function rows at `x`. -/
def differenceCompressed (problem : Problem R σ) (scheme : Scheme) (coloring : Coloring nx)
    (x : Vector R nx) (base : Vector R (ng + 1)) : Sampling R σ nx ng coloring.count Unit :=
  (List.finRange coloring.count).forM fun color => do
    jointDifference problem x (coloring.columns color) scheme base
    modify fun scratch =>
      { scratch with jacobian := scratch.jacobian.set color scratch.raw color.isLt }

end Sampling

end NonlinearProgram
