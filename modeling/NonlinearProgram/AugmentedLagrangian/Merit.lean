import NonlinearProgram.AugmentedLagrangian.Evaluation
import NonlinearProgram.Arith.Sums

/-!
# Merit

A constraint `l ≤ F_i(x) ≤ u` has a slack that is eliminated in closed form: with multiplier `λ` and
penalty `ρ` it is the point of the interval nearest `F_i - λ / ρ`, and the residual is what
separates `F_i` from it. The merit of a point is its objective plus `-λ r + ρ r² / 2` for each
residual `r`.
-/

namespace NonlinearProgram.AugmentedLagrangian

/-- Multipliers of the function rows, and the penalty. -/
structure Multipliers (R : Type) (nf : Nat) where
  /-- Multiplier of each row; zero for the objective. -/
  lambda : Vector R nf
  penalty : R

variable {R : Type} [Arith R] {n nf neg : Nat}

def project (program : Program R n nf neg) (x : Vector R n) : Vector R n :=
  .ofFn fun j => Arith.clamp (x.get j) (program.xLower.get j) (program.xUpper.get j)

/-- Largest component of the projected step against a gradient. -/
def projectedStepSize (program : Program R n nf neg) (x gradient : Vector R n) : R :=
  largest (difference (project program (difference x gradient)) x)

/-- Distance of a function value from its slack. -/
def residual (program : Program R n nf neg) (multipliers : Multipliers R nf) (f : Vector R nf)
    (row : Fin nf) : R :=
  f.get row - Arith.clamp (f.get row - multipliers.lambda.get row / multipliers.penalty)
    (program.fLower.get row) (program.fUpper.get row)

def merit (program : Program R n nf neg) (multipliers : Multipliers R nf) (f : Vector R nf) : R :=
  program.rows.foldl
    (fun sum row =>
      let r := residual program multipliers f row
      sum - multipliers.lambda.get row * r + 0.5 * multipliers.penalty * r * r)
    (f.get program.objective)

/-- Combination of the Jacobian's rows with the given weights. -/
def combineRows (jacobian : Columns R n nf) (weights : Vector R nf) : Vector R n :=
  jacobian.map fun column => dot column weights

def gradientOfMerit (program : Program R n nf neg) (multipliers : Multipliers R nf)
    (point : Point R n nf) : Vector R n :=
  combineRows point.jacobian <| .ofFn fun row =>
    if row = program.objective then 1
    else
      -multipliers.lambda.get row + multipliers.penalty * residual program multipliers point.f row

/-- Gradient of the Lagrangian: the objective less the weighted constraints. -/
def reducedGradient (program : Program R n nf neg) (lambda : Vector R nf)
    (jacobian : Columns R n nf) : Vector R n :=
  combineRows jacobian <| .ofFn fun row => if row = program.objective then 1 else -lambda.get row

/-- Multipliers after an inner solve: each is lowered by the penalty times its residual. -/
def Multipliers.update (multipliers : Multipliers R nf) (program : Program R n nf neg)
    (f : Vector R nf) : Multipliers R nf where
  lambda := .ofFn fun row =>
    if row = program.objective then multipliers.lambda.get row
    else multipliers.lambda.get row - multipliers.penalty * residual program multipliers f row
  penalty := multipliers.penalty

/-- Violations of the constraints at a point. -/
structure Violation (R : Type) where
  most : R
  count : Nat
  sum : R

def rowViolation (program : Program R n nf neg) (f : Vector R nf) (row : Fin nf) : R :=
  Arith.maximum
    (Arith.maximum (program.fLower.get row - f.get row) (f.get row - program.fUpper.get row)) 0

def violation (program : Program R n nf neg) (tolerance : R) (f : Vector R nf) : Violation R :=
  program.rows.foldl
    (fun total row =>
      let amount := rowViolation program f row
      let most := Arith.maximum total.most amount
      if tolerance < amount then ⟨most, total.count + 1, total.sum + amount⟩
      else { total with most })
    ⟨0, 0, 0⟩

/-- The objective is below the value at which it counts as unbounded. -/
def isUnbounded (program : Program R n nf neg) (limit : R) (f : Vector R nf) : Bool :=
  f.get program.objective < -limit

end NonlinearProgram.AugmentedLagrangian
