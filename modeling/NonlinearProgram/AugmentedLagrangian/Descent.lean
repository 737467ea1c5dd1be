import NonlinearProgram.AugmentedLagrangian.Merit

/-!
# Inner solves

An inner solve lowers the merit over the box of the variables. Each step projects a move against the
gradient, halves it until the merit decreases enough, and takes the length of the next move from the
change of the gradient. Points at which the problem is undefined are backed away from.

At most forty halvings are tried for one step, and the number of steps is limited for the solve as a
whole; `descend` recurses on the steps that are left.
-/

namespace NonlinearProgram.AugmentedLagrangian

/-- Part of the predicted decrease that a step has to reach. -/
def sufficientDecrease {R : Type} [Arith R] : R := 1.0e-4

def maxTries : Nat := 40

def minStep {R : Type} [Arith R] : R := 1.0e-12

def maxStep {R : Type} [Arith R] : R := 1.0e12

/-- What every step of one inner solve shares. -/
structure InnerProblem (R τ : Type) (n nf neg : Nat) where
  program : Program R n nf neg
  callback : Callback R τ n nf neg
  multipliers : Multipliers R nf
  unboundedObjective : R
  tolerance : R

inductive StepSearch (R : Type) (n nf : Nat) where
  | accepted (point : Point R n nf) (length : R)
  /-- No such point; whether the problem was undefined somewhere. -/
  | refused (undefined : Bool)
  | stopped

inductive InnerEnding where
  | converged
  | stalled
  | iterationLimit
  | undefined
  | stop
  | unbounded
  deriving DecidableEq, Repr

structure InnerResult (R : Type) (n nf : Nat) where
  exit : InnerEnding
  point : Point R n nf
  remaining : Nat

variable {R : Type} [Arith R] {τ : Type} {n nf neg : Nat}

/-- Point reached by a move of a given length. -/
def trialPoint (program : Program R n nf neg) (x gradient : Vector R n) (length : R) :
    Vector R n :=
  project program (x.zipWith (fun x slope => x - slope * length) gradient)

/-- Tries a move and its halves, as often as `tries` says. `merit` is the merit of the
point left. -/
def searchStep (inner : InnerProblem R τ n nf neg) (point : Point R n nf) (gradient : Vector R n)
    (merit : R) :
    Nat → R → Bool → Evaluator R τ nf neg → StepSearch R n nf × Evaluator R τ nf neg
  | 0, _, undefined, evaluator => (.refused undefined, evaluator)
  | tries + 1, length, undefined, evaluator =>
      let trial := trialPoint inner.program point.x gradient length
      let direction := difference trial point.x
      if largest direction ≤ 0 then (.refused undefined, evaluator)
      else
        let retry := searchStep inner point gradient merit tries (length * 0.5)
        match evaluator.values inner.callback inner.program trial with
        | (.stop, evaluator) => (.stopped, evaluator)
        | (.undefined, evaluator) => retry true evaluator
        | (.defined f, evaluator) =>
          if AugmentedLagrangian.merit inner.program inner.multipliers f ≤
              merit + sufficientDecrease * dot gradient direction then
            match evaluator.point inner.callback inner.program trial with
            | (.stop, evaluator) => (.stopped, evaluator)
            | (.undefined, evaluator) => retry true evaluator
            | (.defined point, evaluator) => (.accepted point length, evaluator)
          else retry undefined evaluator

/-- Length of the next move, from the changes of the point and of the gradient; twice the last move
when they do not point the same way. -/
def nextLength (moved changed : Vector R n) (length : R) : R :=
  let curvature := dot moved changed
  if 0 < curvature then Arith.clamp (dot moved moved / curvature) minStep maxStep
  else Arith.minimum (2.0 * length) maxStep

/-- Takes steps until the projected gradient is small, recursing on the steps that are left. -/
def descend (inner : InnerProblem R τ n nf neg) (remaining : Nat) (point : Point R n nf)
    (gradient : Vector R n) (length : R) (evaluator : Evaluator R τ nf neg) :
    InnerResult R n nf × Evaluator R τ nf neg :=
  if projectedStepSize inner.program point.x gradient ≤ inner.tolerance then
    (⟨.converged, point, remaining⟩, evaluator)
  else
    match remaining with
    | 0 => (⟨.iterationLimit, point, 0⟩, evaluator)
    | left + 1 =>
      let before := merit inner.program inner.multipliers point.f
      match searchStep inner point gradient before maxTries length false evaluator with
      | (.stopped, evaluator) => (⟨.stop, point, left + 1⟩, evaluator)
      | (.refused true, evaluator) => (⟨.undefined, point, left + 1⟩, evaluator)
      | (.refused false, evaluator) => (⟨.stalled, point, left + 1⟩, evaluator)
      | (.accepted trial length, evaluator) =>
        if isUnbounded inner.program inner.unboundedObjective trial.f then
          (⟨.unbounded, trial, left⟩, evaluator)
        else
          let trialGradient := gradientOfMerit inner.program inner.multipliers trial
          descend inner left trial trialGradient
            (nextLength (difference trial.x point.x) (difference trialGradient gradient) length)
            evaluator

/-- An inner solve from a point. The first move is scaled to the gradient. -/
def InnerProblem.solve (inner : InnerProblem R τ n nf neg) (remaining : Nat)
    (point : Point R n nf) (evaluator : Evaluator R τ nf neg) :
    InnerResult R n nf × Evaluator R τ nf neg :=
  let gradient := gradientOfMerit inner.program inner.multipliers point
  descend inner remaining point gradient (1 / Arith.maximum (largest gradient) 1) evaluator

end NonlinearProgram.AugmentedLagrangian
