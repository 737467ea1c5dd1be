import NonlinearProgram.AugmentedLagrangian.Descent
import NonlinearProgram.AugmentedLagrangian.Log
import NonlinearProgram.AugmentedLagrangian.Settings

/-!
# Major iterations

A solve evaluates the starting point and then alternates inner solves with multiplier updates. It
ends when the point is feasible and stationary, when inner solves stall twice in a row, when the
penalty grows too large, when a limit is reached, or when an inner solve cannot go on.

The tolerance of the inner solves shrinks tenfold from one major iteration to the next, down to the
optimality tolerance; a solve that resumes uses the latter throughout.
-/

namespace NonlinearProgram.AugmentedLagrangian

def penaltyLimit {R : Type} [Arith R] : R := 1.0e10

def penaltyFactor {R : Type} [Arith R] : R := 10.0

/-- Violations have to shrink by this factor, or the penalty grows. -/
def requiredProgress {R : Type} [Arith R] : R := 0.25

/-- How a solve of an accepted call ends. -/
inductive Finish where
  | optimal
  | accuracyNotAchieved
  | infeasible
  | unbounded
  | iterationLimit
  | majorIterationLimit
  | cannotImprove
  | undefinedAtStart
  | undefinedRegion
  | userStop
  deriving DecidableEq, Repr

def Finish.code : Finish → Int
  | optimal => 1
  | accuracyNotAchieved => 3
  | infeasible => 13
  | unbounded => 21
  | iterationLimit => 31
  | majorIterationLimit => 32
  | cannotImprove => 41
  | undefinedAtStart => 62
  | undefinedRegion => 63
  | userStop => 71

/-- What ends a solve together with an inner solve. -/
def InnerEnding.finish? : InnerEnding → Option Finish
  | .stop => some .userStop
  | .undefined => some .undefinedRegion
  | .iterationLimit => some .iterationLimit
  | .unbounded => some .unbounded
  | .converged | .stalled => none

structure Progress (R : Type) (n nf : Nat) where
  point : Point R n nf
  multipliers : Multipliers R nf
  remaining : Nat
  major : Nat
  /-- Major iterations that have been printed. -/
  log : List (Line R)

variable {R : Type} [Arith R] {τ : Type} {n nf neg : Nat}

/-- Tolerance of the inner solve of a major iteration. -/
def innerTolerance (settings : Settings R) (program : Program R n nf neg) (major : Nat) : R :=
  if program.multipliers?.isSome then settings.optimalityTolerance
  else Arith.maximum settings.optimalityTolerance (Arith.power 0.1 major)

/-- What a major iteration finds after its multiplier update. -/
structure Assessment (R : Type) where
  feasibility : R
  optimality : R

def assess (settings : Settings R) (program : Program R n nf neg)
    (multipliers : Multipliers R nf) (point : Point R n nf) : Assessment R where
  feasibility := (violation program settings.feasibilityTolerance point.f).most
  optimality := projectedStepSize program point.x
    (reducedGradient program multipliers.lambda point.jacobian)

/-- Ends the solve at an optimal point, or at the second stall in a row. -/
def Assessment.finish? (assessment : Assessment R) (settings : Settings R) (stalls : Nat) :
    Option Finish :=
  if assessment.feasibility ≤ settings.feasibilityTolerance ∧
      assessment.optimality ≤ settings.optimalityTolerance then some .optimal
  else if 2 ≤ stalls then
    if assessment.feasibility ≤ settings.feasibilityTolerance then some .accuracyNotAchieved
    else some .cannotImprove
  else none

/-- The violation is too large and has not shrunk enough, so that the penalty has to grow. -/
def Assessment.isTooSlow (assessment : Assessment R) (settings : Settings R) (previous : R) :
    Bool :=
  decide (settings.feasibilityTolerance < assessment.feasibility) &&
    decide (requiredProgress * previous < assessment.feasibility)

/-- Major iterations, recursing on those that are left. `previous` is the violation after the last
one, and `stalls` the number of inner solves that have stalled in a row. -/
def iterate (settings : Settings R) (program : Program R n nf neg)
    (callback : Callback R τ n nf neg) :
    Nat → R → Nat → Progress R n nf → Evaluator R τ nf neg →
      Finish × Progress R n nf × Evaluator R τ nf neg
  | 0, _, _, progress, evaluator => (.majorIterationLimit, progress, evaluator)
  | left + 1, previous, stalls, progress, evaluator =>
      let major := progress.major + 1
      let inner : InnerProblem R τ n nf neg :=
        { program, callback, multipliers := progress.multipliers
          unboundedObjective := settings.unboundedObjective
          tolerance := innerTolerance settings program major }
      let (result, evaluator) := inner.solve progress.remaining progress.point evaluator
      let progress :=
        { progress with point := result.point, remaining := result.remaining, major }
      match result.exit.finish? with
      | some finish => (finish, progress, evaluator)
      | none =>
        let point := progress.point
        let multipliers := progress.multipliers.update program point.f
        let assessment := assess settings program multipliers point
        let line : Line R := .major major (settings.iterationsLimit - progress.remaining)
          (point.f.get program.objective) assessment.feasibility assessment.optimality
          multipliers.penalty
        let log := if 0 < settings.printLevel then progress.log ++ [line] else progress.log
        let stalls := if result.exit = .stalled then stalls + 1 else 0
        match assessment.finish? settings stalls with
        | some finish => (finish, { progress with multipliers, log }, evaluator)
        | none =>
          let grows := assessment.isTooSlow settings previous
          let penalty :=
            if grows then multipliers.penalty * penaltyFactor else multipliers.penalty
          let progress := { progress with multipliers := { multipliers with penalty }, log }
          -- A penalty that was set above the limit is kept until it would have to grow.
          if grows && decide (penaltyLimit < penalty) then (.infeasible, progress, evaluator)
          else
            iterate settings program callback left assessment.feasibility stalls progress evaluator

/-- Multipliers a solve begins with: those handed in if it resumes, else zero. -/
def initialMultipliers (settings : Settings R) (program : Program R n nf neg) :
    Multipliers R nf where
  lambda :=
    match program.multipliers? with
    | some lambda => lambda.set program.objective 0 program.objective.isLt
    | none => .replicate nf 0
  penalty := settings.penalty

/-- A solve of an accepted call: evaluates the starting point, projected into the box, and
iterates. -/
def Program.run (program : Program R n nf neg) (settings : Settings R)
    (callback : Callback R τ n nf neg) (state : τ) :
    Finish × Progress R n nf × Evaluator R τ nf neg :=
  let x := project program program.start
  let unread : Point R n nf := ⟨x, program.values, .replicate n (.replicate nf 0)⟩
  let progress (point : Point R n nf) (log : List (Line R)) : Progress R n nf :=
    { point, multipliers := initialMultipliers settings program
      remaining := settings.iterationsLimit, major := 0, log }
  match (Evaluator.fresh state).point callback program x with
  | (.stop, evaluator) => (.userStop, progress unread [], evaluator)
  | (.undefined, evaluator) => (.undefinedAtStart, progress unread [], evaluator)
  | (.defined point, evaluator) =>
    if isUnbounded program settings.unboundedObjective point.f then
      (.unbounded, progress point [], evaluator)
    else
      let log := if 0 < settings.printLevel then [.majorHeading] else []
      iterate settings program callback settings.majorIterationsLimit Arith.infinity 0
        (progress point log) evaluator

end NonlinearProgram.AugmentedLagrangian
