import NonlinearProgram.Proofs.AugmentedLagrangian.Trials

/-!
# The steps of an inner solve

Between two steps an inner solve stands at a point with the gradient of the merit there, the length
of the next move, and an evaluator. `Step` is one accepted step, and `descend_steps` says that an
inner solve is a sequence of them, at the end of which it has converged or does not go on. The
gradient always is that of the point, `hasGradient_of_steps`.
-/

namespace NonlinearProgram.AugmentedLagrangian

open Relation

variable {R : Type} [Arith R] {τ : Type} {n nf neg : Nat}

/-! ## The search for a step -/

/-- Half of a length. -/
def halve (length : R) : R := length * 0.5

/-- A move that is accepted: the values at its end, asked for before the derivatives, decrease the
merit enough. -/
inductive Accepts (inner : InnerProblem R τ n nf neg) (x gradient : Vector R n) (merit length : R) :
    Point R n nf → Evaluator R τ nf neg → Prop where
  | intro {asked between after : Evaluator R τ nf neg} {f : Vector R nf} {next : Point R n nf}
      (values : asked.values inner.callback inner.program
        (trialPoint inner.program x gradient length) = (.defined f, between))
      (decreases : AugmentedLagrangian.merit inner.program inner.multipliers f ≤
        merit + sufficientDecrease *
          dot gradient (difference (trialPoint inner.program x gradient length) x))
      (derivatives : between.point inner.callback inner.program
        (trialPoint inner.program x gradient length) = (.defined next, after)) :
      Accepts inner x gradient merit length next after

/-- The move of an accepted step is the first one tried, halved some times. -/
theorem searchStep_accepted {inner : InnerProblem R τ n nf neg} {point : Point R n nf}
    {gradient : Vector R n} {merit : R} {tries : Nat} {length : R} {undefined : Bool}
    {before after : Evaluator R τ nf neg} {next : Point R n nf} {taken : R}
    (found : searchStep inner point gradient merit tries length undefined before =
      (.accepted next taken, after)) :
    (∃ k < tries, taken = halve^[k] length) ∧
      Accepts inner point.x gradient merit taken next after := by
  induction tries generalizing length undefined before with
  | zero => cases found
  | succ tries ih =>
      have later {undefined : Bool} {between : Evaluator R τ nf neg}
          (retried : searchStep inner point gradient merit tries (halve length) undefined between =
            (.accepted next taken, after)) :
          (∃ k < tries + 1, taken = halve^[k] length) ∧
            Accepts inner point.x gradient merit taken next after := by
        obtain ⟨⟨k, inside, shorter⟩, accepts⟩ := ih retried
        exact ⟨⟨k + 1, Nat.succ_lt_succ inside, shorter⟩, accepts⟩
      -- Any try but an accepted one goes on with half of the length.
      simp only [searchStep] at found
      split at found
      case isTrue => cases found
      case isFalse =>
        split at found
        case h_1 => cases found
        case h_2 => exact later found
        case h_3 f between values =>
          split at found
          case isTrue decreases =>
            split at found
            case h_1 => cases found
            case h_2 => exact later found
            case h_3 derivatives =>
              cases found
              exact ⟨⟨0, tries.succ_pos, rfl⟩, .intro values decreases derivatives⟩
          case isFalse => exact later found

/-! ## Steps -/

/-- Where an inner solve stands between two steps. -/
structure Descent (R τ : Type) (n nf neg : Nat) where
  /-- Current point. -/
  point : Point R n nf
  /-- Gradient that is used at it. -/
  gradient : Vector R n
  /-- Length of the next move. -/
  length : R
  /-- Steps that are left. -/
  remaining : Nat
  /-- Evaluator. -/
  evaluator : Evaluator R τ nf neg

/-- The start of an inner solve. -/
def InnerProblem.start (inner : InnerProblem R τ n nf neg) (remaining : Nat) (point : Point R n nf)
    (evaluator : Evaluator R τ nf neg) : Descent R τ n nf neg where
  point
  gradient := gradientOfMerit inner.program inner.multipliers point
  length := 1 / Arith.maximum (largest (gradientOfMerit inner.program inner.multipliers point)) 1
  remaining
  evaluator

namespace Descent

/-- The test for convergence is passed. -/
def IsConverged (inner : InnerProblem R τ n nf neg) (descent : Descent R τ n nf neg) : Prop :=
  projectedStepSize inner.program descent.point.x descent.gradient ≤ inner.tolerance

/-- The gradient is that of the merit at the current point. -/
def HasGradient (inner : InnerProblem R τ n nf neg) (descent : Descent R τ n nf neg) : Prop :=
  descent.gradient = gradientOfMerit inner.program inner.multipliers descent.point

/-- The merit of the current point. -/
def merit (inner : InnerProblem R τ n nf neg) (descent : Descent R τ n nf neg) : R :=
  AugmentedLagrangian.merit inner.program inner.multipliers descent.point.f

/-- The search for the next step. -/
def search (inner : InnerProblem R τ n nf neg) (descent : Descent R τ n nf neg) :
    StepSearch R n nf × Evaluator R τ nf neg :=
  searchStep inner descent.point descent.gradient (descent.merit inner) maxTries descent.length
    false descent.evaluator

/-- Where a step to a point leads. -/
def next (inner : InnerProblem R τ n nf neg) (descent : Descent R τ n nf neg) (left : Nat)
    (point : Point R n nf) (length : R) (evaluator : Evaluator R τ nf neg) :
    Descent R τ n nf neg where
  point
  gradient := gradientOfMerit inner.program inner.multipliers point
  length :=
    nextLength (difference point.x descent.point.x)
      (difference (gradientOfMerit inner.program inner.multipliers point) descent.gradient) length
  remaining := left
  evaluator

end Descent

/-- One accepted step. It is taken also to a point with an unbounded objective, where the inner
solve ends. -/
inductive Step (inner : InnerProblem R τ n nf neg) :
    Descent R τ n nf neg → Descent R τ n nf neg → Prop where
  | accepted {descent left point length after} (goesOn : ¬descent.IsConverged inner)
      (some : descent.remaining = left + 1)
      (found : descent.search inner = (.accepted point length, after)) :
      Step inner descent (descent.next inner left point length after)

/-- Steps one after the other. -/
abbrev Steps (inner : InnerProblem R τ n nf neg) :
    Descent R τ n nf neg → Descent R τ n nf neg → Prop :=
  ReflTransGen (Step inner)

/-- The rest of an inner solve is a sequence of steps. -/
theorem descend_steps (inner : InnerProblem R τ n nf neg) (remaining : Nat) (point : Point R n nf)
    (gradient : Vector R n) (length : R) (evaluator : Evaluator R τ nf neg) :
    let result := (descend inner remaining point gradient length evaluator).1
    ∃ last, Steps inner ⟨point, gradient, length, remaining, evaluator⟩ last ∧
      last.point = result.point ∧ last.remaining = result.remaining ∧
        (result.exit = .converged → last.IsConverged inner) := by
  induction remaining generalizing point gradient length evaluator with
  | zero =>
      simp only [descend]
      split
      case isTrue small => exact ⟨_, .refl, rfl, rfl, fun _ => small⟩
      case isFalse => exact ⟨_, .refl, rfl, rfl, by simp⟩
  | succ left ih =>
      simp only [descend]
      split
      case isTrue small => exact ⟨_, .refl, rfl, rfl, fun _ => small⟩
      case isFalse goesOn =>
        split
        case h_1 => exact ⟨_, .refl, rfl, rfl, by simp⟩
        case h_2 => exact ⟨_, .refl, rfl, rfl, by simp⟩
        case h_3 => exact ⟨_, .refl, rfl, rfl, by simp⟩
        case h_4 next taken after found =>
          have step : Step inner ⟨point, gradient, length, left + 1, evaluator⟩ _ :=
            .accepted goesOn rfl found
          split
          case isTrue => exact ⟨_, .single step, rfl, rfl, by simp⟩
          case isFalse =>
            obtain ⟨last, steps, ends⟩ := ih next _ _ after
            exact ⟨last, .head step steps, ends⟩

/-- An inner solve is a sequence of steps, and if it converges, the test is passed at the last. -/
theorem solve_steps (inner : InnerProblem R τ n nf neg) (remaining : Nat) (point : Point R n nf)
    (evaluator : Evaluator R τ nf neg) :
    let result := (inner.solve remaining point evaluator).1
    ∃ last, Steps inner (inner.start remaining point evaluator) last ∧
      last.point = result.point ∧ last.remaining = result.remaining ∧
        (result.exit = .converged → last.IsConverged inner) :=
  descend_steps inner remaining point _ _ evaluator

theorem start_hasGradient (inner : InnerProblem R τ n nf neg) (remaining : Nat)
    (point : Point R n nf) (evaluator : Evaluator R τ nf neg) :
    (inner.start remaining point evaluator).HasGradient inner := rfl

theorem Step.hasGradient {inner : InnerProblem R τ n nf neg} {before after : Descent R τ n nf neg}
    (step : Step inner before after) : after.HasGradient inner := by
  cases step with
  | accepted => rfl

/-- The gradient that is used is that of the current point. -/
theorem hasGradient_of_steps {inner : InnerProblem R τ n nf neg}
    {start finish : Descent R τ n nf neg} (steps : Steps inner start finish)
    (known : start.HasGradient inner) : finish.HasGradient inner := by
  induction steps with
  | refl => exact known
  | tail _ step => exact step.hasGradient

end NonlinearProgram.AugmentedLagrangian
