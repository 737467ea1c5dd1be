import NonlinearProgram.Proofs.AugmentedLagrangian.MajorIteration

/-!
# Trials

Between two calls of the callback a solve stands at a point with its evaluator. All it does to
either is to try points of the box, and `Trial` lists what can come of a trial. A solve of an
accepted call evaluates the starting point and goes on by trials, `Program.run_course`; only the
last trial can be one in which the callback asks to stop.
-/

namespace NonlinearProgram.AugmentedLagrangian

open Relation

variable {R : Type} [Arith R] {τ : Type} {n nf neg : Nat}

/-! ## Evaluations -/

/-- What became of an evaluation, with its value read in another way. -/
def Evaluated.map {α β : Type} (read : α → β) : Evaluated α → Evaluated β
  | defined value => .defined (read value)
  | undefined => .undefined
  | stop => .stop

namespace Evaluator

variable {evaluator after : Evaluator R τ nf neg} {callback : Callback R τ n nf neg}
variable {program : Program R n nf neg} {x : Vector R n}

theorem values_eq : evaluator.values callback program x =
    let called := evaluator.call callback x false
    (called.1.map fun _ => assembleValues program.linear x called.2.f, called.2) := by
  rw [values]
  rcases evaluator.call callback x false with ⟨_ | _ | _, after⟩ <;> rfl

theorem point_eq : evaluator.point callback program x =
    let called := evaluator.call callback x true
    (called.1.map fun _ =>
      { x
        f := assembleValues program.linear x called.2.f
        jacobian := assembleJacobian program called.2.g }, called.2) := by
  rw [point]
  rcases evaluator.call callback x true with ⟨_ | _ | _, after⟩ <;> rfl

/-- The status of the first call is used up by it. -/
theorem status_of_values {outcome : Evaluated (Vector R nf)}
    (called : evaluator.values callback program x = (outcome, after)) : after.status = 0 := by
  rw [values_eq] at called
  rw [← (Prod.mk.inj called).2]
  rfl

theorem status_of_point {outcome : Evaluated (Point R n nf)}
    (called : evaluator.point callback program x = (outcome, after)) : after.status = 0 := by
  rw [point_eq] at called
  rw [← (Prod.mk.inj called).2]
  rfl

end Evaluator

/-! ## The steps of a solve -/

/-- Where a solve stands between two calls. -/
abbrev Standing (R τ : Type) (n nf neg : Nat) := Point R n nf × Evaluator R τ nf neg

/-- A trial of a point of the box. The point moves only if the values and then the derivatives are
defined there. -/
inductive Trial (program : Program R n nf neg) (callback : Callback R τ n nf neg) :
    Standing R τ n nf neg → Standing R τ n nf neg → Prop where
  | undefined {point before after} (move : Vector R n)
      (values : before.values callback program (project program move) = (.undefined, after)) :
      Trial program callback (point, before) (point, after)
  | refused {point before after f} (move : Vector R n)
      (values : before.values callback program (project program move) = (.defined f, after)) :
      Trial program callback (point, before) (point, after)
  | underivable {point before between after f} (move : Vector R n)
      (values : before.values callback program (project program move) = (.defined f, between))
      (derivatives : between.point callback program (project program move) =
        (.undefined, after)) :
      Trial program callback (point, before) (point, after)
  | accepted {point next before between after f} (move : Vector R n)
      (values : before.values callback program (project program move) = (.defined f, between))
      (derivatives : between.point callback program (project program move) =
        (.defined next, after)) :
      Trial program callback (point, before) (next, after)

/-- A trial in which the callback asks to stop. -/
inductive Stop (program : Program R n nf neg) (callback : Callback R τ n nf neg) :
    Evaluator R τ nf neg → Evaluator R τ nf neg → Prop where
  | values {before after} (move : Vector R n)
      (values : before.values callback program (project program move) = (.stop, after)) :
      Stop program callback before after
  | derivatives {before between after f} (move : Vector R n)
      (values : before.values callback program (project program move) = (.defined f, between))
      (derivatives : between.point callback program (project program move) = (.stop, after)) :
      Stop program callback before after

/-- A trial leaves the evaluator with the status of a later evaluation. -/
theorem Trial.status_eq_zero {program : Program R n nf neg} {callback : Callback R τ n nf neg}
    {start finish : Standing R τ n nf neg} (trial : Trial program callback start finish) :
    finish.2.status = 0 := by
  cases trial with
  | undefined _ values => exact Evaluator.status_of_values values
  | refused _ values => exact Evaluator.status_of_values values
  | underivable _ _ derivatives => exact Evaluator.status_of_point derivatives
  | accepted _ _ derivatives => exact Evaluator.status_of_point derivatives

/-- What a trial preserves is preserved by trials one after the other. -/
theorem trials_preserve {program : Program R n nf neg} {callback : Callback R τ n nf neg}
    (Holds : Standing R τ n nf neg → Prop)
    (step : ∀ {start finish}, Trial program callback start finish → Holds start → Holds finish)
    {start finish : Standing R τ n nf neg}
    (trials : ReflTransGen (Trial program callback) start finish) (holds : Holds start) :
    Holds finish := by
  induction trials with
  | refl => exact holds
  | tail _ trial ih => exact step trial ih

theorem status_lt_two_of_trials {program : Program R n nf neg} {callback : Callback R τ n nf neg}
    {start finish : Standing R τ n nf neg}
    (trials : ReflTransGen (Trial program callback) start finish)
    (evaluating : start.2.status < 2) : finish.2.status < 2 := by
  refine trials_preserve (·.2.status < 2) (fun trial _ => ?_) trials evaluating
  rw [trial.status_eq_zero]
  decide

/-- Trials one after the other, with or without a stop at the end. -/
inductive Course (program : Program R n nf neg) (callback : Callback R τ n nf neg) :
    Bool → Standing R τ n nf neg → Standing R τ n nf neg → Prop where
  | running {start finish} (trials : ReflTransGen (Trial program callback) start finish) :
      Course program callback false start finish
  | stopped {start point between after}
      (trials : ReflTransGen (Trial program callback) start (point, between))
      (stop : Stop program callback between after) :
      Course program callback true start (point, after)

namespace Course

variable {program : Program R n nf neg} {callback : Callback R τ n nf neg} {isStopped : Bool}
variable {start middle finish : Standing R τ n nf neg}

theorem refl (standing : Standing R τ n nf neg) : Course program callback false standing standing :=
  .running .refl

theorem after (trials : ReflTransGen (Trial program callback) start middle)
    (course : Course program callback isStopped middle finish) :
    Course program callback isStopped start finish := by
  cases course with
  | running later => exact .running (trials.trans later)
  | stopped later stop => exact .stopped (trials.trans later) stop

/-- What trials preserve, and an evaluation that is stopped as well, is preserved by a course. -/
theorem preserve (course : Course program callback isStopped start finish)
    (Holds : Standing R τ n nf neg → Prop)
    (step : ∀ {start finish}, Trial program callback start finish → Holds start → Holds finish)
    (stopping : ∀ {point before after}, Stop program callback before after →
      Holds (point, before) → Holds (point, after))
    (holds : Holds start) : Holds finish := by
  cases course with
  | running trials => exact trials_preserve Holds step trials holds
  | stopped trials stop => exact stopping stop (trials_preserve Holds step trials holds)

theorem afterTrial (trial : Trial program callback start middle)
    (course : Course program callback isStopped middle finish) :
    Course program callback isStopped start finish :=
  course.after (.single trial)

theorem trials (course : Course program callback false start finish) :
    ReflTransGen (Trial program callback) start finish := by
  cases course with
  | running trials => exact trials

end Course

/-! ## The search for a step -/

/-- The callback asked to stop. -/
def StepSearch.isStopped : StepSearch R n nf → Bool
  | accepted _ _ | refused _ => false
  | stopped => true

/-- The point after the search for a step from a given one. -/
def StepSearch.reached (point : Point R n nf) : StepSearch R n nf → Point R n nf
  | accepted next _ => next
  | refused _ | stopped => point

/-- The search for a step consists of trials. -/
theorem searchStep_course (inner : InnerProblem R τ n nf neg) (point : Point R n nf)
    (gradient : Vector R n) (merit : R) (tries : Nat) (length : R) (undefined : Bool)
    (before : Evaluator R τ nf neg) :
    let search := searchStep inner point gradient merit tries length undefined before
    Course inner.program inner.callback search.1.isStopped (point, before)
      (search.1.reached point, search.2) := by
  induction tries generalizing length undefined before with
  | zero => exact .refl _
  | succ tries ih =>
      simp only [searchStep]
      split
      case isTrue => exact .refl _
      case isFalse =>
        split
        case h_1 after values => exact .stopped .refl (.values _ values)
        case h_2 after values => exact (ih _ _ _).afterTrial (.undefined _ values)
        case h_3 f between values =>
          split
          case isTrue =>
            split
            case h_1 after derivatives => exact .stopped .refl (.derivatives _ values derivatives)
            case h_2 after derivatives =>
              exact (ih _ _ _).afterTrial (.underivable _ values derivatives)
            case h_3 next after derivatives =>
              exact .running (.single (.accepted _ values derivatives))
          case isFalse => exact (ih _ _ _).afterTrial (.refused _ values)

/-! ## Inner solves and major iterations -/

/-- An inner solve consists of trials. -/
theorem descend_course (inner : InnerProblem R τ n nf neg) (remaining : Nat) (point : Point R n nf)
    (gradient : Vector R n) (length : R) (before : Evaluator R τ nf neg) :
    let descent := descend inner remaining point gradient length before
    Course inner.program inner.callback (descent.1.exit = .stop) (point, before)
      (descent.1.point, descent.2) := by
  induction remaining generalizing point gradient length before with
  | zero =>
      simp only [descend]
      split <;> exact .refl _
  | succ left ih =>
      simp only [descend]
      split
      case isTrue => exact .refl _
      case isFalse =>
        have search := searchStep_course inner point gradient
          (merit inner.program inner.multipliers point.f) maxTries length false before
        split
        case h_1 after outcome =>
          rw [outcome] at search
          exact search
        case h_2 after outcome =>
          rw [outcome] at search
          exact search
        case h_3 after outcome =>
          rw [outcome] at search
          exact search
        case h_4 next taken after outcome =>
          rw [outcome] at search
          split
          case isTrue => exact search
          case isFalse => exact (ih _ _ _ _).after search.trials

theorem solve_course (inner : InnerProblem R τ n nf neg) (remaining : Nat) (point : Point R n nf)
    (before : Evaluator R τ nf neg) :
    let solved := inner.solve remaining point before
    Course inner.program inner.callback (solved.1.exit = .stop) (point, before)
      (solved.1.point, solved.2) :=
  descend_course inner remaining point _ _ before

/-- An inner solve that lets the solve go on has not been stopped. -/
theorem InnerEnding.ne_stop_of_finish?_eq_none {exit : InnerEnding} (goesOn : exit.finish? = none) :
    exit ≠ .stop := by
  rintro rfl
  cases goesOn

theorem InnerEnding.finish?_eq_userStop_iff {exit : InnerEnding} {finish : Finish}
    (ends : exit.finish? = some finish) : finish = .userStop ↔ exit = .stop := by
  cases exit <;> cases ends <;> simp

theorem Assessment.finish?_ne_userStop {assessment : Assessment R} {settings : Settings R}
    {stalls : Nat} {finish : Finish} (ends : assessment.finish? settings stalls = some finish) :
    finish ≠ .userStop := by
  rintro rfl
  rw [Assessment.finish?] at ends
  split at ends
  case isTrue => cases ends
  case isFalse =>
    split at ends
    case isTrue => split at ends <;> cases ends
    case isFalse => cases ends

/-- Major iterations consist of trials. -/
theorem iterate_course (settings : Settings R) (program : Program R n nf neg)
    (callback : Callback R τ n nf neg) (left : Nat) (previous : R) (stalls : Nat)
    (progress : Progress R n nf) (before : Evaluator R τ nf neg) :
    let run := iterate settings program callback left previous stalls progress before
    Course program callback (run.1 = .userStop) (progress.point, before)
      (run.2.1.point, run.2.2) := by
  induction left generalizing previous stalls progress before with
  | zero => exact .refl _
  | succ left ih =>
      rcases solved : (progress.inner settings program callback).solve progress.remaining
        progress.point before with ⟨result, after⟩
      have course := solve_course (progress.inner settings program callback) progress.remaining
        progress.point before
      rw [solved] at course
      intro run
      rcases iterate_succ_cases solved left previous stalls with
        ⟨finish, ends, outcome⟩ | ⟨goesOn, outcome⟩
      · rw [show run = _ from outcome,
          decide_eq_decide.2 (InnerEnding.finish?_eq_userStop_iff ends)]
        exact course
      · have notStopped : decide (result.exit = .stop) = false :=
          decide_eq_false (InnerEnding.ne_stop_of_finish?_eq_none goesOn)
        simp only [notStopped] at course
        rcases outcome with ⟨finish, ends, outcome⟩ | ⟨_, outcome⟩ | outcome
        · rw [show run = _ from outcome, decide_eq_false (Assessment.finish?_ne_userStop ends)]
          exact course
        · rw [show run = _ from outcome]
          exact course
        · rw [show run = _ from outcome]
          exact (ih _ _ _ _).after course.trials

/-- After a starting point at which the callback is defined, a solve consists of trials. -/
theorem Program.run_course {settings : Settings R} {program : Program R n nf neg}
    {callback : Callback R τ n nf neg} {state : τ} {point : Point R n nf}
    {before : Evaluator R τ nf neg}
    (started : (Evaluator.fresh state).point callback program (project program program.start) =
      (.defined point, before)) :
    let run := program.run settings callback state
    Course program callback (run.1 = .userStop) (point, before) (run.2.1.point, run.2.2) := by
  intro run
  have stages : run = _ := run_of_defined started
  rw [stages]
  split
  case isTrue => exact .refl _
  case isFalse => exact iterate_course settings program callback _ _ _ _ before

end NonlinearProgram.AugmentedLagrangian
