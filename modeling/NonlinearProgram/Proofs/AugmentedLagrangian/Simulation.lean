import NonlinearProgram.Proofs.AugmentedLagrangian.AcceptedCall
import NonlinearProgram.Proofs.AugmentedLagrangian.Trials

/-!
# Callbacks a solve cannot tell apart

A solve hands the state of its callback from call to call and never looks at it. If two callbacks
answer alike, the state of one being a view of the state of the other, their solves are alike,
`runCall_of_answersLike`. What they make of the last notification matters only for the states they
are left in, `callbackState_of_answersLike`.
-/

namespace NonlinearProgram

/-- Two callbacks that answer every evaluation alike, the second with a view of the state of the
first. -/
def Callback.AnswersLike {R τ τ' : Type} {n nf neg : Nat} (view : τ' → τ)
    (callback' : Callback R τ' n nf neg) (callback : Callback R τ n nf neg) : Prop :=
  ∀ request f g state, request.status < 2 →
    callback request f g (view state) =
      ((callback' request f g state).1, view (callback' request f g state).2)

namespace AugmentedLagrangian

variable {R τ τ' : Type} {n nf neg : Nat}

/-- An evaluator with a view of the state of its callback. -/
def Evaluator.seen (evaluator : Evaluator R τ' nf neg) (view : τ' → τ) : Evaluator R τ nf neg :=
  { evaluator with state := view evaluator.state }

/-- An inner problem with another callback. -/
def InnerProblem.withCallback (inner : InnerProblem R τ' n nf neg)
    (callback : Callback R τ n nf neg) : InnerProblem R τ n nf neg :=
  { inner with callback }

@[simp] theorem withCallback_program (inner : InnerProblem R τ' n nf neg)
    (callback : Callback R τ n nf neg) : (inner.withCallback callback).program = inner.program :=
  rfl

@[simp] theorem withCallback_callback (inner : InnerProblem R τ' n nf neg)
    (callback : Callback R τ n nf neg) : (inner.withCallback callback).callback = callback :=
  rfl

@[simp] theorem withCallback_multipliers (inner : InnerProblem R τ' n nf neg)
    (callback : Callback R τ n nf neg) :
    (inner.withCallback callback).multipliers = inner.multipliers :=
  rfl

@[simp] theorem withCallback_tolerance (inner : InnerProblem R τ' n nf neg)
    (callback : Callback R τ n nf neg) :
    (inner.withCallback callback).tolerance = inner.tolerance :=
  rfl

@[simp] theorem withCallback_unboundedObjective (inner : InnerProblem R τ' n nf neg)
    (callback : Callback R τ n nf neg) :
    (inner.withCallback callback).unboundedObjective = inner.unboundedObjective :=
  rfl

variable [Arith R]

section Alike

variable {view : τ' → τ} {callback' : Callback R τ' n nf neg} {callback : Callback R τ n nf neg}

/-! ## Evaluations -/

theorem call_seen (alike : callback'.AnswersLike view callback) {evaluator : Evaluator R τ' nf neg}
    (evaluating : evaluator.status < 2) (x : Vector R n) (needDerivatives : Bool) :
    (evaluator.seen view).call callback x needDerivatives =
      let called := evaluator.call callback' x needDerivatives
      (called.1, called.2.seen view) := by
  simp only [Evaluator.call, Evaluator.seen]
  rw [alike _ _ _ _ evaluating]
  rfl

theorem values_seen (alike : callback'.AnswersLike view callback)
    {evaluator : Evaluator R τ' nf neg} (evaluating : evaluator.status < 2)
    (program : Program R n nf neg) (x : Vector R n) :
    (evaluator.seen view).values callback program x =
      let called := evaluator.values callback' program x
      (called.1, called.2.seen view) := by
  rw [Evaluator.values_eq, Evaluator.values_eq, call_seen alike evaluating]
  rfl

theorem point_seen (alike : callback'.AnswersLike view callback)
    {evaluator : Evaluator R τ' nf neg} (evaluating : evaluator.status < 2)
    (program : Program R n nf neg) (x : Vector R n) :
    (evaluator.seen view).point callback program x =
      let called := evaluator.point callback' program x
      (called.1, called.2.seen view) := by
  rw [Evaluator.point_eq, Evaluator.point_eq, call_seen alike evaluating]
  rfl

/-! ## Inner solves -/

theorem searchStep_seen {inner : InnerProblem R τ' n nf neg}
    (alike : inner.callback.AnswersLike view callback) (point : Point R n nf)
    (gradient : Vector R n) (merit : R) (tries : Nat) (length : R) (undefined : Bool)
    {evaluator : Evaluator R τ' nf neg} (evaluating : evaluator.status < 2) :
    searchStep (inner.withCallback callback) point gradient merit tries length undefined
        (evaluator.seen view) =
      let search := searchStep inner point gradient merit tries length undefined evaluator
      (search.1, search.2.seen view) := by
  induction tries generalizing length undefined evaluator with
  | zero => rfl
  | succ tries ih =>
      dsimp +instances only [searchStep, withCallback_program, withCallback_callback,
        withCallback_multipliers]
      by_cases still :
        largest (difference (trialPoint inner.program point.x gradient length) point.x) ≤ 0
      · rw [if_pos still, if_pos still]
      · rw [if_neg still, if_neg still, values_seen alike evaluating]
        rcases values : evaluator.values inner.callback inner.program
          (trialPoint inner.program point.x gradient length) with ⟨f | _ | _, between⟩
        · have later : between.status < 2 := by
            rw [Evaluator.status_of_values values]
            decide
          dsimp only
          by_cases decreases : AugmentedLagrangian.merit inner.program inner.multipliers f ≤
            merit + sufficientDecrease *
              dot gradient (difference (trialPoint inner.program point.x gradient length) point.x)
          · rw [if_pos decreases, if_pos decreases, point_seen alike later]
            rcases derivatives : between.point inner.callback inner.program
              (trialPoint inner.program point.x gradient length) with ⟨next | _ | _, after⟩
            · rfl
            · have last : after.status < 2 := by
                rw [Evaluator.status_of_point derivatives]
                decide
              exact ih _ _ last
            · rfl
          · rw [if_neg decreases, if_neg decreases]
            exact ih _ _ later
        · have later : between.status < 2 := by
            rw [Evaluator.status_of_values values]
            decide
          exact ih _ _ later
        · rfl

theorem descend_seen {inner : InnerProblem R τ' n nf neg}
    (alike : inner.callback.AnswersLike view callback) (remaining : Nat) (point : Point R n nf)
    (gradient : Vector R n) (length : R) {evaluator : Evaluator R τ' nf neg}
    (evaluating : evaluator.status < 2) :
    descend (inner.withCallback callback) remaining point gradient length (evaluator.seen view) =
      let descent := descend inner remaining point gradient length evaluator
      (descent.1, descent.2.seen view) := by
  induction remaining generalizing point gradient length evaluator with
  | zero =>
      simp only [descend]
      by_cases small : projectedStepSize inner.program point.x gradient ≤ inner.tolerance
      · rw [if_pos small]
        exact if_pos small
      · rw [if_neg small]
        exact if_neg small
  | succ left ih =>
      have sought := searchStep_seen alike point gradient
        (merit inner.program inner.multipliers point.f) maxTries length false evaluating
      have course := searchStep_course inner point gradient
        (merit inner.program inner.multipliers point.f) maxTries length false evaluator
      dsimp +instances only [descend, withCallback_program, withCallback_multipliers,
        withCallback_tolerance, withCallback_unboundedObjective]
      by_cases small : projectedStepSize inner.program point.x gradient ≤ inner.tolerance
      · rw [if_pos small, if_pos small]
      · rw [if_neg small, if_neg small, sought]
        rcases search : searchStep inner point gradient
          (merit inner.program inner.multipliers point.f) maxTries length false evaluator
          with ⟨⟨next, taken⟩ | ⟨_ | _⟩ | _, after⟩
        · rw [search] at course
          dsimp only
          by_cases unbounded : isUnbounded inner.program inner.unboundedObjective next.f = true
          · rw [if_pos unbounded, if_pos unbounded]
          · rw [if_neg unbounded, if_neg unbounded]
            exact ih _ _ _ (status_lt_two_of_trials course.trials evaluating)
        · rfl
        · rfl
        · rfl

theorem solve_seen (inner : InnerProblem R τ' n nf neg)
    (alike : inner.callback.AnswersLike view callback) (remaining : Nat) (point : Point R n nf)
    {evaluator : Evaluator R τ' nf neg} (evaluating : evaluator.status < 2) :
    (inner.withCallback callback).solve remaining point (evaluator.seen view) =
      let solved := inner.solve remaining point evaluator
      (solved.1, solved.2.seen view) :=
  descend_seen alike remaining point _ _ evaluating

/-! ## Solves -/

theorem iterate_seen (alike : callback'.AnswersLike view callback) (settings : Settings R)
    (program : Program R n nf neg) (left : Nat) (previous : R) (stalls : Nat)
    (progress : Progress R n nf) {evaluator : Evaluator R τ' nf neg}
    (evaluating : evaluator.status < 2) :
    iterate settings program callback left previous stalls progress (evaluator.seen view) =
      let run := iterate settings program callback' left previous stalls progress evaluator
      (run.1, run.2.1, run.2.2.seen view) := by
  induction left generalizing previous stalls progress evaluator with
  | zero => rfl
  | succ left ih =>
      rcases solved : (progress.inner settings program callback').solve progress.remaining
        progress.point evaluator with ⟨result, after⟩
      have course := solve_course (progress.inner settings program callback') progress.remaining
        progress.point evaluator
      have solvedToo : (progress.inner settings program callback).solve progress.remaining
          progress.point (evaluator.seen view) = (result, after.seen view) := by
        have alikeSolved := solve_seen (progress.inner settings program callback') alike
          progress.remaining progress.point evaluating
        rw [solved] at alikeSolved
        exact alikeSolved
      rw [solved] at course
      rw [iterate_succ solved, iterate_succ solvedToo]
      rcases ends : result.exit.finish? with _ | finish
      · have goesOn : decide (result.exit = .stop) = false :=
          decide_eq_false (InnerEnding.ne_stop_of_finish?_eq_none ends)
        simp only [goesOn] at course
        have later := status_lt_two_of_trials course.trials evaluating
        dsimp only
        rcases ((progress.reach result).assessment settings program).finish? settings
          (result.exit.stalls stalls) with _ | finish
        · dsimp only
          split
          · rfl
          · exact ih _ _ _ later
        · rfl
      · rfl

theorem run_seen (alike : callback'.AnswersLike view callback) (settings : Settings R)
    (program : Program R n nf neg) (state : τ') :
    program.run settings callback (view state) =
      let run := program.run settings callback' state
      (run.1, run.2.1, run.2.2.seen view) := by
  have evaluating : (Evaluator.fresh state : Evaluator R τ' nf neg).status < 2 :=
    show (1 : Int) < 2 by decide
  have startedToo : (Evaluator.fresh (view state)).point callback program
      (project program program.start) = _ :=
    point_seen alike evaluating program _
  rcases started : (Evaluator.fresh state).point callback' program (project program program.start)
    with ⟨point | _ | _, before⟩
  · have later : before.status < 2 := by
      rw [Evaluator.status_of_point started]
      decide
    rw [started] at startedToo
    rw [Program.run_of_defined started, Program.run_of_defined startedToo]
    split
    · rfl
    · exact iterate_seen alike settings program _ _ _ _ later
  · rw [started] at startedToo
    rw [Program.run_of_undefined started, Program.run_of_undefined startedToo]
  · rw [started] at startedToo
    rw [Program.run_of_stop started, Program.run_of_stop startedToo]

/-- Solves with callbacks that answer alike have the same report, leave the same state and print the
same lines. -/
theorem runCall_of_answersLike (alike : callback'.AnswersLike view callback)
    (settings : Settings R) (call : EngineCall R n nf neg) (state : τ') :
    let outcome := runCall settings call callback (view state)
    let outcome' := runCall settings call callback' state
    outcome.report = outcome'.report ∧ outcome.state = outcome'.state ∧
      outcome.log = outcome'.log := by
  intro outcome outcome'
  rcases accepted : call.accept with refusal | program
  · rw [show outcome = _ from runCall_of_refuse accepted settings callback (view state),
      show outcome' = _ from runCall_of_refuse accepted settings callback' state]
    exact ⟨rfl, rfl, rfl⟩
  · rw [show outcome = _ from runCall_of_accept accepted settings callback (view state),
      show outcome' = _ from runCall_of_accept accepted settings callback' state,
      Program.solve, Program.solve, run_seen alike]
    exact ⟨rfl, rfl, rfl⟩

/-- If the last notification is answered alike as well, the view is kept to the end. -/
theorem callbackState_of_answersLike (alike : callback'.AnswersLike view callback)
    (notified : ∀ request f g state,
      (callback request f g (view state)).2 = view (callback' request f g state).2)
    (settings : Settings R) (call : EngineCall R n nf neg) (state : τ') :
    (runCall settings call callback (view state)).callbackState =
      view (runCall settings call callback' state).callbackState := by
  rcases accepted : call.accept with refusal | program
  · rw [runCall_of_refuse accepted, runCall_of_refuse accepted]
    rfl
  · rw [runCall_of_accept accepted, runCall_of_accept accepted, Program.solve, Program.solve,
      run_seen alike]
    dsimp only
    split
    case isTrue => rfl
    case isFalse => exact notified _ _ _ _

end Alike

end AugmentedLagrangian

end NonlinearProgram
