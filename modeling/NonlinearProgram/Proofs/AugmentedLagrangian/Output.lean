import NonlinearProgram.Proofs.AugmentedLagrangian.Exchanges

/-!
# Output has no influence on a solve

What is printed, and whether anything is, is decided by two settings, by the channels and by the
name of the problem. A solve reads the settings to write its log and the name to write its first
line; it never reads the log, and the channels are written when it is over. So two solves that
differ in their output go through the same steps, `iterate_withOutput`, call the callback alike, and
report and leave the same, `solve_of_output`.
-/

namespace NonlinearProgram

/-- The same call under another name. -/
def EngineCall.named {R : Type} {n nf neg : Nat} (call : EngineCall R n nf neg) (name : String) :
    EngineCall R n nf neg :=
  { call with name }

namespace AugmentedLagrangian

variable {R : Type} [Arith R] {τ : Type} {n nf neg : Nat}

/-- The same settings with another print level, and with the final point printed or not. -/
def Settings.withOutput (settings : Settings R) (level : Int) (solution : Bool) : Settings R :=
  { settings with printLevel := level, printSolution := solution }

/-- Progress with another log. -/
def Progress.withLog (progress : Progress R n nf) (log : List (Line R)) : Progress R n nf :=
  { progress with log }

/-- How a run ended and where, apart from its log. -/
def unlogged (run : Finish × Progress R n nf × Evaluator R τ nf neg) :
    Finish × Progress R n nf × Evaluator R τ nf neg :=
  (run.1, run.2.1.withLog [], run.2.2)

/-! ## Stages of a solve -/

variable {settings : Settings R} {program : Program R n nf neg} {callback : Callback R τ n nf neg}
variable {progress : Progress R n nf} {log : List (Line R)} {level : Int} {solution : Bool}

omit [Arith R] in
@[simp] theorem unlogged_withLog (finish : Finish) (after : Evaluator R τ nf neg) :
    unlogged (finish, progress.withLog log, after) = unlogged (finish, progress, after) :=
  rfl

namespace Progress

omit [Arith R] in
@[simp] theorem multipliers_withLog : (progress.withLog log).multipliers = progress.multipliers :=
  rfl

@[simp] theorem inner_withLog :
    (progress.withLog log).inner (settings.withOutput level solution) program callback =
      progress.inner settings program callback :=
  rfl

omit [Arith R] in
@[simp] theorem reach_withLog (result : InnerResult R n nf) :
    (progress.withLog log).reach result = (progress.reach result).withLog log :=
  rfl

@[simp] theorem assessment_withLog :
    (progress.withLog log).assessment (settings.withOutput level solution) program =
      progress.assessment settings program :=
  rfl

/-- The log goes on from the one that there is, by the level that is set. -/
@[simp] theorem update_withLog :
    (progress.withLog log).update (settings.withOutput level solution) program =
      (progress.update settings program).withLog
        (if 0 < level then log ++ [progress.majorLine settings program] else log) :=
  rfl

@[simp] theorem raisePenalty_withLog (grows : Bool) :
    (progress.withLog log).raisePenalty grows = (progress.raisePenalty grows).withLog log :=
  rfl

end Progress

@[simp] theorem Assessment.finish?_withOutput (assessment : Assessment R) (stalls : Nat) :
    assessment.finish? (settings.withOutput level solution) stalls =
      assessment.finish? settings stalls :=
  rfl

@[simp] theorem Assessment.isTooSlow_withOutput (assessment : Assessment R) (previous : R) :
    assessment.isTooSlow (settings.withOutput level solution) previous =
      assessment.isTooSlow settings previous :=
  rfl

/-! ## Solves -/

variable (settings program callback progress log level solution)

/-- Major iterations with other output settings, begun with another log, differ in the log only. -/
theorem iterate_withOutput (left : Nat) (previous : R) (stalls : Nat)
    (before : Evaluator R τ nf neg) :
    unlogged (iterate (settings.withOutput level solution) program callback left previous stalls
        (progress.withLog log) before) =
      unlogged (iterate settings program callback left previous stalls progress before) := by
  induction left generalizing previous stalls progress log before with
  | zero => rfl
  | succ left ih =>
      rcases solved : (progress.inner settings program callback).solve progress.remaining
        progress.point before with ⟨result, after⟩
      -- The inner solve is given neither the log nor the settings that decide about it.
      have solvedToo : ((progress.withLog log).inner (settings.withOutput level solution) program
          callback).solve progress.remaining progress.point before = (result, after) := by
        rw [Progress.inner_withLog]
        exact solved
      rw [iterate_succ solved, iterate_succ solvedToo]
      rw [Progress.reach_withLog, Progress.assessment_withLog, Progress.update_withLog,
        Assessment.finish?_withOutput]
      cases result.exit.finish? with
      | some finish => rfl
      | none =>
          cases ((progress.reach result).assessment settings program).finish? settings
            (result.exit.stalls stalls) with
          | some finish => rfl
          | none =>
              dsimp only
              rw [Assessment.isTooSlow_withOutput, Progress.raisePenalty_withLog,
                Progress.multipliers_withLog]
              simp only [apply_ite unlogged, unlogged_withLog, ih]

/-- A run with other output settings differs in the log only. -/
theorem Program.run_withOutput (state : τ) :
    unlogged (program.run (settings.withOutput level solution) callback state) =
      unlogged (program.run settings callback state) := by
  rcases started : (Evaluator.fresh state).point callback program (project program program.start)
    with ⟨outcome, before⟩
  cases outcome with
  | defined point =>
      have limit : (settings.withOutput level solution).unboundedObjective =
          settings.unboundedObjective := rfl
      rw [run_of_defined started, run_of_defined started, limit, apply_ite unlogged,
        apply_ite unlogged]
      split
      case isTrue => rfl
      case isFalse =>
        exact iterate_withOutput settings program callback (.initial settings program point _) _
          level solution _ _ _ _
  | undefined =>
      rw [run_of_undefined started, run_of_undefined started]
      rfl
  | stop =>
      rw [run_of_stop started, run_of_stop started]
      rfl

/-- A solve with other output settings reports and leaves the same. -/
theorem Program.solve_withOutput (minimums : Lengths) (state : τ) :
    let outcome := program.solve settings minimums callback state
    let outcome' := program.solve (settings.withOutput level solution) minimums callback state
    outcome'.report = outcome.report ∧ outcome'.state = outcome.state ∧
      outcome'.callbackState = outcome.callbackState := by
  intro outcome outcome'
  have same := run_withOutput settings program callback level solution state
  rcases ran : program.run settings callback state with ⟨finish, progress, after⟩
  rcases ranToo : program.run (settings.withOutput level solution) callback state with
    ⟨finish', progress', after'⟩
  rw [ran, ranToo] at same
  cases progress
  cases progress'
  cases same
  dsimp only [outcome, outcome', solve]
  rw [ran, ranToo]
  exact ⟨rfl, rfl, rfl⟩

/-- Output does not influence a call: neither the settings for it nor the name of the problem. -/
theorem runCall_withOutput (call : EngineCall R n nf neg) (name : String) (state : τ) :
    let outcome := runCall settings call callback state
    let outcome' := runCall (settings.withOutput level solution) (call.named name) callback state
    outcome'.report = outcome.report ∧ outcome'.state = outcome.state ∧
      outcome'.callbackState = outcome.callbackState := by
  intro outcome outcome'
  have acceptedToo : (call.named name).accept = call.accept := rfl
  cases accepted : call.accept with
  | error refusal =>
      rw [accepted] at acceptedToo
      rw [show outcome = _ from runCall_of_refuse accepted settings callback state,
        show outcome' = _ from runCall_of_refuse acceptedToo _ callback state]
      exact ⟨rfl, rfl, rfl⟩
  | ok program =>
      rw [accepted] at acceptedToo
      rw [show outcome = _ from runCall_of_accept accepted settings callback state,
        show outcome' = _ from runCall_of_accept acceptedToo _ callback state]
      exact program.solve_withOutput settings callback level solution _ state

/-- Solvers that differ in what they print and where make the same calls of the callback, in the
same order and with the same replies, for a call under any name. They report the same, leave the
same final state, and leave the callback in the same state. -/
theorem solve_of_output (solver : AugmentedLagrangian R) (print summary : Transcript R)
    (call : EngineCall R n nf neg) (name : String) (state : τ) :
    let other : AugmentedLagrangian R := ⟨solver.settings.withOutput level solution, print, summary⟩
    let solved := solver.solve call callback state
    let solved' := other.solve (call.named name) callback state
    exchanges other.settings (call.named name) callback state =
        exchanges solver.settings call callback state ∧
      solved'.1 = solved.1 ∧ solved'.2.2 = solved.2.2 := by
  intro other solved solved'
  have recorded := runCall_withOutput solver.settings callback.recorded level solution call name
    ([], state)
  have same := runCall_withOutput solver.settings callback level solution call name state
  refine ⟨congrArg Prod.fst recorded.2.2, ?_, same.2.2⟩
  exact Prod.ext same.1 same.2.1

end AugmentedLagrangian

end NonlinearProgram
