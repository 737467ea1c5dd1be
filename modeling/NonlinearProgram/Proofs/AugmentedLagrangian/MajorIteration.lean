import NonlinearProgram.AugmentedLagrangian.Solver
import NonlinearProgram.Proofs.Vectors

/-!
# The stages of a solve

A solve evaluates its starting point and then takes major iterations. A major iteration is an inner
solve, an update of the multipliers with an assessment of the point, and perhaps a larger penalty.
The stages are named here, and `iterate_succ_cases` says at which of them the solve can end; what
holds of all major iterations follows from it by induction.
-/

namespace NonlinearProgram.AugmentedLagrangian

variable {R : Type} [Arith R] {τ : Type} {n nf neg : Nat}

namespace Progress

/-- The inner solve of the next major iteration. -/
def inner (progress : Progress R n nf) (settings : Settings R) (program : Program R n nf neg)
    (callback : Callback R τ n nf neg) : InnerProblem R τ n nf neg where
  program
  callback
  multipliers := progress.multipliers
  unboundedObjective := settings.unboundedObjective
  tolerance := innerTolerance settings program (progress.major + 1)

/-- Progress after the inner solve of the next major iteration. -/
def reach (progress : Progress R n nf) (result : InnerResult R n nf) : Progress R n nf :=
  { progress with
    point := result.point, remaining := result.remaining, major := progress.major + 1 }

/-- The multipliers are updated and the point is assessed with them. -/
def assessment (progress : Progress R n nf) (settings : Settings R)
    (program : Program R n nf neg) : Assessment R :=
  assess settings program (progress.multipliers.update program progress.point.f) progress.point

/-- The line that is printed about a major iteration. -/
def majorLine (progress : Progress R n nf) (settings : Settings R)
    (program : Program R n nf neg) : Line R :=
  let assessment := progress.assessment settings program
  .major progress.major (settings.iterationsLimit - progress.remaining)
    (progress.point.f.get program.objective) assessment.feasibility assessment.optimality
    progress.multipliers.penalty

/-- Progress after the multiplier update. -/
def update (progress : Progress R n nf) (settings : Settings R)
    (program : Program R n nf neg) : Progress R n nf :=
  { progress with
    multipliers := progress.multipliers.update program progress.point.f
    log :=
      if 0 < settings.printLevel then progress.log ++ [progress.majorLine settings program]
      else progress.log }

/-- Progress with a penalty that has grown, or not. -/
def raisePenalty (progress : Progress R n nf) (grows : Bool) : Progress R n nf :=
  { progress with
    multipliers :=
      { progress.multipliers with
        penalty :=
          if grows then progress.multipliers.penalty * penaltyFactor
          else progress.multipliers.penalty } }

end Progress

/-- Number of inner solves that have stalled in a row, after one more. -/
def InnerEnding.stalls (exit : InnerEnding) (before : Nat) : Nat :=
  if exit = .stalled then before + 1 else 0

section Stages

variable {settings : Settings R} {program : Program R n nf neg} {callback : Callback R τ n nf neg}
variable {progress : Progress R n nf} {before after : Evaluator R τ nf neg}
variable {result : InnerResult R n nf}

/-- The stages of a major iteration. -/
theorem iterate_succ
    (solved : (progress.inner settings program callback).solve progress.remaining progress.point
      before = (result, after)) (left : Nat) (previous : R) (stalls : Nat) :
    iterate settings program callback (left + 1) previous stalls progress before =
      match result.exit.finish? with
      | some finish => (finish, progress.reach result, after)
      | none =>
        match ((progress.reach result).assessment settings program).finish? settings
          (result.exit.stalls stalls) with
        | some finish => (finish, (progress.reach result).update settings program, after)
        | none =>
          let assessment := (progress.reach result).assessment settings program
          let grows := assessment.isTooSlow settings previous
          let raised := ((progress.reach result).update settings program).raisePenalty grows
          if grows && decide (penaltyLimit < raised.multipliers.penalty) then
            (.infeasible, raised, after)
          else
            iterate settings program callback left assessment.feasibility
              (result.exit.stalls stalls) raised after := by
  simp only [Progress.inner] at solved
  simp only [iterate, solved]
  rfl

/-- A solve ends in a major iteration with the inner solve, with the assessment, or with a penalty
that has grown too large; else it goes on. -/
theorem iterate_succ_cases
    (solved : (progress.inner settings program callback).solve progress.remaining progress.point
      before = (result, after)) (left : Nat) (previous : R) (stalls : Nat) :
    let run := iterate settings program callback (left + 1) previous stalls progress before
    let reached := progress.reach result
    let assessment := reached.assessment settings program
    let raised := (reached.update settings program).raisePenalty
      (assessment.isTooSlow settings previous)
    (∃ finish, result.exit.finish? = some finish ∧ run = (finish, reached, after)) ∨
      result.exit.finish? = none ∧
        ((∃ finish, assessment.finish? settings (result.exit.stalls stalls) = some finish ∧
            run = (finish, reached.update settings program, after)) ∨
          assessment.isTooSlow settings previous ∧ run = (.infeasible, raised, after) ∨
          run = iterate settings program callback left assessment.feasibility
            (result.exit.stalls stalls) raised after) := by
  intro run reached assessment raised
  have stages : run = _ := iterate_succ solved left previous stalls
  rw [stages]
  split
  case h_1 finish ends => exact .inl ⟨finish, ends, rfl⟩
  case h_2 goesOn =>
    refine .inr ⟨goesOn, ?_⟩
    split
    case h_1 finish ends => exact .inl ⟨finish, ends, rfl⟩
    case h_2 =>
      refine .inr ?_
      by_cases limit : (assessment.isTooSlow settings previous &&
        decide (penaltyLimit < raised.multipliers.penalty)) = true
      · exact .inl ⟨(Bool.and_eq_true_iff.1 limit).1, if_pos limit⟩
      · exact .inr (if_neg limit)

end Stages

/-! ## The starting point -/

/-- Progress before the first major iteration. -/
def Progress.initial (settings : Settings R) (program : Program R n nf neg) (point : Point R n nf)
    (log : List (Line R)) : Progress R n nf where
  point
  multipliers := initialMultipliers settings program
  remaining := settings.iterationsLimit
  major := 0
  log

/-- The starting point before anything is known of it: the values that were handed in, and no
derivatives. -/
def Program.unread (program : Program R n nf neg) : Point R n nf :=
  ⟨project program program.start, program.values, .replicate n (.replicate nf 0)⟩

section Start

variable {settings : Settings R} {program : Program R n nf neg} {callback : Callback R τ n nf neg}
variable {state : τ} {after : Evaluator R τ nf neg}

theorem Program.run_of_stop
    (started : (Evaluator.fresh state).point callback program (project program program.start) =
      (.stop, after)) :
    program.run settings callback state =
      (.userStop, .initial settings program program.unread [], after) := by
  simp only [run, started]
  rfl

theorem Program.run_of_undefined
    (started : (Evaluator.fresh state).point callback program (project program program.start) =
      (.undefined, after)) :
    program.run settings callback state =
      (.undefinedAtStart, .initial settings program program.unread [], after) := by
  simp only [run, started]
  rfl

theorem Program.run_of_defined {point : Point R n nf}
    (started : (Evaluator.fresh state).point callback program (project program program.start) =
      (.defined point, after)) :
    program.run settings callback state =
      if isUnbounded program settings.unboundedObjective point.f then
        (.unbounded, .initial settings program point [], after)
      else
        iterate settings program callback settings.majorIterationsLimit Arith.infinity 0
          (.initial settings program point
            (if 0 < settings.printLevel then [.majorHeading] else []))
          after := by
  simp only [run, started]
  rfl

end Start

end NonlinearProgram.AugmentedLagrangian
