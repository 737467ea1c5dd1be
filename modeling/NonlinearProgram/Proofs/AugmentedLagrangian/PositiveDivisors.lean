import NonlinearProgram.Proofs.Arith.Order
import NonlinearProgram.Proofs.Arith.Sums
import NonlinearProgram.Proofs.AugmentedLagrangian.MajorIteration

/-!
# Divisors are positive

A solve divides by the penalty, by curvatures and by the size of the first gradient. All of them are
positive if the penalty is positive at the start: it only grows, curvatures are tested first, and
the size is at least one. That no other division takes part is said by replacing it: if a quotient
by what is not positive were anything else, the solve would be the same, `runCall_withQuotient`.
-/

namespace NonlinearProgram

/-- The arithmetic in which another operation takes the place of quotients by what is not
positive. -/
abbrev Arith.withQuotient {R : Type} (arith : Arith R) (otherwise : R → R → R) : Arith R :=
  { arith with div := fun left right => if 0 < right then left / right else otherwise left right }

namespace AugmentedLagrangian

variable {R : Type} [arith : Arith R] {τ : Type} {n nf neg : Nat} (otherwise : R → R → R)

theorem div_withQuotient {left right : R} (positive : 0 < right) :
    @HDiv.hDiv R R R (@instHDiv R (arith.withQuotient otherwise).toDiv) left right = left / right :=
  if_pos positive

/-! ## Merit -/

theorem sumProducts_withQuotient (lanes : Lanes R) (pairs : List (R × R)) :
    @sumProducts R (arith.withQuotient otherwise) lanes pairs = sumProducts lanes pairs := by
  fun_induction sumProducts lanes pairs with
  | case1 lanes a b c d e f g h rest ih => exact ih
  | case2 lanes rest few =>
      unfold sumProducts
      split
      · exact absurd rfl (few _ _ _ _ _ _ _ _ _)
      · rfl

theorem dot_withQuotient (left right : Vector R n) :
    @dot R (arith.withQuotient otherwise) n left right = dot left right :=
  sumProducts_withQuotient otherwise _ _

theorem combineRows_withQuotient (jacobian : Columns R n nf) (weights : Vector R nf) :
    @combineRows R (arith.withQuotient otherwise) n nf jacobian weights =
      combineRows jacobian weights := by
  simp only [combineRows, dot_withQuotient]

theorem reducedGradient_withQuotient (program : Program R n nf neg) (lambda : Vector R nf)
    (jacobian : Columns R n nf) :
    @reducedGradient R (arith.withQuotient otherwise) n nf neg program lambda jacobian =
      reducedGradient program lambda jacobian :=
  combineRows_withQuotient otherwise _ _

theorem residual_withQuotient (program : Program R n nf neg) {multipliers : Multipliers R nf}
    (positive : 0 < multipliers.penalty) (f : Vector R nf) (row : Fin nf) :
    @residual R (arith.withQuotient otherwise) n nf neg program multipliers f row =
      residual program multipliers f row := by
  unfold residual
  rw [div_withQuotient otherwise positive]
  rfl

theorem merit_withQuotient (program : Program R n nf neg) {multipliers : Multipliers R nf}
    (positive : 0 < multipliers.penalty) (f : Vector R nf) :
    @merit R (arith.withQuotient otherwise) n nf neg program multipliers f =
      merit program multipliers f := by
  simp only [merit, residual_withQuotient otherwise program positive]

theorem gradientOfMerit_withQuotient (program : Program R n nf neg) {multipliers : Multipliers R nf}
    (positive : 0 < multipliers.penalty) (point : Point R n nf) :
    @gradientOfMerit R (arith.withQuotient otherwise) n nf neg program multipliers point =
      gradientOfMerit program multipliers point := by
  simp only [gradientOfMerit, combineRows_withQuotient,
    residual_withQuotient otherwise program positive]

theorem update_withQuotient (program : Program R n nf neg) {multipliers : Multipliers R nf}
    (positive : 0 < multipliers.penalty) (f : Vector R nf) :
    @Multipliers.update R (arith.withQuotient otherwise) n nf neg multipliers program f =
      multipliers.update program f := by
  simp only [Multipliers.update, residual_withQuotient otherwise program positive]

/-! ## Inner solves -/

theorem searchStep_withQuotient {inner : InnerProblem R τ n nf neg}
    (positive : 0 < inner.multipliers.penalty) (point : Point R n nf) (gradient : Vector R n)
    (before : R) (tries : Nat) (length : R) (undefined : Bool) (evaluator : Evaluator R τ nf neg) :
    @searchStep R (arith.withQuotient otherwise) τ n nf neg inner point gradient before tries length
        undefined evaluator =
      searchStep inner point gradient before tries length undefined evaluator := by
  induction tries generalizing length undefined evaluator with
  | zero => rfl
  | succ tries ih =>
      simp only [searchStep, merit_withQuotient otherwise inner.program positive, dot_withQuotient,
        ih]
      rfl

theorem nextLength_withQuotient (moved changed : Vector R n) (length : R) :
    @nextLength R (arith.withQuotient otherwise) n moved changed length =
      nextLength moved changed length := by
  simp only [nextLength, dot_withQuotient]
  by_cases curved : 0 < dot moved changed
  · rw [if_pos curved, if_pos curved, div_withQuotient otherwise curved]
    rfl
  · rw [if_neg curved, if_neg curved]
    rfl

theorem descend_withQuotient {inner : InnerProblem R τ n nf neg}
    (positive : 0 < inner.multipliers.penalty) (remaining : Nat) (point : Point R n nf)
    (gradient : Vector R n) (length : R) (evaluator : Evaluator R τ nf neg) :
    @descend R (arith.withQuotient otherwise) τ n nf neg inner remaining point gradient length
        evaluator =
      descend inner remaining point gradient length evaluator := by
  induction remaining generalizing point gradient length evaluator with
  | zero =>
      simp only [descend]
      rfl
  | succ left ih =>
      simp only [descend, merit_withQuotient otherwise inner.program positive,
        gradientOfMerit_withQuotient otherwise inner.program positive,
        searchStep_withQuotient otherwise positive, nextLength_withQuotient, ih]
      rfl

section

variable [LawfulOrder R] (one : (0 : R) < 1)

include one

/-- What is at least one is positive. -/
theorem maximum_one_pos (value : R) :
    0 < Arith.maximum value 1 := by
  rw [Arith.maximum]
  split
  case isTrue => exact one
  case isFalse number =>
    split
    case isTrue => exact one
    case isFalse above =>
      have oneNumber : ¬Arith.isNaN (1 : R) := (LawfulOrder.lt_iff.1 one).2.1
      have large : 1 ≤ value := LawfulOrder.le_of_not_lt number oneNumber above
      refine LawfulOrder.lt_of_not_le number LawfulOrder.isNaN_zero fun nonpos => ?_
      exact LawfulOrder.not_lt_of_le (LawfulOrder.le_trans large nonpos) one

theorem solve_withQuotient {inner : InnerProblem R τ n nf neg}
    (positive : 0 < inner.multipliers.penalty) (remaining : Nat) (point : Point R n nf)
    (evaluator : Evaluator R τ nf neg) :
    @InnerProblem.solve R (arith.withQuotient otherwise) τ n nf neg inner remaining point
        evaluator =
      inner.solve remaining point evaluator := by
  simp only [InnerProblem.solve, gradientOfMerit_withQuotient otherwise inner.program positive,
    descend_withQuotient otherwise positive]
  congr 1
  exact div_withQuotient otherwise (maximum_one_pos one _)

end

/-! ## Major iterations -/

theorem powerFrom_withQuotient (result base : R) (exponent : Nat) :
    @Arith.powerFrom R (arith.withQuotient otherwise) result base exponent =
      Arith.powerFrom result base exponent := by
  induction result, base, exponent using Arith.powerFrom.induct with
  | case1 result base exponent last =>
      unfold Arith.powerFrom
      rw [if_pos last, if_pos last]
  | case2 result base exponent _ more ih =>
      unfold Arith.powerFrom
      rw [if_neg more, if_neg more]
      exact ih

theorem innerTolerance_withQuotient (settings : Settings R) (program : Program R n nf neg)
    (major : Nat) :
    @innerTolerance R (arith.withQuotient otherwise) n nf neg settings program major =
      innerTolerance settings program major := by
  have whole : ¬(major : Int) < 0 := Int.not_lt.2 (Int.natCast_nonneg major)
  simp only [innerTolerance, Arith.power, powerFrom_withQuotient, if_neg whole]
  rfl

theorem assessment_withQuotient (settings : Settings R) (program : Program R n nf neg)
    {progress : Progress R n nf} (positive : 0 < progress.multipliers.penalty) :
    @Progress.assessment R (arith.withQuotient otherwise) n nf neg progress settings program =
      progress.assessment settings program := by
  simp only [Progress.assessment, assess, update_withQuotient otherwise program positive,
    reducedGradient_withQuotient]
  rfl

theorem progressUpdate_withQuotient (settings : Settings R) (program : Program R n nf neg)
    {progress : Progress R n nf} (positive : 0 < progress.multipliers.penalty) :
    @Progress.update R (arith.withQuotient otherwise) n nf neg progress settings program =
      progress.update settings program := by
  simp only [Progress.update, update_withQuotient otherwise program positive,
    Progress.majorLine, assessment_withQuotient otherwise settings program positive]

theorem finish?_withQuotient (assessment : Assessment R) (settings : Settings R) (stalls : Nat) :
    @Assessment.finish? R (arith.withQuotient otherwise) assessment settings stalls =
      assessment.finish? settings stalls :=
  rfl

theorem isTooSlow_withQuotient (assessment : Assessment R) (settings : Settings R) (previous : R) :
    @Assessment.isTooSlow R (arith.withQuotient otherwise) assessment settings previous =
      assessment.isTooSlow settings previous :=
  rfl

theorem raisePenalty_withQuotient (progress : Progress R n nf) (slow : Bool) :
    @Progress.raisePenalty R (arith.withQuotient otherwise) n nf progress slow =
      progress.raisePenalty slow :=
  rfl

section

variable [LawfulOrder R] (one : (0 : R) < 1)
variable (grows : ∀ penalty : R, 0 < penalty → 0 < penalty * penaltyFactor)

omit [LawfulOrder R] in
include grows in
theorem raisePenalty_pos {progress : Progress R n nf} (positive : 0 < progress.multipliers.penalty)
    (slow : Bool) : 0 < (progress.raisePenalty slow).multipliers.penalty := by
  cases slow with
  | false => exact positive
  | true => exact grows _ positive

include one grows

/-- The penalty stays positive, so major iterations only divide by what is positive. -/
theorem iterate_withQuotient (settings : Settings R)
    (program : Program R n nf neg) (callback : Callback R τ n nf neg) (left : Nat) (previous : R)
    (stalls : Nat) {progress : Progress R n nf} (positive : 0 < progress.multipliers.penalty)
    (before : Evaluator R τ nf neg) :
    @iterate R (arith.withQuotient otherwise) τ n nf neg settings program callback left previous
        stalls progress before =
      iterate settings program callback left previous stalls progress before := by
  induction left generalizing previous stalls progress before with
  | zero => rfl
  | succ left ih =>
      rcases solved : (progress.inner settings program callback).solve progress.remaining
        progress.point before with ⟨result, after⟩
      have solved' : @InnerProblem.solve R (arith.withQuotient otherwise) τ n nf neg
          (@Progress.inner R (arith.withQuotient otherwise) τ n nf neg progress settings program
            callback) progress.remaining progress.point before = (result, after) := by
        simp only [Progress.inner, innerTolerance_withQuotient]
        exact (solve_withQuotient otherwise one positive _ _ _).trans solved
      rw [iterate_succ solved, @iterate_succ R (arith.withQuotient otherwise) τ n nf neg settings
        program callback progress before after result solved' left previous stalls]
      have reached : 0 < (progress.reach result).multipliers.penalty := positive
      rw [assessment_withQuotient otherwise settings program reached,
        progressUpdate_withQuotient otherwise settings program reached]
      rcases result.exit.finish? with _ | finish
      case some => rfl
      simp only [finish?_withQuotient, isTooSlow_withQuotient, raisePenalty_withQuotient]
      rcases ((progress.reach result).assessment settings program).finish? settings
        (result.exit.stalls stalls) with _ | finish
      case some => rfl
      have updated : 0 < ((progress.reach result).update settings program).multipliers.penalty :=
        positive
      rw [ih _ _ (raisePenalty_pos grows updated _)]
      rfl

/-! ## Solves -/

theorem run_withQuotient {settings : Settings R}
    (positive : 0 < settings.penalty) (program : Program R n nf neg)
    (callback : Callback R τ n nf neg) (state : τ) :
    @Program.run R (arith.withQuotient otherwise) τ n nf neg program settings callback state =
      program.run settings callback state := by
  rcases started : (Evaluator.fresh state).point callback program (project program program.start)
    with ⟨point | _ | _, after⟩
  · rw [Program.run_of_defined started,
      @Program.run_of_defined R (arith.withQuotient otherwise) τ n nf neg settings program callback
        state after point started]
    have initial : 0 < (Progress.initial settings program point
        (if 0 < settings.printLevel then [.majorHeading] else [])).multipliers.penalty := positive
    rw [← iterate_withQuotient otherwise one grows settings program callback _ _ _ initial]
    rfl
  · rw [Program.run_of_undefined started]
    exact @Program.run_of_undefined R (arith.withQuotient otherwise) τ n nf neg settings program
      callback state after started
  · rw [Program.run_of_stop started]
    exact @Program.run_of_stop R (arith.withQuotient otherwise) τ n nf neg settings program
      callback state after started

theorem programSolve_withQuotient {settings : Settings R}
    (positive : 0 < settings.penalty) (program : Program R n nf neg) (minimums : Lengths)
    (callback : Callback R τ n nf neg) (state : τ) :
    @Program.solve R (arith.withQuotient otherwise) τ n nf neg program settings minimums callback
        state =
      program.solve settings minimums callback state := by
  simp only [Program.solve, Progress.state, Progress.solutionLines, reducedGradient_withQuotient,
    run_withQuotient otherwise one grows positive]
  rfl

theorem runCall_withQuotient {settings : Settings R}
    (positive : 0 < settings.penalty) (call : EngineCall R n nf neg)
    (callback : Callback R τ n nf neg) (state : τ) :
    @runCall R (arith.withQuotient otherwise) τ n nf neg settings call callback state =
      runCall settings call callback state := by
  have sameAccept : @EngineCall.accept R (arith.withQuotient otherwise) n nf neg call =
    call.accept := rfl
  simp only [runCall, sameAccept]
  rcases call.accept with refusal | program
  · rfl
  · exact programSolve_withQuotient otherwise one grows positive program _ callback state

end

end AugmentedLagrangian

end NonlinearProgram
