import NonlinearProgram.Arith.Double
import NonlinearProgram.Proofs.AugmentedLagrangian.AcceptedCall
import NonlinearProgram.Proofs.AugmentedLagrangian.Assignments
import NonlinearProgram.Proofs.AugmentedLagrangian.MajorIteration
import NonlinearProgram.Proofs.AugmentedLagrangian.Violations

/-!
# Exits and the state that is reported

The exit of a solve is chosen deep inside its loops; its report is made afterwards, from the
progress that is left. `run_justified` says that the two agree: what led to the exit holds of the
progress at the end.

Two exits say less than they seem to, `runCall_untruthful`. A largest move is found by comparing, so
a move that is not a number hides the moves before it. A violation is compared with the tolerance
also where there are no rows, and it exceeds a tolerance that is negative. Options set no such
tolerance.
-/

namespace NonlinearProgram.AugmentedLagrangian

variable {R : Type} [Arith R] {τ : Type} {n nf neg : Nat}

/-! ## Inner solves -/

/-- An inner solve reaches the limit with no step left, and an unbounded objective at the point
where it ends. -/
theorem descend_ends (inner : InnerProblem R τ n nf neg) (remaining : Nat) (point : Point R n nf)
    (gradient : Vector R n) (length : R) (evaluator : Evaluator R τ nf neg) :
    let result := (descend inner remaining point gradient length evaluator).1
    (result.exit = .iterationLimit → result.remaining = 0) ∧
      (result.exit = .unbounded →
        isUnbounded inner.program inner.unboundedObjective result.point.f = true) := by
  induction remaining generalizing point gradient length evaluator with
  | zero =>
      simp only [descend]
      split
      case isTrue => exact ⟨fun _ => rfl, nofun⟩
      case isFalse => exact ⟨fun _ => rfl, nofun⟩
  | succ left ih =>
      simp only [descend]
      split
      case isTrue => exact ⟨nofun, nofun⟩
      case isFalse =>
        split
        case h_1 => exact ⟨nofun, nofun⟩
        case h_2 => exact ⟨nofun, nofun⟩
        case h_3 => exact ⟨nofun, nofun⟩
        case h_4 =>
          split
          case isTrue unbounded => exact ⟨nofun, fun _ => unbounded⟩
          case isFalse => exact ih _ _ _ _

theorem solve_ends (inner : InnerProblem R τ n nf neg) (remaining : Nat) (point : Point R n nf)
    (evaluator : Evaluator R τ nf neg) :
    let result := (inner.solve remaining point evaluator).1
    (result.exit = .iterationLimit → result.remaining = 0) ∧
      (result.exit = .unbounded →
        isUnbounded inner.program inner.unboundedObjective result.point.f = true) :=
  descend_ends inner remaining point _ _ evaluator

/-! ## Major iterations -/

/-- What led to an exit, as it can be seen from the progress that is left. -/
def Finish.IsJustified (settings : Settings R) (program : Program R n nf neg)
    (progress : Progress R n nf) : Finish → Prop
  | .optimal =>
      (violation program settings.feasibilityTolerance progress.point.f).most ≤
          settings.feasibilityTolerance ∧
        projectedStepSize program progress.point.x
            (reducedGradient program progress.multipliers.lambda progress.point.jacobian) ≤
          settings.optimalityTolerance
  | .accuracyNotAchieved =>
      (violation program settings.feasibilityTolerance progress.point.f).most ≤
        settings.feasibilityTolerance
  | .infeasible =>
      settings.feasibilityTolerance <
        (violation program settings.feasibilityTolerance progress.point.f).most
  | .cannotImprove =>
      ¬(violation program settings.feasibilityTolerance progress.point.f).most ≤
        settings.feasibilityTolerance
  | .unbounded => isUnbounded program settings.unboundedObjective progress.point.f = true
  | .iterationLimit => progress.remaining = 0
  | .majorIterationLimit => progress.major = settings.majorIterationsLimit
  | .undefinedAtStart | .undefinedRegion | .userStop => True

variable {settings : Settings R} {program : Program R n nf neg} {progress : Progress R n nf}

theorem InnerEnding.isJustified {inner : InnerProblem R τ n nf neg} {remaining : Nat}
    {point : Point R n nf} {before after : Evaluator R τ nf neg} {result : InnerResult R n nf}
    (solved : inner.solve remaining point before = (result, after))
    (sameProgram : inner.program = program)
    (sameLimit : inner.unboundedObjective = settings.unboundedObjective) {finish : Finish}
    (ends : result.exit.finish? = some finish) :
    finish.IsJustified settings program (progress.reach result) := by
  have known := solve_ends inner remaining point before
  rw [solved] at known
  cases exit : result.exit <;> rw [exit] at ends <;> cases ends
  · exact known.1 exit
  · trivial
  · trivial
  · rw [sameProgram, sameLimit] at known
    exact known.2 exit

theorem Assessment.isJustified {stalls : Nat} {finish : Finish}
    (ends : (progress.assessment settings program).finish? settings stalls = some finish) :
    finish.IsJustified settings program (progress.update settings program) := by
  rw [Assessment.finish?] at ends
  split at ends
  case isTrue optimal =>
    cases ends
    exact optimal
  case isFalse =>
    split at ends
    case isTrue =>
      split at ends
      case isTrue feasible =>
        cases ends
        exact feasible
      case isFalse infeasible =>
        cases ends
        exact infeasible
    case isFalse => cases ends

/-- Every exit of the major iterations is justified. The number of the major iteration and the
number of those that are left add up to the limit. -/
theorem iterate_justified (settings : Settings R) (program : Program R n nf neg)
    (callback : Callback R τ n nf neg) (left : Nat) (previous : R) (stalls : Nat)
    (progress : Progress R n nf) (before : Evaluator R τ nf neg)
    (count : progress.major + left = settings.majorIterationsLimit) :
    let run := iterate settings program callback left previous stalls progress before
    run.1.IsJustified settings program run.2.1 := by
  induction left generalizing previous stalls progress before with
  | zero => exact count
  | succ left ih =>
      intro run
      rcases solved : (progress.inner settings program callback).solve progress.remaining
        progress.point before with ⟨result, after⟩
      rcases iterate_succ_cases solved left previous stalls with
        ⟨finish, ends, outcome⟩ | ⟨_, ⟨finish, ends, outcome⟩ | ⟨slow, outcome⟩ | outcome⟩
      · rw [show run = _ from outcome]
        exact InnerEnding.isJustified solved rfl rfl ends
      · rw [show run = _ from outcome]
        exact Assessment.isJustified ends
      · rw [show run = _ from outcome]
        rw [Assessment.isTooSlow, Bool.and_eq_true, decide_eq_true_iff] at slow
        exact slow.1
      · rw [show run = _ from outcome]
        apply ih
        change progress.major + 1 + left = settings.majorIterationsLimit
        omega

theorem run_justified (settings : Settings R) (program : Program R n nf neg)
    (callback : Callback R τ n nf neg) (state : τ) :
    let run := program.run settings callback state
    run.1.IsJustified settings program run.2.1 := by
  intro run
  rcases started : (Evaluator.fresh state).point callback program (project program program.start)
    with ⟨point | _ | _, before⟩
  · rw [show run = _ from program.run_of_defined started]
    split
    case isTrue unbounded => exact unbounded
    case isFalse =>
      exact iterate_justified settings program callback _ _ _ _ before (Nat.zero_add _)
  · rw [show run = _ from program.run_of_undefined started]
    trivial
  · rw [show run = _ from program.run_of_stop started]
    trivial

/-! ## Settings -/

/-- Settings a solver can be given by its options. -/
inductive Settings.IsConfigured : Settings R → Prop where
  | default : IsConfigured .default
  | set {settings changed : Settings R} {key : String} {value : OptionValue R}
      (configured : settings.IsConfigured) (accepted : settings.set key value = some changed) :
      IsConfigured changed

namespace Settings

/-- No option sets a tolerance that is negative or not a number. -/
theorem IsConfigured.tolerance_nonneg [LawfulOrder R]
    (usual : 0 ≤ (Settings.default : Settings R).feasibilityTolerance)
    (configured : settings.IsConfigured) : 0 ≤ settings.feasibilityTolerance := by
  induction configured with
  | default => exact usual
  | @set settings _ _ _ _ accepted ih =>
      have before : ∀ real, settings.value .feasibilityTolerance = .real real → 0 ≤ real :=
        fun real holds => SettingValue.real.inj holds ▸ ih
      refine real_of_set (fun real finite positive => ?_) before accepted rfl
      exact LawfulOrder.le_of_lt (LawfulOrder.pos_of_isFinite finite positive)

end Settings

/-! ## Reports -/

/-- Move of a variable in a step against the reduced costs that is projected into the box. -/
def projectedMove (program : Program R n nf neg) (x xMul : Vector R n) (j : Fin n) : R :=
  Arith.clamp (x.get j - xMul.get j) (program.xLower.get j) (program.xUpper.get j) - x.get j

/-- Moves that are numbers are bounded by the largest one. -/
theorem move_le_of_projectedStepSize_le [LawfulOrder R] {tolerance : R} {x xMul : Vector R n}
    (small : projectedStepSize program x xMul ≤ tolerance)
    (numbers : ∀ j, ¬Arith.isNaN (Arith.abs (projectedMove program x xMul j))) (j : Fin n) :
    Arith.abs (projectedMove program x xMul j) ≤ tolerance := by
  have moves : ∀ j, (difference (project program (difference x xMul)) x).get j =
      projectedMove program x xMul j := by
    intro j
    simp [difference, project, projectedMove]
  rw [← moves j]
  exact LawfulOrder.abs_le_of_largest_le (fun j => moves j ▸ numbers j) small j

/-- What the code of a report says holds of the values that are reported with it. -/
structure IsTruthful (settings : Settings R) (program : Program R n nf neg)
    (report : EngineReport R) (x : Vector R n) (f : Vector R nf) (xMul : Vector R n) : Prop where
  optimal : report.inform = 1 →
    IsFeasible program settings.feasibilityTolerance f ∧ report.infeasibilities = 0 ∧
      report.infeasibilitySum = 0 ∧
        projectedStepSize program x xMul ≤ settings.optimalityTolerance
  accuracyNotAchieved : report.inform = 3 →
    IsFeasible program settings.feasibilityTolerance f ∧ report.infeasibilities = 0
  /-- The largest violation is beyond the tolerance. -/
  infeasible : report.inform = 13 ∨ report.inform = 41 →
    ¬(violation program settings.feasibilityTolerance f).most ≤ settings.feasibilityTolerance
  unbounded : report.inform = 21 → f.get program.objective < -settings.unboundedObjective
  iterationLimit : report.inform = 31 → report.iterations = settings.iterationsLimit
  majorIterationLimit : report.inform = 32 →
    report.majorIterations = settings.majorIterationsLimit
  /-- The violations that are reported are those of the values. -/
  counted : report.infeasibilities = (violation program settings.feasibilityTolerance f).count

theorem Program.solve_isTruthful [LawfulOrder R] (settings : Settings R)
    (program : Program R n nf neg) (minimums : Lengths) (callback : Callback R τ n nf neg)
    (state : τ) :
    let progress := (program.run settings callback state).2.1
    IsTruthful settings program (program.solve settings minimums callback state).report
      progress.point.x progress.point.f
      (reducedGradient program progress.multipliers.lambda progress.point.jacobian) := by
  intro progress
  have justified : Finish.IsJustified settings program progress
      (program.run settings callback state).1 := run_justified settings program callback state
  have reported : ∀ finish : Finish,
      (program.solve settings minimums callback state).report.inform = finish.code →
        finish.IsJustified settings program progress := by
    intro finish code
    have same : (program.run settings callback state).1 = finish := Finish.code_injective code
    exact same ▸ justified
  constructor
  case optimal =>
    intro code
    obtain ⟨bounded, small⟩ := reported .optimal code
    obtain ⟨feasible, count, sum⟩ := feasible_of_most_le bounded
    exact ⟨feasible, count, sum, small⟩
  case accuracyNotAchieved =>
    intro code
    obtain ⟨feasible, count, _⟩ := feasible_of_most_le (reported .accuracyNotAchieved code)
    exact ⟨feasible, count⟩
  case infeasible =>
    rintro (code | code)
    · exact fun bounded => LawfulOrder.not_lt_of_le bounded (reported .infeasible code)
    · exact reported .cannotImprove code
  case unbounded =>
    intro code
    exact of_decide_eq_true (reported .unbounded code)
  case iterationLimit =>
    intro code
    have none : progress.remaining = 0 := reported .iterationLimit code
    change settings.iterationsLimit - progress.remaining = settings.iterationsLimit
    rw [none, Nat.sub_zero]
  case majorIterationLimit =>
    intro code
    exact reported .majorIterationLimit code
  case counted => rfl

/-- Every exit of a solve is truthful about the values it reports. A call that is refused has one of
the codes of refusals, and these claim nothing. At an optimal point every move is within its
tolerance if the moves are numbers. A violation is found, and counted, if the tolerance on
violations is not negative; options leave it so. -/
theorem runCall_isTruthful {n nf neg : Nat} (settings : Settings Double)
    (call : EngineCall Double n nf neg) (callback : Callback Double τ n nf neg) (state : τ) :
    let outcome := runCall settings call callback state
    (settings.IsConfigured → 0 ≤ settings.feasibilityTolerance) ∧
      (outcome.report.inform ∈ [81, 82, 83, 84, 91, 92] ∨
        ∃ program : Program Double n nf neg, call.Describes program ∧
          ∃ x f xMul, outcome.state.x = x.toArray ∧ outcome.state.f = f.toArray ∧
            outcome.state.xMul = xMul.toArray ∧
            IsTruthful settings program outcome.report x f xMul ∧
            ((∀ j, ¬Arith.isNaN (Arith.abs (projectedMove program x xMul j))) →
              outcome.report.inform = 1 →
                ∀ j, Arith.abs (projectedMove program x xMul j) ≤ settings.optimalityTolerance) ∧
            (0 ≤ settings.feasibilityTolerance →
              outcome.report.inform = 13 ∨ outcome.report.inform = 41 →
                IsInfeasible program settings.feasibilityTolerance f ∧
                  1 ≤ outcome.report.infeasibilities)) := by
  intro outcome
  refine ⟨fun configured => configured.tolerance_nonneg (by decide +kernel), ?_⟩
  rcases accepted : call.accept with refusal | program
  · left
    rw [show outcome = _ from runCall_of_refuse accepted settings callback state]
    exact refusal.code_mem
  · right
    rw [show outcome = _ from runCall_of_accept accepted settings callback state]
    have truthful := program.solve_isTruthful settings (storageNeeds call.storageRequest) callback
      state
    refine ⟨program, EngineCall.describes_of_accept accepted, _, _, _, rfl, rfl, rfl, truthful,
      fun numbers code => ?_, fun tolerable code => ?_⟩
    · obtain ⟨_, _, _, small⟩ := truthful.optimal code
      exact move_le_of_projectedStepSize_le small numbers
    · rw [truthful.counted]
      exact infeasible_of_not_most_le tolerable (truthful.infeasible code)

/-! ## Exits that say too much -/

/-- A start at three for the first of three variables. The second one is fixed. -/
def fixedCall (second : Double) : EngineCall Double 3 1 1 where
  mode := .cold
  name := "fixed"
  objectiveConstant := 0
  objectiveRow := 1
  linear := #[]
  linearRows := #[]
  linearColumns := #[]
  rows := #v[1]
  columns := #[1]
  xLower := #[-Arith.infinity, second, -Arith.infinity]
  xUpper := #[Arith.infinity, second, Arith.infinity]
  fLower := #[-1e20]
  fUpper := #[1e20]
  xNames := #[]
  fNames := #[]
  state :=
    { superbasics := 0, x := #[3.0, 0, 0], xState := #[0, 0, 0], xMul := #[0, 0, 0], f := #[0]
      fState := #[0], fMul := #[0] }
  workspace := .exact ⟨600, 700, 1000⟩

/-- The square of the first variable. -/
def squareCallback : Callback Double Unit 3 1 1 :=
  fun request _ _ =>
    let x := request.x[0]?.getD 0
    pure ⟨0, #v[x * x], #v[x + x]⟩

/-- A function that does not decrease along the derivative it gives. -/
def flatCallback : Callback Double Unit 3 1 1 :=
  fun _ _ _ => pure ⟨0, #v[0], #v[1]⟩

/-- With a negative tolerance no improvement is said to be possible where there are no violations.
With a variable that is fixed at infinity the point three is said to be a minimum of the square. -/
theorem runCall_untruthful :
    let intolerant : Settings Double := { Settings.default with feasibilityTolerance := -1.0 }
    let refuted := runCall intolerant (fixedCall 0) flatCallback ()
    let early := runCall .default (fixedCall 2e20) squareCallback ()
    let x := early.state.x[0]?.getD 0
    let xMul := early.state.xMul[0]?.getD 0
    (refuted.report.inform = 41 ∧ refuted.report.infeasibilities = 0) ∧
      early.report.inform = 1 ∧
      (early.state.x ++ early.state.xMul ++ early.state.f).all (!Arith.isNaN ·) ∧
      ¬Arith.abs (Arith.clamp (x - xMul) (-Arith.infinity) Arith.infinity - x) ≤
        (Settings.default : Settings Double).optimalityTolerance := by
  decide +kernel

end NonlinearProgram.AugmentedLagrangian
