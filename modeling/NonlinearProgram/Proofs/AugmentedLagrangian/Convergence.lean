import NonlinearProgram.Proofs.Arith.Sign
import NonlinearProgram.Proofs.AugmentedLagrangian.Exchanges
import NonlinearProgram.Proofs.AugmentedLagrangian.Steps

/-!
# Inner solves that converge

The multipliers are updated so that the gradient of the Lagrangian becomes that of the augmented
Lagrangian at the point an inner solve has reached: a row has the weight `-(λ - ρ r)` in the one and
`-λ + ρ r` in the other. What the inner solve was tested with is then what the major iteration is
assessed with; the sign of a zero makes no difference to the test.
-/

namespace NonlinearProgram.AugmentedLagrangian

variable {R : Type} [Arith R] {τ : Type} {n nf neg : Nat}

section Gradients

variable [LawfulNegation R] (program : Program R n nf neg)

/-- The gradient of the Lagrangian with updated multipliers is that of the augmented Lagrangian. -/
theorem same_gradientOfMerit (multipliers : Multipliers R nf) (point : Point R n nf) (j : Fin n) :
    Arith.Same
      ((reducedGradient program (multipliers.update program point.f).lambda point.jacobian).get j)
      ((gradientOfMerit program multipliers point).get j) := by
  simp only [reducedGradient, gradientOfMerit, combineRows, Vector.get_eq_getElem,
    Vector.getElem_map]
  apply LawfulNegation.isAdditive.dot
  intro row
  apply LawfulNegation.mul (Arith.same_refl _)
  simp only [Vector.get_eq_getElem, Vector.getElem_ofFn, Multipliers.update]
  split
  case isTrue => exact Arith.same_refl 1
  case isFalse => exact LawfulNegation.neg_sub _ _

theorem same_projectedStepSize (x : Vector R n) {gradient gradient' : Vector R n}
    (same : ∀ j, Arith.Same (gradient.get j) (gradient'.get j)) :
    Arith.Same (projectedStepSize program x gradient) (projectedStepSize program x gradient') := by
  apply LawfulNegation.same_largest
  intro j
  have moved := LawfulNegation.sub (Arith.same_refl (x.get j)) (same j)
  have projected := LawfulNegation.same_clamp moved (program.xLower.get j) (program.xUpper.get j)
  have step := LawfulNegation.sub projected (Arith.same_refl (x.get j))
  simpa [difference, project] using step

end Gradients

/-! ## The number of a major iteration -/

section Majors

variable (settings : Settings R) (program : Program R n nf neg) (callback : Callback R τ n nf neg)

/-- Every major iteration that is made counts. -/
theorem major_add_le_iterate (left : Nat) (previous : R) (stalls : Nat) (progress : Progress R n nf)
    (before : Evaluator R τ nf neg) :
    progress.major + min left 1 ≤
      (iterate settings program callback left previous stalls progress before).2.1.major := by
  induction left generalizing previous stalls progress before with
  | zero => exact Nat.le_refl _
  | succ left ih =>
      rw [Nat.min_eq_right (Nat.succ_le_succ left.zero_le)]
      rcases solved : (progress.inner settings program callback).solve progress.remaining
        progress.point before with ⟨result, after⟩
      rcases iterate_succ_cases solved left previous stalls with
        ⟨_, _, outcome⟩ | ⟨_, ⟨_, _, outcome⟩ | ⟨_, outcome⟩ | outcome⟩
      · rw [outcome]
        exact Nat.le_refl _
      · rw [outcome]
        exact Nat.le_refl _
      · rw [outcome]
        exact Nat.le_refl _
      · rw [outcome]
        refine Nat.le_trans ?_ (ih _ _ _ _)
        exact Nat.le_add_right _ _

/-- It takes a major iteration to find a point optimal. -/
theorem major_lt_of_optimal {left : Nat} {previous : R} {stalls : Nat} {progress : Progress R n nf}
    {before : Evaluator R τ nf neg} {run : Finish × Progress R n nf × Evaluator R τ nf neg}
    (ran : iterate settings program callback left previous stalls progress before = run)
    (optimal : run.1 = .optimal) : progress.major < run.2.1.major := by
  subst ran
  have counted := major_add_le_iterate settings program callback left previous stalls progress
    before
  cases left with
  | zero => cases optimal
  | succ left =>
      rw [Nat.min_eq_right (Nat.succ_le_succ left.zero_le)] at counted
      exact counted

end Majors

/-! ## Assessments -/

/-- The inner solves of a solve that resumes are as sharp as its test of optimality. -/
theorem innerTolerance_of_isSome (settings : Settings R) (program : Program R n nf neg)
    (resumes : program.multipliers?.isSome) (major : Nat) :
    innerTolerance settings program major = settings.optimalityTolerance :=
  if_pos resumes

theorem Assessment.finish?_eq_optimal_iff {assessment : Assessment R} {settings : Settings R}
    (stalls : Nat) : assessment.finish? settings stalls = some .optimal ↔
      assessment.feasibility ≤ settings.feasibilityTolerance ∧
        assessment.optimality ≤ settings.optimalityTolerance := by
  rw [finish?]
  split
  case isTrue optimal => exact iff_of_true rfl optimal
  case isFalse notOptimal =>
    apply iff_of_false _ notOptimal
    split
    case isTrue => split <;> simp
    case isFalse => simp

/-- A major iteration whose inner solve has converged ends the solve as optimal if and only if the
assessment is within both tolerances. -/
theorem iterate_optimal_iff {settings : Settings R} {program : Program R n nf neg}
    {callback : Callback R τ n nf neg} {progress : Progress R n nf}
    {before after : Evaluator R τ nf neg} {result : InnerResult R n nf}
    (solved : (progress.inner settings program callback).solve progress.remaining progress.point
      before = (result, after))
    (converged : result.exit = .converged) (left : Nat) (previous : R) (stalls : Nat) :
    let run := iterate settings program callback (left + 1) previous stalls progress before
    let assessment := (progress.reach result).assessment settings program
    (run.1 = .optimal ∧ run.2.1.major = progress.major + 1) ↔
      assessment.feasibility ≤ settings.feasibilityTolerance ∧
        assessment.optimality ≤ settings.optimalityTolerance := by
  intro run assessment
  have goesOn : result.exit.finish? = none := by rw [converged]; rfl
  have stages : run = _ := iterate_succ solved left previous stalls
  rw [goesOn] at stages
  rw [← Assessment.finish?_eq_optimal_iff (result.exit.stalls stalls), stages]
  dsimp only
  split
  case h_1 finish ends =>
    rw [show assessment.finish? _ _ = _ from ends, Option.some.injEq]
    exact and_iff_left rfl
  case h_2 ends =>
    rw [show assessment.finish? _ _ = _ from ends]
    -- The iterations that follow have larger numbers.
    refine iff_of_false ?_ nofun
    rintro ⟨optimal, number⟩
    split at optimal
    case isTrue => cases optimal
    case isFalse limit =>
      have later := major_lt_of_optimal settings program callback rfl optimal
      rw [if_neg limit] at number
      exact Nat.lt_irrefl _ (number ▸ later)

/-! ## Convergence -/

/-- An inner solve that converges was tested with the gradient of the Lagrangian at the multipliers
it leads to. So the optimality that is assessed is within its tolerance, and if that is the
tolerance on optimality, which it is throughout a solve that resumes, the solve ends as optimal if
and only if the largest violation is within the tolerance on violations. -/
theorem assessment_of_converged [LawfulNegation R] (settings : Settings R)
    (program : Program R n nf neg) (callback : Callback R τ n nf neg) (progress : Progress R n nf)
    (before : Evaluator R τ nf neg) (tolerance : R) :
    let inner := { progress.inner settings program callback with tolerance }
    let result := (inner.solve progress.remaining progress.point before).1
    let multipliers := progress.multipliers.update program result.point.f
    result.exit = .converged →
      (∃ last, Steps inner (inner.start progress.remaining progress.point before) last ∧
        last.point = result.point ∧ last.IsConverged inner ∧
          last.gradient = gradientOfMerit program progress.multipliers result.point ∧
          ∀ j, Arith.Same
            ((reducedGradient program multipliers.lambda result.point.jacobian).get j)
            (last.gradient.get j)) ∧
      (assess settings program multipliers result.point).optimality ≤ tolerance ∧
      (tolerance = innerTolerance settings program (progress.major + 1) →
        program.multipliers?.isSome ∨ tolerance = settings.optimalityTolerance →
          ∀ left previous stalls,
            let run := iterate settings program callback (left + 1) previous stalls progress before
            run.1.code = 1 ∧ run.2.1.major = progress.major + 1 ↔
              (violation program settings.feasibilityTolerance result.point.f).most ≤
                settings.feasibilityTolerance) := by
  intro inner result multipliers converged
  obtain ⟨last, steps, reached, _, small⟩ :=
    solve_steps inner progress.remaining progress.point before
  have known : last.gradient = gradientOfMerit program progress.multipliers result.point :=
    reached ▸ hasGradient_of_steps steps (start_hasGradient inner _ _ _)
  have same (j : Fin n) : Arith.Same
      ((reducedGradient program multipliers.lambda result.point.jacobian).get j)
      (last.gradient.get j) := by
    rw [known]
    exact same_gradientOfMerit program progress.multipliers result.point j
  have optimal : (assess settings program multipliers result.point).optimality ≤ tolerance := by
    have passed : projectedStepSize program result.point.x last.gradient ≤ tolerance :=
      reached ▸ small converged
    exact (LawfulNegation.le_iff (same_projectedStepSize program result.point.x same)
      (Arith.same_refl tolerance)).2 passed
  refine ⟨⟨last, steps, reached, small converged, known, same⟩, optimal, ?_⟩
  -- From here on the inner solve is the one the major iteration makes.
  rintro rfl sharp left previous stalls run
  have within : innerTolerance settings program (progress.major + 1) =
      settings.optimalityTolerance := by
    rcases sharp with resumes | same
    · exact innerTolerance_of_isSome settings program resumes _
    · exact same
  have code : run.1.code = 1 ↔ run.1 = .optimal := Finish.code_injective.eq_iff' rfl
  have solved : (progress.inner settings program callback).solve progress.remaining progress.point
      before = (result, (inner.solve progress.remaining progress.point before).2) :=
    Prod.mk.eta.symm
  rw [within] at optimal
  have ends := iterate_optimal_iff solved converged left previous stalls
  rw [code]
  exact ends.trans (and_iff_left optimal)

/-- Minimization of the square of a variable that is at least one, with the optimal multiplier. -/
def tangentProgram : Program Double 1 2 2 where
  objective := ⟨0, Nat.zero_lt_two⟩
  entries :=
    let entry := (⟨0, Nat.zero_lt_two⟩, ⟨0, Nat.zero_lt_one⟩)
    #v[entry, entry]
  linear := [(⟨1, Nat.one_lt_two⟩, ⟨0, Nat.zero_lt_one⟩, 1)]
  xLower := #v[-Arith.infinity]
  xUpper := #v[Arith.infinity]
  fLower := #v[-Arith.infinity, 1]
  fUpper := #v[Arith.infinity, Arith.infinity]
  start := #v[2.0]
  values := #v[0, 0]
  multipliers? := some #v[0, 2.0]

/-- The square is minimized from two. -/
def tangentProgress : Progress Double 1 2 :=
  .initial tangentSettings tangentProgram ⟨#v[2.0], #v[4.0, 2.0], #v[#v[4.0, 1.0]]⟩ []

/-- One step leads to the bound of the constraint. There the inner solve converges, and the solve
ends. -/
theorem assessment_of_converged_tangent :
    let tolerance := tangentSettings.optimalityTolerance
    let inner :=
      { tangentProgress.inner tangentSettings tangentProgram tangentCallback with tolerance }
    let result := (inner.solve tangentProgress.remaining tangentProgress.point (.fresh ())).1
    let run := iterate tangentSettings tangentProgram tangentCallback 1 Arith.infinity 0
      tangentProgress (.fresh ())
    result.exit = .converged ∧ result.remaining + 1 = tangentProgress.remaining ∧
      (assess tangentSettings tangentProgram
        (tangentProgress.multipliers.update tangentProgram result.point.f)
        result.point).optimality ≤ tolerance ∧
      run.1.code = 1 ∧ run.2.1.major = 1 := by
  intro tolerance inner result run
  have converged : result.exit = .converged := by decide +kernel
  have feasible : (violation tangentProgram tangentSettings.feasibilityTolerance
      result.point.f).most ≤ tangentSettings.feasibilityTolerance := by decide +kernel
  obtain ⟨_, optimal, ends⟩ := assessment_of_converged tangentSettings tangentProgram
    tangentCallback tangentProgress (.fresh ()) tolerance converged
  have sharp := (innerTolerance_of_isSome tangentSettings tangentProgram rfl 1).symm
  have ended := (ends sharp (.inl rfl) 0 Arith.infinity 0).2 feasible
  exact ⟨converged, by decide +kernel, optimal, ended⟩

end NonlinearProgram.AugmentedLagrangian
