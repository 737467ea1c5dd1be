import NonlinearProgram.Proofs.AugmentedLagrangian.AcceptedCall
import NonlinearProgram.Proofs.AugmentedLagrangian.MajorIteration
import NonlinearProgram.Proofs.Setup

/-!
# The state a solve leaves

Whatever its exit, a solve writes its state in one place: codes are read off the final point, the
superbasic variables are counted from the codes, and the multipliers are those of the last update.
The state has the form a later solve can resume from, `runCall_isResumable`. That the objective has
no multiplier is the one fact that has to be carried through all major iterations.
-/

namespace NonlinearProgram

/-- A state from which a solve with given numbers of variables and function rows can resume, and
whose codes and multipliers are those of a solve with the given row as its objective. -/
structure SolverState.IsResumable {R : Type} [Arith R] (state : SolverState R)
    (n nf objective : Nat) : Prop where
  fits : state.Fits n nf
  superbasics : 0 ≤ state.superbasics ∧ state.superbasics ≤ n
  xState : ∀ code ∈ state.xState.toList, code ∈ [0, 1, 2]
  fState : ∀ code ∈ state.fState.toList, code ∈ [0, 1, 3]
  objectiveState : state.fState[objective]? = some 3
  objectiveMul : state.fMul[objective]? = some 0

namespace AugmentedLagrangian

variable {R : Type} [Arith R] {τ : Type} {n nf neg : Nat}

/-! ## Codes -/

theorem variableCode_mem (tolerance value lower upper : R) :
    variableCode tolerance value lower upper ∈ [0, 1, 2] := by
  rw [variableCode]
  split
  case isTrue => simp
  case isFalse => split <;> simp

/-- The code of a row is that of a variable, with three instead of two. -/
theorem rowCode_mem (tolerance value lower upper : R) :
    rowCode tolerance value lower upper ∈ [0, 1, 3] := by
  have codes := variableCode_mem tolerance value lower upper
  rw [rowCode]
  split
  case isTrue => simp
  case isFalse between =>
    simp only [List.mem_cons, List.not_mem_nil, or_false] at codes ⊢
    omega

/-- There are at most as many superbasic variables as there are variables. -/
theorem superbasics_mem (xState fState : Array Int) :
    0 ≤ superbasics xState fState ∧ superbasics xState fState ≤ xState.size := by
  refine ⟨Int.natCast_nonneg _, Int.ofNat_le.2 ?_⟩
  exact (Nat.sub_le _ _).trans Array.countP_le_size

/-! ## The multiplier of the objective -/

/-- The objective has no multiplier. -/
def Progress.SparesObjective (progress : Progress R n nf) (program : Program R n nf neg) : Prop :=
  progress.multipliers.lambda.get program.objective = 0

variable {program : Program R n nf neg} {progress : Progress R n nf}

theorem Progress.SparesObjective.update (spares : progress.SparesObjective program)
    (settings : Settings R) :
    (progress.update settings program).SparesObjective program := by
  rw [SparesObjective] at spares ⊢
  simpa [Progress.update, Multipliers.update] using spares

theorem Progress.sparesObjective_initial (settings : Settings R) (program : Program R n nf neg)
    (point : Point R n nf) (log : List (Line R)) :
    (initial settings program point log).SparesObjective program := by
  rw [SparesObjective, initial, initialMultipliers]
  cases program.multipliers? with
  | none => simp
  | some lambda => simp

theorem iterate_sparesObjective (settings : Settings R) (program : Program R n nf neg)
    (callback : Callback R τ n nf neg) (left : Nat) (previous : R) (stalls : Nat)
    (progress : Progress R n nf) (before : Evaluator R τ nf neg)
    (spares : progress.SparesObjective program) :
    (iterate settings program callback left previous stalls progress before).2.1.SparesObjective
      program := by
  induction left generalizing previous stalls progress before with
  | zero => exact spares
  | succ left ih =>
      rcases solved : (progress.inner settings program callback).solve progress.remaining
        progress.point before with ⟨result, after⟩
      -- Only the update changes multipliers; a penalty that grows leaves them alone.
      have reached : (progress.reach result).SparesObjective program := spares
      rcases iterate_succ_cases solved left previous stalls with
        ⟨finish, _, outcome⟩ | ⟨_, ⟨finish, _, outcome⟩ | ⟨_, outcome⟩ | outcome⟩
      · rw [outcome]
        exact reached
      · rw [outcome]
        exact reached.update settings
      · rw [outcome]
        exact reached.update settings
      · rw [outcome]
        exact ih _ _ _ _ (reached.update settings)

theorem Program.run_sparesObjective (settings : Settings R) (program : Program R n nf neg)
    (callback : Callback R τ n nf neg) (state : τ) :
    (program.run settings callback state).2.1.SparesObjective program := by
  rcases started : (Evaluator.fresh state).point callback program (project program program.start)
    with ⟨point | _ | _, before⟩
  · rw [program.run_of_defined started]
    split
    case isTrue => exact Progress.sparesObjective_initial settings program _ _
    case isFalse =>
      exact iterate_sparesObjective settings program callback _ _ _ _ before
        (Progress.sparesObjective_initial settings program _ _)
  · rw [program.run_of_undefined started]
    exact Progress.sparesObjective_initial settings program _ _
  · rw [program.run_of_stop started]
    exact Progress.sparesObjective_initial settings program _ _

/-! ## The state -/

theorem Progress.state_isResumable (spares : progress.SparesObjective program)
    (settings : Settings R) :
    (progress.state settings program).IsResumable n nf program.objective where
  fits := by constructor <;> simp [Progress.state]
  superbasics := by
    have bounds := superbasics_mem (progress.state settings program).xState
      (progress.state settings program).fState
    simpa [Progress.state] using bounds
  xState := by
    intro code member
    simp only [Progress.state, Array.toList_ofFn, List.mem_ofFn] at member
    obtain ⟨j, rfl⟩ := member
    exact variableCode_mem _ _ _ _
  fState := by
    intro code member
    simp only [Progress.state, Array.toList_ofFn, List.mem_ofFn] at member
    obtain ⟨i, rfl⟩ := member
    split
    case isTrue => simp
    case isFalse => exact rowCode_mem _ _ _ _
  objectiveState := by simp [Progress.state]
  objectiveMul := by
    rw [SparesObjective] at spares
    simpa [Progress.state] using spares

/-- Whatever its exit, a solve of an accepted call leaves a state to resume from. -/
theorem runCall_isResumable {call : EngineCall R n nf neg} (accepted : call.accept = .ok program)
    (settings : Settings R) (callback : Callback R τ n nf neg) (state : τ) :
    (runCall settings call callback state).state.IsResumable n nf program.objective := by
  rw [runCall_of_accept accepted]
  exact Progress.state_isResumable (program.run_sparesObjective settings callback state) settings

end AugmentedLagrangian

end NonlinearProgram
