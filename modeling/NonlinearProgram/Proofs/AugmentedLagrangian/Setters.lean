import NonlinearProgram.Proofs.Arith.Multiples
import NonlinearProgram.Proofs.AugmentedLagrangian.Assignments
import NonlinearProgram.Proofs.AugmentedLagrangian.PositiveDivisors

/-!
# Setters keep settings valid

A setter either counts an error and leaves everything as it was, or assigns a value to the one
setting that its key names. A real value is assigned only if it is finite and positive, so the real
settings stay so after any calls, and the divisors of a solve are positive.
-/

namespace NonlinearProgram.AugmentedLagrangian

section Atomic

variable {R : Type} [Arith R]

/-- A setter counts one error and changes nothing, or it counts none and assigns what the value is
read as to the setting that the key names. -/
def IsAtomic (key : String) (value : OptionValue R) (solver : AugmentedLagrangian R) : Prop :=
  setOption key value solver = (1, solver) ∨
    ∃ name read changed, SettingName.ofKey? (canonicalKey key) = some name ∧
      name.read? value = some read ∧
      changed.value = Function.update solver.settings.value name read ∧
      setOption key value solver = (0, { solver with settings := changed })

theorem setOption_isAtomic (key : String) (value : OptionValue R)
    (solver : AugmentedLagrangian R) : IsAtomic key value solver := by
  rcases set : solver.settings.set key value with _ | changed
  · left
    simp only [setOption, set]
  · right
    obtain ⟨name, read, named, reads, same⟩ := Settings.exists_of_set set
    refine ⟨name, read, changed, named, reads, same, ?_⟩
    simp only [setOption, set]

/-- A solver after calls of its setters. -/
def afterCalls (solver : AugmentedLagrangian R) (calls : List (String × OptionValue R)) :
    AugmentedLagrangian R :=
  calls.foldl (fun solver call => (setOption call.1 call.2 solver).2) solver

/-- A value that is finite and positive. -/
def IsUsable (value : R) : Prop := Arith.isFinite value ∧ 0 < value

/-- The real settings are finite and positive. -/
structure Settings.IsValid (settings : Settings R) : Prop where
  optimalityTolerance : IsUsable settings.optimalityTolerance
  feasibilityTolerance : IsUsable settings.feasibilityTolerance
  penalty : IsUsable settings.penalty
  unboundedObjective : IsUsable settings.unboundedObjective

theorem Settings.isValid_iff {settings : Settings R} :
    settings.IsValid ↔ ∀ name real, settings.value name = .real real → IsUsable real := by
  constructor
  · rintro ⟨optimality, feasibility, penalty, unbounded⟩ name real holds
    cases name <;> cases holds <;> assumption
  · intro usable
    constructor
    case optimalityTolerance => exact usable .optimalityTolerance _ rfl
    case feasibilityTolerance => exact usable .feasibilityTolerance _ rfl
    case penalty => exact usable .penalty _ rfl
    case unboundedObjective => exact usable .unboundedObjective _ rfl

variable [LawfulOrder R]

theorem Settings.IsValid.set {settings changed : Settings R} (valid : settings.IsValid)
    {key : String} {value : OptionValue R} (accepted : settings.set key value = some changed) :
    changed.IsValid := by
  rw [isValid_iff] at valid ⊢
  intro name real holds
  refine real_of_set (fun real finite above => ?_) (valid name) accepted holds
  exact ⟨finite, LawfulOrder.pos_of_isFinite finite above⟩

theorem afterCalls_valid {solver : AugmentedLagrangian R}
    (valid : solver.settings.IsValid) (calls : List (String × OptionValue R)) :
    (afterCalls solver calls).settings.IsValid := by
  induction calls generalizing solver with
  | nil => exact valid
  | cons call rest ih =>
      refine ih ?_
      rcases set : solver.settings.set call.1 call.2 with _ | changed
      · simp only [setOption, set]
        exact valid
      · simp only [setOption, set]
        exact valid.set set

end Atomic

theorem default_isValid : (Settings.default : Settings Double).IsValid := by
  constructor
  all_goals exact ⟨by decide +kernel, by decide +kernel⟩

/-- Whatever the setters of a new solver are called with, every call changes nothing or one setting,
and the real settings are finite and positive. In a solve with them, nothing depends on a quotient
by what is not positive. -/
theorem afterCalls_isSound (calls : List (String × OptionValue Double)) :
    let solver := afterCalls new calls
    (∀ key value, IsAtomic key value solver) ∧ solver.settings.IsValid ∧
      ∀ {τ : Type} {n nf neg : Nat} (otherwise : Double → Double → Double)
        (call : EngineCall Double n nf neg) (callback : Callback Double τ n nf neg) (state : τ),
        @runCall Double (Arith.withQuotient inferInstance otherwise) τ n nf neg solver.settings
            call callback state =
          runCall solver.settings call callback state := by
  intro solver
  have valid : solver.settings.IsValid := afterCalls_valid default_isValid calls
  refine ⟨fun key value => setOption_isAtomic key value solver, valid, ?_⟩
  intro τ n nf neg otherwise call callback state
  have one : (0 : Double) < 1 := by decide +kernel
  have grows (penalty : Double) (positive : 0 < penalty) : 0 < penalty * penaltyFactor :=
    Double.mul_pos_of_isWhole Double.isWhole_ten positive
  exact runCall_withQuotient otherwise one grows valid.penalty.2 call callback state

end NonlinearProgram.AugmentedLagrangian
