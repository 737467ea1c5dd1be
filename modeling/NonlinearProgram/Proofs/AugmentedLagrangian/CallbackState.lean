import NonlinearProgram.Proofs.AugmentedLagrangian.AcceptedCall
import NonlinearProgram.Proofs.AugmentedLagrangian.Trials

/-!
# The state of a callback

A solve reaches the state of its callback by calls alone. What every call preserves holds after the
solve if it held before, `runCall_preserves`.
-/

namespace NonlinearProgram

/-- Every call preserves a property of the callback's state. -/
def Callback.Preserves {R τ : Type} {n nf neg : Nat} (callback : Callback R τ n nf neg)
    (Holds : τ → Prop) : Prop :=
  ∀ request f g state, Holds state → Holds (callback request f g state).2

namespace AugmentedLagrangian

variable {R : Type} [Arith R] {τ : Type} {n nf neg : Nat}
variable {callback : Callback R τ n nf neg} {Holds : τ → Prop} {program : Program R n nf neg}

namespace Evaluator

variable {before after : Evaluator R τ nf neg} {x : Vector R n}

theorem preserves_of_values (preserves : callback.Preserves Holds)
    {outcome : Evaluated (Vector R nf)}
    (called : before.values callback program x = (outcome, after)) (holds : Holds before.state) :
    Holds after.state := by
  rw [values_eq] at called
  rw [← (Prod.mk.inj called).2]
  exact preserves _ _ _ _ holds

theorem preserves_of_point (preserves : callback.Preserves Holds)
    {outcome : Evaluated (Point R n nf)}
    (called : before.point callback program x = (outcome, after)) (holds : Holds before.state) :
    Holds after.state := by
  rw [point_eq] at called
  rw [← (Prod.mk.inj called).2]
  exact preserves _ _ _ _ holds

end Evaluator

theorem Trial.preserves (preserves : callback.Preserves Holds)
    {start finish : Standing R τ n nf neg} (trial : Trial program callback start finish)
    (holds : Holds start.2.state) : Holds finish.2.state := by
  cases trial with
  | undefined _ values => exact Evaluator.preserves_of_values preserves values holds
  | refused _ values => exact Evaluator.preserves_of_values preserves values holds
  | underivable _ values derivatives =>
      exact Evaluator.preserves_of_point preserves derivatives
        (Evaluator.preserves_of_values preserves values holds)
  | accepted _ values derivatives =>
      exact Evaluator.preserves_of_point preserves derivatives
        (Evaluator.preserves_of_values preserves values holds)

theorem Stop.preserves (preserves : callback.Preserves Holds) {before after : Evaluator R τ nf neg}
    (stop : Stop program callback before after) (holds : Holds before.state) :
    Holds after.state := by
  cases stop with
  | values _ values => exact Evaluator.preserves_of_values preserves values holds
  | derivatives _ values derivatives =>
      exact Evaluator.preserves_of_point preserves derivatives
        (Evaluator.preserves_of_values preserves values holds)

theorem Course.preserves (preserves : callback.Preserves Holds) {isStopped : Bool}
    {start finish : Standing R τ n nf neg} (course : Course program callback isStopped start finish)
    (holds : Holds start.2.state) : Holds finish.2.state :=
  course.preserve (Holds ·.2.state) (Trial.preserves preserves) (Stop.preserves preserves) holds

theorem Program.run_preserves (preserves : callback.Preserves Holds) (settings : Settings R)
    (program : Program R n nf neg) {state : τ} (holds : Holds state) :
    Holds (program.run settings callback state).2.2.state := by
  rcases started : (Evaluator.fresh state).point callback program (project program program.start)
    with ⟨outcome, before⟩
  have holdsBefore : Holds before.state := Evaluator.preserves_of_point preserves started holds
  cases outcome with
  | defined point => exact (program.run_course started).preserves preserves holdsBefore
  | undefined =>
      rw [program.run_of_undefined started]
      exact holdsBefore
  | stop =>
      rw [program.run_of_stop started]
      exact holdsBefore

/-- What every call of the callback preserves is preserved by a solve. -/
theorem runCall_preserves (preserves : callback.Preserves Holds) (settings : Settings R)
    (call : EngineCall R n nf neg) {state : τ} (holds : Holds state) :
    Holds (runCall settings call callback state).callbackState := by
  rcases accepted : call.accept with refusal | program
  · rw [runCall_of_refuse accepted]
    exact holds
  · have evaluated := Program.run_preserves preserves settings program holds
    rw [runCall_of_accept accepted]
    simp only [Program.solve]
    split
    case isTrue => exact evaluated
    case isFalse => exact preserves _ _ _ _ evaluated

end AugmentedLagrangian

end NonlinearProgram
