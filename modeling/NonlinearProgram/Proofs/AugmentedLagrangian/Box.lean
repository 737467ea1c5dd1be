import NonlinearProgram.Proofs.AugmentedLagrangian.Exchanges
import NonlinearProgram.Proofs.AugmentedLagrangian.WellFormed

/-!
# Solves stay in the box

Every point that a solve evaluates is a projection into the box of the variables, and the current
point is always one that has been evaluated. A trial keeps both, whatever moves are tried and
whatever the callback answers: what holds of all projections holds of all points of a solve,
`runCall_holds`. The bounds of an accepted call are in order, so that a projection is never strictly
outside of them, even where the move is not a number.
-/

namespace NonlinearProgram

theorem LawfulOrder.not_outside_clamp {R : Type} [Arith R] [LawfulOrder R] {lower upper : R}
    (ordered : lower ≤ upper) (value : R) :
    ¬Arith.clamp value lower upper < lower ∧ ¬upper < Arith.clamp value lower upper := by
  obtain ⟨lowerNumber, upperNumber⟩ := not_isNaN_of_le ordered
  rw [Arith.clamp]
  split
  case isTrue => exact ⟨not_lt_of_le (le_refl lowerNumber), not_lt_of_le ordered⟩
  case isFalse notBelow =>
    split
    case isTrue => exact ⟨not_lt_of_le ordered, not_lt_of_le (le_refl upperNumber)⟩
    case isFalse notAbove => exact ⟨notBelow, notAbove⟩

namespace AugmentedLagrangian

variable {R : Type} [Arith R] {τ : Type} {n nf neg : Nat}

/-- No coordinate is strictly below its lower bound or strictly above its upper bound. -/
def Program.Contains (program : Program R n nf neg) (x : Vector R n) : Prop :=
  ∀ j, ¬x.get j < program.xLower.get j ∧ ¬program.xUpper.get j < x.get j

/-- The nearest point of an ordered box is in it. -/
theorem Program.IsOrdered.contains_project [LawfulOrder R] {program : Program R n nf neg}
    (ordered : program.IsOrdered) (move : Vector R n) :
    program.Contains (project program move) := by
  intro j
  have inside := LawfulOrder.not_outside_clamp (ordered.x j) (move.get j)
  simpa [project] using inside

/-! ## Points of a solve -/

/-- The current point and all points in the record have a property. -/
structure HoldsAt (Holds : Vector R n → Prop)
    (standing : Standing R (List (Exchange R n nf neg) × τ) n nf neg) : Prop where
  current : Holds standing.1.x
  requested : ∀ exchange ∈ standing.2.state.1, Holds exchange.request.x

section Points

variable {callback : Callback R τ n nf neg} {program : Program R n nf neg}
variable {Holds : Vector R n → Prop}
variable {before after : Evaluator R (List (Exchange R n nf neg) × τ) nf neg}

theorem requested_of_values {x : Vector R n} {outcome : Evaluated (Vector R nf)}
    (called : before.values callback.recorded program x = (outcome, after)) (holds : Holds x)
    (requested : ∀ exchange ∈ before.state.1, Holds exchange.request.x) :
    ∀ exchange ∈ after.state.1, Holds exchange.request.x := by
  obtain ⟨exchange, asks, record, _⟩ := values_recorded called
  rw [record, List.forall_mem_append, List.forall_mem_singleton, asks]
  exact ⟨requested, holds⟩

theorem requested_of_point {x : Vector R n} {outcome : Evaluated (Point R n nf)}
    (called : before.point callback.recorded program x = (outcome, after)) (holds : Holds x)
    (requested : ∀ exchange ∈ before.state.1, Holds exchange.request.x) :
    ∀ exchange ∈ after.state.1, Holds exchange.request.x := by
  obtain ⟨exchange, asks, record, _⟩ := point_recorded called
  rw [record, List.forall_mem_append, List.forall_mem_singleton, asks]
  exact ⟨requested, holds⟩

/-- A point that is defined is the one that was asked for. -/
theorem x_of_point {x : Vector R n} {point : Point R n nf}
    (called : before.point callback.recorded program x = (.defined point, after)) :
    point.x = x := by
  obtain ⟨exchange, asks, _, tells⟩ := point_recorded called
  rw [tells.2, Exchange.point, asks]

variable (projected : ∀ move, Holds (project program move))

include projected

/-- A trial goes to a projection or stays, and asks for projections only. -/
theorem Trial.holdsAt {start finish : Standing R (List (Exchange R n nf neg) × τ) n nf neg}
    (trial : Trial program callback.recorded start finish) (holds : HoldsAt Holds start) :
    HoldsAt Holds finish := by
  cases trial with
  | undefined move values =>
      exact ⟨holds.current, requested_of_values values (projected move) holds.requested⟩
  | refused move values =>
      exact ⟨holds.current, requested_of_values values (projected move) holds.requested⟩
  | underivable move values derivatives =>
      have between := requested_of_values values (projected move) holds.requested
      exact ⟨holds.current, requested_of_point derivatives (projected move) between⟩
  | accepted move values derivatives =>
      have between := requested_of_values values (projected move) holds.requested
      constructor
      · rw [x_of_point derivatives]
        exact projected move
      · exact requested_of_point derivatives (projected move) between

theorem Stop.holdsAt {point : Point R n nf} (stop : Stop program callback.recorded before after)
    (holds : HoldsAt Holds (point, before)) : HoldsAt Holds (point, after) := by
  cases stop with
  | values move values =>
      exact ⟨holds.current, requested_of_values values (projected move) holds.requested⟩
  | derivatives move values derivatives =>
      have between := requested_of_values values (projected move) holds.requested
      exact ⟨holds.current, requested_of_point derivatives (projected move) between⟩

theorem Course.holdsAt {isStopped : Bool}
    {start finish : Standing R (List (Exchange R n nf neg) × τ) n nf neg}
    (course : Course program callback.recorded isStopped start finish)
    (holds : HoldsAt Holds start) : HoldsAt Holds finish :=
  course.preserve (HoldsAt Holds) (Trial.holdsAt projected) (Stop.holdsAt projected) holds

theorem Program.run_holdsAt (settings : Settings R) (callback : Callback R τ n nf neg)
    (state : τ) :
    let run := program.run settings callback.recorded ([], state)
    HoldsAt Holds (run.2.1.point, run.2.2) := by
  intro run
  rcases started : (Evaluator.fresh ([], state)).point callback.recorded program
    (project program program.start) with ⟨outcome, before⟩
  have requested : ∀ exchange ∈ before.state.1, Holds exchange.request.x :=
    requested_of_point started (projected _) (fun _ member => nomatch member)
  cases outcome with
  | defined point =>
      apply (program.run_course started).holdsAt projected
      constructor
      · rw [x_of_point started]
        exact projected _
      · exact requested
  | undefined =>
      have ends : run = _ := program.run_of_undefined started
      rw [ends]
      exact ⟨projected _, requested⟩
  | stop =>
      have ends : run = _ := program.run_of_stop started
      rw [ends]
      exact ⟨projected _, requested⟩

end Points

/-- What holds of all projections into the box of an accepted call holds of every point at which its
callback is called and of the point that is returned. -/
theorem runCall_holds {call : EngineCall R n nf neg} {program : Program R n nf neg}
    (accepted : call.accept = .ok program) {Holds : Vector R n → Prop}
    (projected : ∀ move, Holds (project program move)) (settings : Settings R)
    (callback : Callback R τ n nf neg) (state : τ) :
    (∀ exchange ∈ exchanges settings call callback state, Holds exchange.request.x) ∧
      ∃ x, (runCall settings call callback state).state.x = x.toArray ∧ Holds x := by
  have holds := Program.run_holdsAt projected settings callback state
  have solved := runCall_of_accept accepted settings callback.recorded ([], state)
  constructor
  · rw [exchanges, solved]
    rcases program.solve_recorded settings (storageNeeds call.storageRequest) callback
      ([], state) with ⟨_, record⟩ | ⟨_, last, asks, record⟩
    · rw [record]
      exact holds.requested
    · rw [record, List.forall_mem_append, List.forall_mem_singleton, asks]
      exact ⟨holds.requested, holds.current⟩
  · refine ⟨_, ?_, holds.current⟩
    rw [(runCall_recorded settings call callback state).2.1, solved]
    rfl

/-- A solve of an accepted call does not leave the box of its decoded bounds: at every call of the
callback, the last notification included, and in the point that is returned no coordinate is
strictly below its lower bound or strictly above its upper bound. -/
theorem runCall_contains [LawfulInfinity R] {call : EngineCall R n nf neg}
    {program : Program R n nf neg} (accepted : call.accept = .ok program) (settings : Settings R)
    (callback : Callback R τ n nf neg) (state : τ) :
    program.xLower.toArray = call.xLower.map restoreBound ∧
      program.xUpper.toArray = call.xUpper.map restoreBound ∧
      (∀ exchange ∈ exchanges settings call callback state,
        program.Contains exchange.request.x) ∧
      ∃ x, (runCall settings call callback state).state.x = x.toArray ∧ program.Contains x := by
  have describes := EngineCall.describes_of_accept accepted
  have inside := runCall_holds accepted (isOrdered_of_accept accepted).contains_project settings
    callback state
  exact ⟨describes.xLower, describes.xUpper, inside.1, inside.2⟩

/-- The square of a variable between one and a half and three, started from beyond the box. -/
def boxedCall : EngineCall Double 1 2 2 :=
  { tangentCall with
    xLower := #[1.5]
    xUpper := #[3.0]
    state := { tangentCall.state with x := #[5.0] } }

/-- The solve begins at the upper bound and ends at the lower one. -/
theorem runCall_boxedCall_contains :
    let record := exchanges tangentSettings boxedCall tangentCallback ()
    let outcome := runCall tangentSettings boxedCall tangentCallback ()
    record.map (·.request.x.toList) == [[3.0], [2.0], [2.0], [1.5], [1.5], [1.5]] ∧
      ∃ program : Program Double 1 2 2, boxedCall.accept = .ok program ∧
        (∀ exchange ∈ record, program.Contains exchange.request.x) ∧
        ∃ x, outcome.state.x = x.toArray ∧ program.Contains x := by
  intro record outcome
  refine ⟨by decide +kernel, ?_⟩
  rcases accepted : boxedCall.accept with refusal | program
  · have isOk : boxedCall.accept.isOk := by decide +kernel
    rw [accepted] at isOk
    cases isOk
  · have inside := runCall_contains accepted tangentSettings tangentCallback ()
    exact ⟨program, rfl, inside.2.2⟩

end AugmentedLagrangian

end NonlinearProgram
