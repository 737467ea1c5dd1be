import NonlinearProgram.Proofs.AugmentedLagrangian.Simulation

/-!
# The exchanges of a solve

A recorded callback keeps the requests made of it with the replies it gave. Recording changes
nothing else, `runCall_recorded`. A trial adds one exchange, for function values, and where these
are defined perhaps a second one, for derivatives at the same point, `Trial.added`.
-/

namespace NonlinearProgram

/-- A request and the reply to it. -/
structure Exchange (R : Type) (n nf neg : Nat) where
  request : Request R n
  reply : Reply R nf neg

namespace Exchange

variable {R : Type} {n nf neg : Nat}

/-- Function values are asked for, and nothing else. -/
def AsksValues (exchange : Exchange R n nf neg) (status : Int) (x : Vector R n) : Prop :=
  exchange.request = ⟨status, x, 1, 0⟩

/-- Function values and derivatives are asked for. -/
def AsksDerivatives (exchange : Exchange R n nf neg) (status : Int) (x : Vector R n) : Prop :=
  exchange.request = ⟨status, x, 1, 1⟩

/-- The reply asks to stop. -/
def IsStop (exchange : Exchange R n nf neg) : Prop := exchange.reply.status ≤ -2

variable [Arith R]

/-- The reply has no objection, and what was asked for is finite. -/
def IsDefined (exchange : Exchange R n nf neg) : Prop :=
  -1 < exchange.reply.status ∧ AugmentedLagrangian.allFinite exchange.reply.f ∧
    (0 < exchange.request.derivativesWanted → AugmentedLagrangian.allFinite exchange.reply.g)

/-- The point with the values and derivatives of a reply, assembled. -/
def point (exchange : Exchange R n nf neg)
    (program : AugmentedLagrangian.Program R n nf neg) : AugmentedLagrangian.Point R n nf where
  x := exchange.request.x
  f := AugmentedLagrangian.assembleValues program.linear exchange.request.x exchange.reply.f
  jacobian := AugmentedLagrangian.assembleJacobian program exchange.reply.g

/-- What became of an evaluation with a given value, as its exchange tells. -/
def Tells {α : Type} (exchange : Exchange R n nf neg) (value : α) :
    AugmentedLagrangian.Evaluated α → Prop
  | .defined known => exchange.IsDefined ∧ known = value
  | .undefined => ¬exchange.IsDefined ∧ ¬exchange.IsStop
  | .stop => exchange.IsStop

instance (exchange : Exchange R n nf neg) : Decidable exchange.IsDefined :=
  inferInstanceAs (Decidable (_ ∧ _ ∧ (_ → _)))

theorem IsDefined.not_isStop {exchange : Exchange R n nf neg} (defined : exchange.IsDefined) :
    ¬exchange.IsStop := by
  intro stop
  have replied := defined.1
  rw [IsStop] at stop
  omega

end Exchange

/-- The same callback, with the exchanges it took part in as part of its state. -/
def Callback.recorded {R τ : Type} {n nf neg : Nat} (callback : Callback R τ n nf neg) :
    Callback R (List (Exchange R n nf neg) × τ) n nf neg :=
  fun request f g state =>
    let answer := callback request f g state.2
    (answer.1, state.1 ++ [⟨request, answer.1⟩], answer.2)

namespace AugmentedLagrangian

variable {R : Type} [Arith R] {τ : Type} {n nf neg : Nat}

omit [Arith R] in
theorem recorded_answersLike (callback : Callback R τ n nf neg) :
    callback.recorded.AnswersLike Prod.snd callback := by
  intro request f g state _
  rfl

/-- The exchanges of a solve, in order. -/
def exchanges (settings : Settings R) (call : EngineCall R n nf neg)
    (callback : Callback R τ n nf neg) (state : τ) : List (Exchange R n nf neg) :=
  (runCall settings call callback.recorded ([], state)).callbackState.1

/-- A recorded solve reports the same, leaves the same state and prints the same lines. -/
theorem runCall_recorded (settings : Settings R) (call : EngineCall R n nf neg)
    (callback : Callback R τ n nf neg) (state : τ) :
    let outcome := runCall settings call callback state
    let recorded := runCall settings call callback.recorded ([], state)
    outcome.report = recorded.report ∧ outcome.state = recorded.state ∧
      outcome.log = recorded.log :=
  runCall_of_answersLike (recorded_answersLike callback) settings call ([], state)

/-- What the record adds to the state of the callback is all that it adds. -/
theorem callbackState_recorded (settings : Settings R) (call : EngineCall R n nf neg)
    (callback : Callback R τ n nf neg) (state : τ) :
    (runCall settings call callback.recorded ([], state)).callbackState.2 =
      (runCall settings call callback state).callbackState := by
  exact (callbackState_of_answersLike (recorded_answersLike callback) (fun _ _ _ _ => rfl) settings
    call ([], state)).symm

/-! ## Verdicts -/

theorem verdict_eq_stop_iff {needDerivatives : Bool} {reply : Reply R nf neg} :
    verdict needDerivatives reply = .stop ↔ reply.status ≤ -2 := by
  rw [verdict]
  constructor
  · intro stops
    by_contra goesOn
    rw [if_neg goesOn] at stops
    split at stops
    case isTrue => cases stops
    case isFalse => split at stops; cases stops; split at stops <;> cases stops
  · intro stops
    exact if_pos stops

theorem verdict_eq_defined_iff {needDerivatives : Bool} {reply : Reply R nf neg} :
    verdict needDerivatives reply = .defined () ↔
      -1 < reply.status ∧ allFinite reply.f ∧ (needDerivatives → allFinite reply.g) := by
  rw [verdict]
  by_cases stops : reply.status ≤ -2
  · rw [if_pos stops]
    simp only [reduceCtorEq, false_iff]
    omega
  · rw [if_neg stops]
    by_cases undefined : reply.status = -1
    · rw [if_pos undefined]
      simp only [reduceCtorEq, false_iff]
      omega
    · rw [if_neg undefined]
      have replied : -1 < reply.status := by omega
      simp only [replied, true_and]
      cases allFinite reply.f <;> cases allFinite reply.g <;> cases needDerivatives <;> simp

theorem tells_verdict {α : Type} {exchange : Exchange R n nf neg} {needDerivatives : Bool}
    (wanted : needDerivatives ↔ 0 < exchange.request.derivativesWanted) (value : α) :
    exchange.Tells value ((verdict needDerivatives exchange.reply).map fun _ => value) := by
  have defined : verdict needDerivatives exchange.reply = .defined () ↔ exchange.IsDefined := by
    rw [verdict_eq_defined_iff, wanted, Exchange.IsDefined]
  have stop : verdict needDerivatives exchange.reply = .stop ↔ exchange.IsStop :=
    verdict_eq_stop_iff
  rcases known : verdict needDerivatives exchange.reply with _ | _ | _
  · exact ⟨defined.1 known, rfl⟩
  · simp only [known, reduceCtorEq, false_iff] at defined stop
    exact ⟨defined, stop⟩
  · exact stop.1 known

/-! ## What calls add to the record -/

section Record

variable {callback : Callback R τ n nf neg} {program : Program R n nf neg}
variable {before after : Evaluator R (List (Exchange R n nf neg) × τ) nf neg}

theorem values_recorded {x : Vector R n} {outcome : Evaluated (Vector R nf)}
    (called : before.values callback.recorded program x = (outcome, after)) :
    ∃ exchange : Exchange R n nf neg,
      exchange.AsksValues before.status x ∧ after.state.1 = before.state.1 ++ [exchange] ∧
        exchange.Tells (assembleValues program.linear x exchange.reply.f) outcome := by
  rw [Evaluator.values_eq] at called
  cases called
  exact ⟨⟨_, _⟩, rfl, rfl, tells_verdict (by simp) _⟩

theorem point_recorded {x : Vector R n} {outcome : Evaluated (Point R n nf)}
    (called : before.point callback.recorded program x = (outcome, after)) :
    ∃ exchange : Exchange R n nf neg,
      exchange.AsksDerivatives before.status x ∧ after.state.1 = before.state.1 ++ [exchange] ∧
        exchange.Tells (exchange.point program) outcome := by
  rw [Evaluator.point_eq] at called
  cases called
  exact ⟨⟨_, _⟩, rfl, rfl, tells_verdict (by simp) _⟩

omit [Arith R] in
theorem finish_recorded (evaluator : Evaluator R (List (Exchange R n nf neg) × τ) nf neg)
    (callback : Callback R τ n nf neg) (x : Vector R n) :
    ∃ last : Exchange R n nf neg,
      last.request = ⟨2, x, 0, 0⟩ ∧
        (evaluator.finish callback.recorded x).state.1 = evaluator.state.1 ++ [last] :=
  ⟨⟨_, _⟩, rfl, rfl⟩

/-- A trial adds a call for function values. Where they are defined a call for derivatives at the
same point may follow, and where these are defined the point becomes that of the call. -/
theorem Trial.added {start finish : Standing R (List (Exchange R n nf neg) × τ) n nf neg}
    (trial : Trial program callback.recorded start finish) :
    ∃ x, ∃ values : Exchange R n nf neg,
      values.AsksValues start.2.status x ∧ ¬values.IsStop ∧
        (finish.2.state.1 = start.2.state.1 ++ [values] ∧ finish.1 = start.1 ∨
          ∃ derivatives : Exchange R n nf neg,
            finish.2.state.1 = start.2.state.1 ++ [values, derivatives] ∧
              values.IsDefined ∧ derivatives.AsksDerivatives 0 x ∧ ¬derivatives.IsStop ∧
                (derivatives.IsDefined ∧ finish.1 = derivatives.point program ∨
                  ¬derivatives.IsDefined ∧ finish.1 = start.1)) := by
  cases trial with
  | undefined move called =>
      obtain ⟨values, asks, record, tells⟩ := values_recorded called
      exact ⟨_, values, asks, tells.2, .inl ⟨record, rfl⟩⟩
  | refused move called =>
      obtain ⟨values, asks, record, tells⟩ := values_recorded called
      exact ⟨_, values, asks, tells.1.not_isStop, .inl ⟨record, rfl⟩⟩
  | underivable move called derived =>
      obtain ⟨values, asks, record, tells⟩ := values_recorded called
      obtain ⟨derivatives, asksToo, recordToo, tellsToo⟩ := point_recorded derived
      rw [Evaluator.status_of_values called] at asksToo
      rw [record, List.append_assoc] at recordToo
      exact ⟨_, values, asks, tells.1.not_isStop,
        .inr ⟨derivatives, recordToo, tells.1, asksToo, tellsToo.2, .inr ⟨tellsToo.1, rfl⟩⟩⟩
  | accepted move called derived =>
      obtain ⟨values, asks, record, tells⟩ := values_recorded called
      obtain ⟨derivatives, asksToo, recordToo, tellsToo⟩ := point_recorded derived
      rw [Evaluator.status_of_values called] at asksToo
      rw [record, List.append_assoc] at recordToo
      exact ⟨_, values, asks, tells.1.not_isStop,
        .inr ⟨derivatives, recordToo, tells.1, asksToo, tellsToo.1.not_isStop, .inl tellsToo⟩⟩

/-- A stop adds the call that asked for it, after the call for the function values of its point if
it asked for derivatives. -/
theorem Stop.added (stop : Stop program callback.recorded before after) :
    ∃ x, ∃ values : Exchange R n nf neg,
      values.AsksValues before.status x ∧
        (after.state.1 = before.state.1 ++ [values] ∧ values.IsStop ∨
          ∃ derivatives : Exchange R n nf neg,
            after.state.1 = before.state.1 ++ [values, derivatives] ∧ values.IsDefined ∧
              derivatives.AsksDerivatives 0 x ∧ derivatives.IsStop) := by
  cases stop with
  | values move called =>
      obtain ⟨values, asks, record, tells⟩ := values_recorded called
      exact ⟨_, values, asks, .inl ⟨record, tells⟩⟩
  | derivatives move called derived =>
      obtain ⟨values, asks, record, tells⟩ := values_recorded called
      obtain ⟨derivatives, asksToo, recordToo, tellsToo⟩ := point_recorded derived
      rw [Evaluator.status_of_values called] at asksToo
      rw [record, List.append_assoc] at recordToo
      exact ⟨_, values, asks, .inr ⟨derivatives, recordToo, tells.1, asksToo, tellsToo⟩⟩

/-- A solve of an accepted call begins with a call for the derivatives at the projected starting
point. It ends there unless they are defined; if they are, it goes on by trials. -/
theorem Program.run_recorded (settings : Settings R) (program : Program R n nf neg)
    (callback : Callback R τ n nf neg) (state : τ) :
    let run := program.run settings callback.recorded ([], state)
    ∃ first : Exchange R n nf neg,
      first.AsksDerivatives 1 (project program program.start) ∧
        ((run.1 = .userStop ∧ run.2.2.state.1 = [first] ∧ first.IsStop) ∨
          (run.1 = .undefinedAtStart ∧ run.2.2.state.1 = [first] ∧ ¬first.IsDefined ∧
            ¬first.IsStop) ∨
          (first.IsDefined ∧ ∃ before,
            before.state.1 = [first] ∧ before.status = 0 ∧
              Course program callback.recorded (run.1 = .userStop) (first.point program, before)
                (run.2.1.point, run.2.2))) := by
  intro run
  rcases started : (Evaluator.fresh ([], state)).point callback.recorded program
    (project program program.start) with ⟨outcome, before⟩
  obtain ⟨first, asks, record, tells⟩ := point_recorded started
  refine ⟨first, asks, ?_⟩
  cases outcome with
  | defined point =>
      refine .inr (.inr ⟨tells.1, before, record, Evaluator.status_of_point started, ?_⟩)
      rw [← tells.2]
      exact program.run_course started
  | undefined =>
      have ends : run = _ := program.run_of_undefined started
      rw [ends]
      exact .inr (.inl ⟨rfl, record, tells⟩)
  | stop =>
      have ends : run = _ := program.run_of_stop started
      rw [ends]
      exact .inl ⟨rfl, record, tells⟩

/-- Unless the callback asked to stop, one more call ends the solve. -/
theorem Program.solve_recorded (settings : Settings R) (program : Program R n nf neg)
    (minimums : Lengths) (callback : Callback R τ n nf neg)
    (state : List (Exchange R n nf neg) × τ) :
    let run := program.run settings callback.recorded state
    let record := (program.solve settings minimums callback.recorded state).callbackState.1
    run.1 = .userStop ∧ record = run.2.2.state.1 ∨
      run.1 ≠ .userStop ∧ ∃ last : Exchange R n nf neg,
        last.request = ⟨2, run.2.1.point.x, 0, 0⟩ ∧ record = run.2.2.state.1 ++ [last] := by
  intro run record
  by_cases stopped : run.1 = .userStop
  · refine .inl ⟨stopped, ?_⟩
    simp only [record, Program.solve]
    rw [if_pos stopped]
  · obtain ⟨last, asks, added⟩ := finish_recorded run.2.2 callback run.2.1.point.x
    refine .inr ⟨stopped, last, asks, ?_⟩
    simp only [record, Program.solve]
    rw [if_neg stopped]
    exact added

end Record

/-! ## A small solve -/

/-- Minimization of the square of a variable that is at least one, resumed from two with the
optimal multiplier. The derivative of the square comes in two halves, and the constraint is
linear. -/
def tangentCall : EngineCall Double 1 2 2 where
  mode := .warm
  name := "tangent"
  objectiveConstant := 0
  objectiveRow := 1
  linear := #[1]
  linearRows := #[2]
  linearColumns := #[1]
  rows := #v[1, 1]
  columns := #[1, 1]
  xLower := #[-1.0e20]
  xUpper := #[1.0e20]
  fLower := #[-1.0e20, 1]
  fUpper := #[1.0e20, 1.0e20]
  xNames := #[]
  fNames := #[]
  state :=
    { superbasics := 0, x := #[2.0], xState := #[2], xMul := #[0], f := #[0, 0]
      fState := #[3, 3], fMul := #[0, 2.0] }
  workspace := .exact ⟨600, 700, 800⟩

/-- The square as the objective, with its derivative in halves. -/
def tangentCallback : Callback Double Unit 1 2 2 := fun request _ _ =>
  let x := request.x.get 0
  pure ⟨0, #v[x * x, 0], #v[x, x]⟩

/-- Default settings with a penalty that is a power of two. -/
def tangentSettings : Settings Double := { Settings.default with penalty := 8.0 }

/-- The starting point, one trial that is accepted at once, and the last notification. -/
example : (exchanges tangentSettings tangentCall tangentCallback ()).map
    (fun exchange => (exchange.request.status, exchange.request.derivativesWanted)) =
    [(1, 1), (0, 0), (0, 1), (2, 0)] := by
  decide +kernel

end AugmentedLagrangian

end NonlinearProgram
