import NonlinearProgram.Proofs.AugmentedLagrangian.AcceptedCall
import NonlinearProgram.Proofs.AugmentedLagrangian.Exchanges

/-!
# The protocol of callbacks

The first call of a solve asks for the derivatives at the projected starting point. From then on
derivatives are asked for only where the call before has found the function values defined. A solve
ends with one notification, unless a call asked to stop; then that call is the last one. A call that
is refused makes no calls at all. All this is `runCall_protocol`, for every callback.
-/

namespace NonlinearProgram

/-- An exchange may stand right before another: where derivatives are asked for, the exchange before
asked for function values only, at the same point, and they were defined. -/
def Exchange.MayPrecede {R : Type} [Arith R] {n nf neg : Nat}
    (before after : Exchange R n nf neg) : Prop :=
  after.request.derivativesWanted = 1 →
    before.request.derivativesWanted = 0 ∧ before.request.x = after.request.x ∧ before.IsDefined

namespace AugmentedLagrangian

variable {R : Type} [Arith R] {τ : Type} {n nf neg : Nat}

/-! ## Evaluations in order -/

/-- Evaluations in the order in which a solve makes them, the first one at a given point. -/
structure IsOrderly (x : Vector R n) (record : List (Exchange R n nf neg)) : Prop where
  opening : ∃ first later, record = first :: later ∧ first.AsksDerivatives 1 x ∧
    ∀ exchange ∈ later, exchange.request.status = 0 ∧ exchange.request.valuesWanted = 1
  chain : record.IsChain Exchange.MayPrecede

namespace IsOrderly

variable {x y : Vector R n} {record more : List (Exchange R n nf neg)}
variable {values derivatives : Exchange R n nf neg}

theorem singleton {first : Exchange R n nf neg} (asks : first.AsksDerivatives 1 x) :
    IsOrderly x [first] where
  opening := ⟨first, [], rfl, asks, fun _ member => nomatch member⟩
  chain := .singleton first

theorem append (orderly : IsOrderly x record)
    (later : ∀ exchange ∈ more,
      exchange.request.status = 0 ∧ exchange.request.valuesWanted = 1)
    (chain : more.IsChain Exchange.MayPrecede)
    (begins : ∀ exchange ∈ more.head?, exchange.request.derivativesWanted ≠ 1) :
    IsOrderly x (record ++ more) where
  opening := by
    obtain ⟨first, rest, split, asks, known⟩ := orderly.opening
    refine ⟨first, rest ++ more, ?_, asks, ?_⟩
    · rw [split, List.cons_append]
    · intro exchange member
      rcases List.mem_append.1 member with old | new
      · exact known exchange old
      · exact later exchange new
  chain := by
    apply orderly.chain.append chain
    intro before _ after isHead wanted
    exact (begins after isHead wanted).elim

theorem append_values (orderly : IsOrderly x record) (asks : values.AsksValues 0 y) :
    IsOrderly x (record ++ [values]) := by
  apply orderly.append
  · intro exchange member
    rw [List.mem_singleton.1 member, asks]
    exact ⟨rfl, rfl⟩
  · exact .singleton values
  · intro exchange isHead
    cases isHead
    rw [asks]
    exact zero_ne_one

theorem append_pair (orderly : IsOrderly x record) (asks : values.AsksValues 0 y)
    (defined : values.IsDefined) (asksToo : derivatives.AsksDerivatives 0 y) :
    IsOrderly x (record ++ [values, derivatives]) := by
  apply orderly.append
  · intro exchange member
    rcases List.mem_pair.1 member with rfl | rfl
    · rw [asks]
      exact ⟨rfl, rfl⟩
    · rw [asksToo]
      exact ⟨rfl, rfl⟩
  · apply List.isChain_pair.2
    intro _
    rw [asks, asksToo]
    exact ⟨rfl, rfl, defined⟩
  · intro exchange isHead
    cases isHead
    rw [asks]
    exact zero_ne_one

end IsOrderly

/-! ## Trials -/

/-- Evaluations in order, and none of them asked to stop. -/
structure IsUnderway (x : Vector R n)
    (evaluator : Evaluator R (List (Exchange R n nf neg) × τ) nf neg) : Prop where
  orderly : IsOrderly x evaluator.state.1
  goesOn : ∀ exchange ∈ evaluator.state.1, ¬exchange.IsStop
  status : evaluator.status = 0

/-- Evaluations in order of which the last one asked to stop, and no other. -/
structure IsStopped (x : Vector R n) (record : List (Exchange R n nf neg)) : Prop where
  orderly : IsOrderly x record
  stops : ∃ earlier last, record = earlier ++ [last] ∧ last.IsStop ∧
    ∀ exchange ∈ earlier, ¬exchange.IsStop

variable {callback : Callback R τ n nf neg} {program : Program R n nf neg} {x : Vector R n}

theorem Trial.isUnderway {start finish : Standing R (List (Exchange R n nf neg) × τ) n nf neg}
    (trial : Trial program callback.recorded start finish) (underway : IsUnderway x start.2) :
    IsUnderway x finish.2 := by
  obtain ⟨y, values, asks, goesOn, ⟨record, _⟩ |
    ⟨derivatives, record, defined, asksToo, goesOnToo, _⟩⟩ := trial.added
  · rw [underway.status] at asks
    refine ⟨?_, ?_, trial.status_eq_zero⟩
    · rw [record]
      exact underway.orderly.append_values asks
    · rw [record]
      intro exchange member
      rcases List.mem_append.1 member with old | new
      · exact underway.goesOn exchange old
      · rw [List.mem_singleton.1 new]
        exact goesOn
  · rw [underway.status] at asks
    refine ⟨?_, ?_, trial.status_eq_zero⟩
    · rw [record]
      exact underway.orderly.append_pair asks defined asksToo
    · rw [record]
      intro exchange member
      rcases List.mem_append.1 member with old | new
      · exact underway.goesOn exchange old
      · rcases List.mem_pair.1 new with rfl | rfl
        · exact goesOn
        · exact goesOnToo

theorem Stop.isStopped {before after : Evaluator R (List (Exchange R n nf neg) × τ) nf neg}
    (stop : Stop program callback.recorded before after) (underway : IsUnderway x before) :
    IsStopped x after.state.1 := by
  obtain ⟨y, values, asks, ⟨record, stops⟩ | ⟨derivatives, record, defined, asksToo, stops⟩⟩ :=
    stop.added
  · rw [underway.status] at asks
    constructor
    · rw [record]
      exact underway.orderly.append_values asks
    · exact ⟨before.state.1, values, record, stops, underway.goesOn⟩
  · rw [underway.status] at asks
    constructor
    · rw [record]
      exact underway.orderly.append_pair asks defined asksToo
    · refine ⟨before.state.1 ++ [values], derivatives, ?_, stops, ?_⟩
      · rw [record, List.append_assoc]
        rfl
      · intro exchange member
        rcases List.mem_append.1 member with old | new
        · exact underway.goesOn exchange old
        · rw [List.mem_singleton.1 new]
          exact defined.not_isStop

theorem Course.isUnderway_or_isStopped {isStopped : Bool}
    {start finish : Standing R (List (Exchange R n nf neg) × τ) n nf neg}
    (course : Course program callback.recorded isStopped start finish)
    (underway : IsUnderway x start.2) :
    isStopped = false ∧ IsUnderway x finish.2 ∨
      isStopped = true ∧ IsStopped x finish.2.state.1 := by
  cases course with
  | running trials =>
      exact .inl ⟨rfl, trials_preserve (IsUnderway x ·.2) Trial.isUnderway trials underway⟩
  | stopped trials stop =>
      exact .inr ⟨rfl,
        stop.isStopped (trials_preserve (IsUnderway x ·.2) Trial.isUnderway trials underway)⟩

/-! ## Solves -/

/-- The calls of a solve: evaluations in order, of which the last one asked to stop, or after which
one notification follows at the point that is reported. -/
def FollowsProtocol (x : Vector R n) (inform : Int) (reported : Array R)
    (calls : List (Exchange R n nf neg)) : Prop :=
  inform = 71 ∧ IsStopped x calls ∨
    inform ≠ 71 ∧ ∃ evaluations last y,
      calls = evaluations ++ [last] ∧ IsOrderly x evaluations ∧
        (∀ exchange ∈ evaluations, ¬exchange.IsStop) ∧
          last.request = ⟨2, y, 0, 0⟩ ∧ y.toArray = reported

theorem FollowsProtocol.ne_nil {inform : Int} {reported : Array R}
    {calls : List (Exchange R n nf neg)} (follows : FollowsProtocol x inform reported calls) :
    calls ≠ [] := by
  rcases follows with ⟨_, _, earlier, last, rfl, _⟩ | ⟨_, evaluations, last, _, rfl, _⟩
  · simp
  · simp

theorem Program.solve_protocol (settings : Settings R) (program : Program R n nf neg)
    (minimums : Lengths) (callback : Callback R τ n nf neg) (state : τ) :
    let outcome := program.solve settings minimums callback.recorded ([], state)
    FollowsProtocol (project program program.start) outcome.report.inform outcome.state.x
      outcome.callbackState.1 := by
  intro outcome
  let run := program.run settings callback.recorded ([], state)
  have evaluated : run.1 = .userStop ∧ IsStopped (project program program.start) run.2.2.state.1 ∨
      run.1 ≠ .userStop ∧ IsOrderly (project program program.start) run.2.2.state.1 ∧
        ∀ exchange ∈ run.2.2.state.1, ¬exchange.IsStop := by
    obtain ⟨first, asks, ⟨finish, record, stops⟩ | ⟨finish, record, _, goesOn⟩ |
      ⟨defined, before, record, status, course⟩⟩ := program.run_recorded settings callback state
    · refine .inl ⟨finish, ?_⟩
      rw [show run.2.2.state.1 = _ from record]
      exact ⟨.singleton asks, [], first, rfl, stops, fun _ member => nomatch member⟩
    · refine .inr ⟨by rw [show run.1 = _ from finish]; decide, ?_⟩
      rw [show run.2.2.state.1 = _ from record]
      exact ⟨.singleton asks, by simpa using goesOn⟩
    · have underway : IsUnderway (project program program.start) before := by
        refine ⟨?_, ?_, status⟩
        · rw [record]
          exact .singleton asks
        · rw [record]
          simpa using defined.not_isStop
      rcases course.isUnderway_or_isStopped underway with ⟨goesOn, later⟩ | ⟨stops, later⟩
      · exact .inr ⟨of_decide_eq_false goesOn, later.orderly, later.goesOn⟩
      · exact .inl ⟨of_decide_eq_true stops, later⟩
  have ends := program.solve_recorded settings minimums callback ([], state)
  rcases evaluated with ⟨stopped, record⟩ | ⟨unstopped, orderly, goesOn⟩
  · rcases ends with ⟨_, same⟩ | ⟨unstopped, _⟩
    · exact .inl ⟨congrArg Finish.code stopped, same ▸ record⟩
    · exact (unstopped stopped).elim
  · rcases ends with ⟨stopped, _⟩ | ⟨_, last, asks, record⟩
    · exact (unstopped stopped).elim
    · exact .inr ⟨fun code => unstopped (Finish.code_injective code), _, last, _, record, orderly,
        goesOn, asks, rfl⟩

/-- No call is made exactly when the call is refused. Otherwise the first one is at the start of the
accepted program, projected into its box, and all of them follow the protocol; and the answer to the
last notification changes nothing. -/
theorem runCall_protocol (settings : Settings R) (call : EngineCall R n nf neg)
    (callback : Callback R τ n nf neg) (state : τ) :
    let outcome := runCall settings call callback state
    let calls := exchanges settings call callback state
    (calls = [] ↔ outcome.report.inform ∈ [81, 82, 83, 84, 91, 92]) ∧
      (calls ≠ [] → ∃ program : Program R n nf neg,
        call.Describes program ∧
          FollowsProtocol (project program program.start) outcome.report.inform outcome.state.x
            calls) ∧
      ∀ callback' : Callback R τ n nf neg,
        (∀ request f g state, request.status < 2 →
          callback' request f g state = callback request f g state) →
        let outcome' := runCall settings call callback' state
        outcome'.report = outcome.report ∧ outcome'.state = outcome.state ∧
          outcome'.log = outcome.log := by
  intro outcome calls
  have unread : ∀ callback' : Callback R τ n nf neg,
      (∀ request f g state, request.status < 2 →
        callback' request f g state = callback request f g state) →
      let outcome' := runCall settings call callback' state
      outcome'.report = outcome.report ∧ outcome'.state = outcome.state ∧
        outcome'.log = outcome.log := by
    intro callback' alike
    have answersLike : callback.AnswersLike id callback' :=
      fun request f g state evaluating => alike request f g state evaluating
    exact runCall_of_answersLike answersLike settings call state
  rcases accepted : call.accept with refusal | program
  · have noCalls : calls = [] := by
      simp only [calls, exchanges, runCall_of_refuse accepted]
      rfl
    refine ⟨⟨fun _ => ?_, fun _ => noCalls⟩, fun calls => (calls noCalls).elim, unread⟩
    rw [show outcome = _ from runCall_of_refuse accepted settings callback state]
    exact refusal.code_mem
  · have follows : FollowsProtocol (project program program.start) outcome.report.inform
        outcome.state.x calls := by
      obtain ⟨sameReport, sameState, _⟩ := runCall_recorded settings call callback state
      rw [show outcome.report = _ from sameReport, show outcome.state = _ from sameState]
      simp only [calls, exchanges, runCall_of_accept accepted]
      exact program.solve_protocol settings _ callback state
    have solved : ∃ finish : Finish, outcome.report.inform = finish.code := by
      rw [show outcome = _ from runCall_of_accept accepted settings callback state]
      exact ⟨_, rfl⟩
    refine ⟨⟨fun noCalls => (follows.ne_nil noCalls).elim, fun refused => ?_⟩,
      fun _ => ⟨program, EngineCall.describes_of_accept accepted, follows⟩, unread⟩
    obtain ⟨finish, code⟩ := solved
    rw [code] at refused
    exact (finish.code_notMem_refusals refused).elim

end AugmentedLagrangian

end NonlinearProgram
