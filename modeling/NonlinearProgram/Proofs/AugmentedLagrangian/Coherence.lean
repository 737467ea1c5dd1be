import NonlinearProgram.Proofs.AugmentedLagrangian.AcceptedCall
import NonlinearProgram.Proofs.AugmentedLagrangian.Assembly
import NonlinearProgram.Proofs.AugmentedLagrangian.Exchanges

/-!
# The state that is reported stems from one call

A solve calls its callback at many points and uses few of the replies. The variables, function
values and reduced costs it reports are all those of one call: the latest that was asked for
derivatives and was defined, `state_eq_latest`. Trials that were undefined or refused, and calls for
function values only, leave no trace in them.
-/

namespace NonlinearProgram

namespace Exchange

variable {R : Type} [Arith R] {n nf neg : Nat}

/-- The last exchange of a record in which derivatives were wanted and all was defined. -/
def IsLatest (last : Exchange R n nf neg) (record : List (Exchange R n nf neg)) : Prop :=
  ∃ earlier later, record = earlier ++ last :: later ∧
    last.request.derivativesWanted = 1 ∧ last.IsDefined ∧
      ∀ exchange ∈ later, exchange.request.derivativesWanted = 1 → ¬exchange.IsDefined

theorem isLatest_concat {last : Exchange R n nf neg} (record : List (Exchange R n nf neg))
    (wanted : last.request.derivativesWanted = 1) (defined : last.IsDefined) :
    last.IsLatest (record ++ [last]) :=
  ⟨record, [], rfl, wanted, defined, fun _ member => nomatch member⟩

theorem IsLatest.append {last : Exchange R n nf neg} {record more : List (Exchange R n nf neg)}
    (latest : last.IsLatest record)
    (later : ∀ exchange ∈ more, exchange.request.derivativesWanted = 1 → ¬exchange.IsDefined) :
    last.IsLatest (record ++ more) := by
  obtain ⟨before, after, split, wanted, defined, unchanged⟩ := latest
  refine ⟨before, after ++ more, ?_, wanted, defined, ?_⟩
  · rw [split, List.append_assoc, List.cons_append]
  · intro exchange member
    rcases List.mem_append.1 member with known | new
    · exact unchanged exchange known
    · exact later exchange new

open AugmentedLagrangian in
/-- Variables, function values and reduced costs of a state are those of one exchange. A function
value is that of the reply with the linear terms of its row added in order. A reduced cost is the
inner product of a column of the Jacobian, each entry the sum of the derivatives and linear
coefficients in its cell, with one for the objective and the negated multipliers for the other
rows. -/
structure Yields (exchange : Exchange R n nf neg) (program : Program R n nf neg)
    (state : SolverState R) : Prop where
  x : state.x = exchange.request.x.toArray
  f : state.f = Array.ofFn fun row =>
    (program.linear.filter (·.1 = row)).foldl
      (fun sum term => sum + term.2.2 * exchange.request.x.get term.2.1)
      (exchange.reply.f.get row)
  xMul : ∃ lambda : Vector R nf, state.fMul = lambda.toArray ∧
    state.xMul = Array.ofFn fun column =>
      dot
        (.ofFn fun row => (amountsAt (program.amounts exchange.reply.g) row column).foldl (· + ·) 0)
        (.ofFn fun row => if row = program.objective then 1 else -lambda.get row)

end Exchange

namespace AugmentedLagrangian

variable {R : Type} [Arith R] {τ : Type} {n nf neg : Nat}
variable {callback : Callback R τ n nf neg} {program : Program R n nf neg}

/-- The current point is that of the latest exchange. -/
def IsCoherent (program : Program R n nf neg)
    (standing : Standing R (List (Exchange R n nf neg) × τ) n nf neg) : Prop :=
  ∃ last : Exchange R n nf neg,
    last.IsLatest standing.2.state.1 ∧ standing.1 = last.point program

variable {start finish : Standing R (List (Exchange R n nf neg) × τ) n nf neg}

theorem IsCoherent.append (coherent : IsCoherent program start)
    {more : List (Exchange R n nf neg)} (record : finish.2.state.1 = start.2.state.1 ++ more)
    (same : finish.1 = start.1)
    (later : ∀ exchange ∈ more, exchange.request.derivativesWanted = 1 → ¬exchange.IsDefined) :
    IsCoherent program finish := by
  obtain ⟨last, latest, current⟩ := coherent
  refine ⟨last, ?_, same.trans current⟩
  rw [record]
  exact latest.append later

theorem Trial.isCoherent (trial : Trial program callback.recorded start finish)
    (coherent : IsCoherent program start) : IsCoherent program finish := by
  obtain ⟨x, values, asks, _, ⟨record, same⟩ | ⟨derivatives, record, _, asksToo, _, reached⟩⟩ :=
    trial.added
  · refine coherent.append record same ?_
    intro exchange member wanted
    rw [List.mem_singleton.1 member, asks] at wanted
    cases wanted
  · rcases reached with ⟨defined, same⟩ | ⟨undefined, same⟩
    · refine ⟨derivatives, ?_, same⟩
      rw [record, List.append_cons]
      exact Exchange.isLatest_concat _ (by rw [asksToo]) defined
    · refine coherent.append record same ?_
      intro exchange member wanted
      rcases List.mem_pair.1 member with rfl | rfl
      · rw [asks] at wanted
        cases wanted
      · exact undefined

theorem Stop.isCoherent {point : Point R n nf}
    {before after : Evaluator R (List (Exchange R n nf neg) × τ) nf neg}
    (stop : Stop program callback.recorded before after)
    (coherent : IsCoherent program (point, before)) : IsCoherent program (point, after) := by
  obtain ⟨x, values, asks, ⟨record, stops⟩ | ⟨derivatives, record, _, asksToo, stops⟩⟩ := stop.added
  · refine coherent.append record rfl ?_
    intro exchange member wanted
    rw [List.mem_singleton.1 member, asks] at wanted
    cases wanted
  · refine coherent.append record rfl ?_
    intro exchange member wanted
    rcases List.mem_pair.1 member with rfl | rfl
    · rw [asks] at wanted
      cases wanted
    · exact fun defined => defined.not_isStop stops

/-- Trials keep the point that of the latest exchange. -/
theorem Course.isCoherent {isStopped : Bool}
    (course : Course program callback.recorded isStopped start finish)
    (coherent : IsCoherent program start) : IsCoherent program finish :=
  course.preserve (IsCoherent program) Trial.isCoherent Stop.isCoherent coherent

/-! ## The state that is left -/

theorem ofFn_get {α : Type} {size : Nat} (values : Vector α size) :
    Vector.ofFn values.get = values := by
  ext k inside
  simp

theorem toArray_eq_ofFn {α : Type} {size : Nat} {values : Vector α size} {read : Fin size → α}
    (reads : ∀ k, values.get k = read k) : values.toArray = Array.ofFn read := by
  rw [← funext reads, ← Vector.toArray_ofFn, ofFn_get]

/-- The state a solve leaves at the point of an exchange. -/
theorem Progress.state_yields {progress : Progress R n nf} {last : Exchange R n nf neg}
    (current : progress.point = last.point program) (settings : Settings R) :
    last.Yields program (progress.state settings program) where
  x := by
    rw [Progress.state, current]
    rfl
  f := by
    rw [Progress.state, current]
    exact toArray_eq_ofFn fun row => get_assembleValues program.linear _ _ row
  xMul := by
    refine ⟨progress.multipliers.lambda, rfl, ?_⟩
    rw [Progress.state, current]
    apply toArray_eq_ofFn
    intro column
    have entries : (assembleJacobian program last.reply.g).get column = .ofFn fun row =>
        (amountsAt (program.amounts last.reply.g) row column).foldl (· + ·) 0 := by
      rw [← ofFn_get ((assembleJacobian program last.reply.g).get column)]
      apply congrArg Vector.ofFn
      funext row
      exact get_assembleJacobian_eq_sum program _ row column
    rw [← entries]
    simp only [reducedGradient, combineRows, Exchange.point, Vector.get_eq_getElem,
      Vector.getElem_map]

/-- A solve of an accepted call ends with its first call unless that is defined, and else at the
point of the latest exchange. -/
theorem Program.solve_latest (settings : Settings R) (program : Program R n nf neg)
    (minimums : Lengths) (callback : Callback R τ n nf neg) (state : τ) :
    let outcome := program.solve settings minimums callback.recorded ([], state)
    (outcome.report.inform ∈ [62, 71] ∧
        ∀ first, outcome.callbackState.1.head? = some first → ¬first.IsDefined) ∨
      ∃ last : Exchange R n nf neg, last.IsLatest outcome.callbackState.1 ∧
        last.Yields program outcome.state := by
  intro outcome
  let run := program.run settings callback.recorded ([], state)
  have inform : outcome.report.inform = run.1.code := rfl
  obtain ⟨closing, record, unasked⟩ : ∃ closing : List (Exchange R n nf neg),
      outcome.callbackState.1 = run.2.2.state.1 ++ closing ∧
        ∀ exchange ∈ closing, exchange.request.derivativesWanted ≠ 1 := by
    rcases program.solve_recorded settings minimums callback ([], state) with
      ⟨_, record⟩ | ⟨_, last, asks, record⟩
    · exact ⟨[], record.trans (List.append_nil _).symm, fun _ member => nomatch member⟩
    · refine ⟨[last], record, ?_⟩
      intro exchange member
      rw [List.mem_singleton.1 member, asks]
      exact zero_ne_one
  rw [record, inform]
  obtain ⟨opening, asks, stopped | undefined | ⟨isDefined, before, started, _, course⟩⟩ :=
    program.run_recorded settings callback state
  · rw [show run.1 = _ from stopped.1, show run.2.2.state.1 = _ from stopped.2.1]
    refine .inl ⟨by decide, fun first begins => ?_⟩
    cases begins
    exact fun defined => defined.not_isStop stopped.2.2
  · rw [show run.1 = _ from undefined.1, show run.2.2.state.1 = _ from undefined.2.1]
    refine .inl ⟨by decide, fun first begins => ?_⟩
    cases begins
    exact undefined.2.2.1
  · have coherent : IsCoherent program (opening.point program, before) := by
      refine ⟨opening, ?_, rfl⟩
      rw [started]
      exact Exchange.isLatest_concat [] (by rw [asks]) isDefined
    obtain ⟨last, latest, current⟩ := course.isCoherent coherent
    refine .inr ⟨last, latest.append fun exchange member wanted => ?_, ?_⟩
    · exact (unasked exchange member wanted).elim
    · exact Progress.state_yields current settings

/-- A solve of an accepted call whose first call is defined ends at the point of the latest
exchange. -/
theorem Program.isLatest_of_solve (settings : Settings R) (program : Program R n nf neg)
    (minimums : Lengths) (callback : Callback R τ n nf neg) (state : τ)
    {first : Exchange R n nf neg} (defined : first.IsDefined) :
    let outcome := program.solve settings minimums callback.recorded ([], state)
    outcome.callbackState.1.head? = some first →
      ∃ last : Exchange R n nf neg, last.IsLatest outcome.callbackState.1 ∧
        last.Yields program outcome.state := by
  intro outcome begins
  rcases program.solve_latest settings minimums callback state with ⟨_, undefined⟩ | ends
  · exact (undefined first begins defined).elim
  · exact ends

/-- Whatever the exit, the state that is reported is that of the latest call with defined
derivatives, if the first call is defined. -/
theorem state_eq_latest {call : EngineCall R n nf neg} {program : Program R n nf neg}
    (accepted : call.accept = .ok program) (settings : Settings R)
    (callback : Callback R τ n nf neg) (state : τ) {first : Exchange R n nf neg}
    (begins : (exchanges settings call callback state).head? = some first)
    (defined : first.IsDefined) :
    call.Describes program ∧
      ∃ last : Exchange R n nf neg, last.IsLatest (exchanges settings call callback state) ∧
        last.Yields program (runCall settings call callback state).state := by
  refine ⟨EngineCall.describes_of_accept accepted, ?_⟩
  have solved := runCall_of_accept accepted settings callback.recorded ([], state)
  rw [exchanges, solved] at begins ⊢
  rw [(runCall_recorded settings call callback state).2.1, solved]
  exact program.isLatest_of_solve settings _ callback state defined begins

theorem state_eq_latest_tangent :
    ∃ program, ∃ first last : Exchange Double 1 2 2,
      tangentCall.accept = .ok program ∧ tangentCall.Describes program ∧
        (exchanges tangentSettings tangentCall tangentCallback ()).head? = some first ∧
          first.IsDefined ∧
            last.IsLatest (exchanges tangentSettings tangentCall tangentCallback ()) ∧
              last.Yields program
                (runCall tangentSettings tangentCall tangentCallback ()).state := by
  have accepts : tangentCall.accept.isOk := by decide +kernel
  have starts : (exchanges tangentSettings tangentCall tangentCallback ()).head?.any
      (fun exchange => decide exchange.IsDefined) := by
    decide +kernel
  rcases accepted : tangentCall.accept with refusal | program
  · rw [accepted] at accepts
    cases accepts
  · obtain ⟨first, begins, defined⟩ := (Option.any_eq_true _ _).1 starts
    obtain ⟨describes, last, latest, yields⟩ := state_eq_latest accepted tangentSettings
      tangentCallback () begins (of_decide_eq_true defined)
    exact ⟨program, first, last, rfl, describes, begins, of_decide_eq_true defined, latest, yields⟩

end AugmentedLagrangian

end NonlinearProgram
