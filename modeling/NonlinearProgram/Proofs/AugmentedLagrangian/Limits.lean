import NonlinearProgram.Proofs.AugmentedLagrangian.Protocol

/-!
# The length of a solve

An inner solve has no limit of its own. What ends it is the number of minor iterations that all
inner solves of a solve share: a pass that accepts a point uses one up, and a pass that accepts none
is the last. A pass tries at most forty points with at most two calls each, so the calls of a solve
are bounded by its minor and its major iterations, `Program.run_spends`, and these by their limits,
`runCall_withinLimits`, whatever the callback answers.
-/

namespace NonlinearProgram

namespace Exchange

variable {R : Type} [Arith R] {n nf neg : Nat}

/-- Derivatives were asked for, and everything was defined: the point becomes the current one. -/
def IsAccepted (exchange : Exchange R n nf neg) : Prop :=
  exchange.request.derivativesWanted = 1 ∧ exchange.IsDefined

instance (exchange : Exchange R n nf neg) : Decidable exchange.IsAccepted :=
  inferInstanceAs (Decidable (_ ∧ _))

/-- Number of points that were accepted. -/
def acceptances (record : List (Exchange R n nf neg)) : Nat :=
  record.countP fun exchange => decide exchange.IsAccepted

end Exchange

namespace AugmentedLagrangian

open Exchange

variable {R : Type} [Arith R] {τ : Type} {n nf neg : Nat}

/-- One record continues another by evaluations only, at most so many of them, and exactly so many
accepted a point. -/
def Spends (before after : List (Exchange R n nf neg)) (most accepted : Nat) : Prop :=
  ∃ more, after = before ++ more ∧ more.length ≤ most ∧ acceptances more = accepted ∧
    ∀ exchange ∈ more, exchange.request.status < 2

namespace Spends

variable {before middle after : List (Exchange R n nf neg)} {most most' accepted accepted' : Nat}

theorem refl (record : List (Exchange R n nf neg)) : Spends record record 0 0 :=
  ⟨[], (List.append_nil record).symm, Nat.le_refl 0, rfl, fun _ member => nomatch member⟩

theorem trans (first : Spends before middle most accepted)
    (second : Spends middle after most' accepted') :
    Spends before after (most + most') (accepted + accepted') := by
  obtain ⟨more, rfl, fits, count, evaluations⟩ := first
  obtain ⟨more', rfl, fits', count', evaluations'⟩ := second
  refine ⟨more ++ more', List.append_assoc .., ?_, ?_, ?_⟩
  · rw [List.length_append]
    exact Nat.add_le_add fits fits'
  · rw [acceptances, List.countP_append]
    exact congrArg₂ (· + ·) count count'
  · intro exchange member
    rcases List.mem_append.1 member with old | new
    · exact evaluations exchange old
    · exact evaluations' exchange new

theorem mono (spends : Spends before after most accepted) (enough : most ≤ most') :
    Spends before after most' accepted := by
  obtain ⟨more, same, fits, count, evaluations⟩ := spends
  exact ⟨more, same, fits.trans enough, count, evaluations⟩

/-- One more evaluation. -/
theorem evaluation {exchange : Exchange R n nf neg} (added : after = before ++ [exchange])
    (evaluates : exchange.request.status < 2) :
    Spends before after 1 (if exchange.IsAccepted then 1 else 0) := by
  refine ⟨[exchange], added, Nat.le_refl 1, ?_, ?_⟩
  · by_cases accepted : exchange.IsAccepted
    · rw [if_pos accepted]
      exact List.countP_eq_length.2 (by simpa using accepted)
    · rw [if_neg accepted]
      exact List.countP_eq_zero.2 (by simpa using accepted)
  · intro other member
    rw [List.mem_singleton.1 member]
    exact evaluates

end Spends

/-! ## One pass -/

section Passes

variable {callback : Callback R τ n nf neg} {program : Program R n nf neg} {x : Vector R n}
variable {before after : Evaluator R (List (Exchange R n nf neg) × τ) nf neg}

omit [Arith R] in
theorem evaluating_of_eq_zero {evaluator : Evaluator R τ nf neg} (later : evaluator.status = 0) :
    evaluator.status < 2 := by
  rw [later]
  decide

theorem evaluating_of_values {outcome : Evaluated (Vector R nf)}
    (called : before.values callback.recorded program x = (outcome, after)) : after.status < 2 :=
  evaluating_of_eq_zero (Evaluator.status_of_values called)

theorem evaluating_of_point {outcome : Evaluated (Point R n nf)}
    (called : before.point callback.recorded program x = (outcome, after)) : after.status < 2 :=
  evaluating_of_eq_zero (Evaluator.status_of_point called)

/-- A call for function values accepts no point. -/
theorem values_spends {outcome : Evaluated (Vector R nf)} (evaluating : before.status < 2)
    (called : before.values callback.recorded program x = (outcome, after)) :
    Spends before.state.1 after.state.1 1 0 := by
  obtain ⟨exchange, asks, added, _⟩ := values_recorded called
  have notAccepted : ¬exchange.IsAccepted := by
    rintro ⟨wanted, _⟩
    rw [asks] at wanted
    cases wanted
  have spends := Spends.evaluation added (by rw [asks]; exact evaluating)
  rwa [if_neg notAccepted] at spends

/-- A point was found. -/
def Evaluated.points {α : Type} : Evaluated α → Nat
  | defined _ => 1
  | undefined | stop => 0

/-- A call for derivatives accepts its point if it is defined. -/
theorem point_spends {outcome : Evaluated (Point R n nf)} (evaluating : before.status < 2)
    (called : before.point callback.recorded program x = (outcome, after)) :
    Spends before.state.1 after.state.1 1 outcome.points := by
  obtain ⟨exchange, asks, added, tells⟩ := point_recorded called
  have spends := Spends.evaluation added (by rw [asks]; exact evaluating)
  have wanted : exchange.request.derivativesWanted = 1 := by rw [asks]
  cases outcome with
  | defined point => rwa [if_pos ⟨wanted, tells.1⟩] at spends
  | undefined => rwa [if_neg fun accepted => tells.1 accepted.2] at spends
  | stop => rwa [if_neg fun accepted => accepted.2.not_isStop tells] at spends

/-- Number of points a search has found. -/
def StepSearch.points : StepSearch R n nf → Nat
  | accepted _ _ => 1
  | refused _ | stopped => 0

/-- The search for a step makes at most two calls a try. -/
theorem searchStep_spends {inner : InnerProblem R (List (Exchange R n nf neg) × τ) n nf neg}
    (recorded : inner.callback = callback.recorded) (point : Point R n nf) (gradient : Vector R n)
    (merit : R) (tries : Nat) (length : R) (undefined : Bool) (evaluating : before.status < 2) :
    let search := searchStep inner point gradient merit tries length undefined before
    Spends before.state.1 search.2.state.1 (2 * tries) search.1.points := by
  induction tries generalizing length undefined before with
  | zero => exact .refl _
  | succ tries ih =>
      simp only [searchStep, recorded]
      split
      case isTrue => exact (Spends.refl _).mono (Nat.zero_le _)
      case isFalse =>
        split
        case h_1 after values => exact (values_spends evaluating values).mono (by omega)
        case h_2 after values =>
          have later := ih (length * 0.5) true (evaluating_of_values values)
          simpa using ((values_spends evaluating values).trans later).mono (by omega)
        case h_3 f between values =>
          have valued := values_spends evaluating values
          have going := evaluating_of_values values
          split
          case isTrue =>
            split
            case h_1 after derivatives =>
              exact (valued.trans (point_spends going derivatives)).mono (by omega)
            case h_2 after derivatives =>
              have later := ih (length * 0.5) true (evaluating_of_point derivatives)
              have spends := (valued.trans (point_spends going derivatives)).trans later
              simpa [Evaluated.points] using spends.mono (by omega)
            case h_3 next after derivatives =>
              exact (valued.trans (point_spends going derivatives)).mono (by omega)
          case isFalse =>
            have later := ih (length * 0.5) undefined going
            simpa using (valued.trans later).mono (by omega)

/-- A search that does not stop the solve leaves the evaluator in use. -/
theorem evaluating_of_search {inner : InnerProblem R (List (Exchange R n nf neg) × τ) n nf neg}
    {point : Point R n nf} {gradient : Vector R n} {merit : R} {tries : Nat} {length : R}
    {undefined : Bool} {search : StepSearch R n nf} (evaluating : before.status < 2)
    (sought : searchStep inner point gradient merit tries length undefined before =
      (search, after))
    (goesOn : search.isStopped = false) : after.status < 2 := by
  have course := searchStep_course inner point gradient merit tries length undefined before
  simp only [sought, goesOn] at course
  exact status_lt_two_of_trials course.trials evaluating

/-! ## Inner solves and major iterations -/

/-- An inner solve uses up one minor iteration for each point it accepts. Besides the passes that
accept a point there is at most one more. -/
theorem descend_spends (inner : InnerProblem R (List (Exchange R n nf neg) × τ) n nf neg)
    (recorded : inner.callback = callback.recorded) (remaining : Nat) (point : Point R n nf)
    (gradient : Vector R n) (length : R) (evaluating : before.status < 2) :
    let descent := descend inner remaining point gradient length before
    descent.1.remaining ≤ remaining ∧
      Spends before.state.1 descent.2.state.1 (80 * (remaining - descent.1.remaining + 1))
        (remaining - descent.1.remaining) := by
  induction remaining generalizing point gradient length before with
  | zero =>
      simp only [descend]
      split
      case isTrue => exact ⟨Nat.le_refl 0, (Spends.refl _).mono (Nat.zero_le _)⟩
      case isFalse => exact ⟨Nat.le_refl 0, (Spends.refl _).mono (Nat.zero_le _)⟩
  | succ left ih =>
      simp only [descend]
      split
      case isTrue =>
        refine ⟨Nat.le_refl _, ?_⟩
        simpa using (Spends.refl _).mono (Nat.zero_le _)
      case isFalse =>
        have search := searchStep_spends recorded point gradient
          (merit inner.program inner.multipliers point.f) maxTries length false evaluating
        split
        case h_1 after outcome =>
          rw [outcome] at search
          refine ⟨Nat.le_refl _, ?_⟩
          simpa [maxTries, StepSearch.points] using search
        case h_2 after outcome =>
          rw [outcome] at search
          refine ⟨Nat.le_refl _, ?_⟩
          simpa [maxTries, StepSearch.points] using search
        case h_3 after outcome =>
          rw [outcome] at search
          refine ⟨Nat.le_refl _, ?_⟩
          simpa [maxTries, StepSearch.points] using search
        case h_4 next taken after outcome =>
          have going := evaluating_of_search evaluating outcome rfl
          rw [outcome] at search
          split
          case isTrue =>
            refine ⟨Nat.le_succ left, ?_⟩
            rw [Nat.add_sub_cancel_left]
            exact search.mono (by decide)
          case isFalse =>
            obtain ⟨fewer, spends⟩ := ih next _ _ going
            refine ⟨fewer.trans (Nat.le_succ left), ?_⟩
            rw [Nat.succ_sub fewer, ← Nat.one_add]
            exact (search.trans spends).mono (by simp only [maxTries]; omega)

/-- Progress has used up minor and major iterations, and made no more calls than these allow. Each
minor iteration accepts a point. -/
structure Progress.Spends (start finish : Progress R n nf)
    (before after : List (Exchange R n nf neg)) : Prop where
  remaining : finish.remaining ≤ start.remaining
  major : start.major ≤ finish.major
  calls : AugmentedLagrangian.Spends before after
    (80 * (start.remaining - finish.remaining + (finish.major - start.major)))
    (start.remaining - finish.remaining)

namespace Progress.Spends

variable {start middle finish finish' : Progress R n nf}
variable {first second third : List (Exchange R n nf neg)}

theorem refl (progress : Progress R n nf) (record : List (Exchange R n nf neg)) :
    progress.Spends progress record record where
  remaining := Nat.le_refl _
  major := Nat.le_refl _
  calls := by simpa using AugmentedLagrangian.Spends.refl record

theorem trans (earlier : start.Spends middle first second)
    (later : middle.Spends finish second third) : start.Spends finish first third where
  remaining := later.remaining.trans earlier.remaining
  major := earlier.major.trans later.major
  calls := by
    have fewer := earlier.remaining
    have fewer' := later.remaining
    have more := earlier.major
    have more' := later.major
    have sum : start.remaining - middle.remaining + (middle.remaining - finish.remaining) =
        start.remaining - finish.remaining := by omega
    rw [← sum]
    exact (earlier.calls.trans later.calls).mono (by omega)

/-- What else becomes of the progress does not matter. -/
theorem congr (spends : start.Spends finish first second)
    (remaining : finish'.remaining = finish.remaining) (major : finish'.major = finish.major) :
    start.Spends finish' first second := by
  obtain ⟨fewer, more, calls⟩ := spends
  rw [← remaining] at fewer calls
  rw [← major] at more calls
  exact ⟨fewer, more, calls⟩

end Progress.Spends

/-- A major iteration has one inner solve. -/
theorem reach_spends {settings : Settings R} {progress : Progress R n nf}
    {result : InnerResult R n nf} (evaluating : before.status < 2)
    (solved : (progress.inner settings program callback.recorded).solve progress.remaining
      progress.point before = (result, after)) :
    progress.Spends (progress.reach result) before.state.1 after.state.1 := by
  obtain ⟨fewer, spends⟩ := descend_spends (progress.inner settings program callback.recorded) rfl
    progress.remaining progress.point _ _ evaluating
  rw [InnerProblem.solve] at solved
  rw [solved] at fewer spends
  refine ⟨fewer, Nat.le_succ _, spends.mono ?_⟩
  simp only [Progress.reach]
  omega

theorem iterate_spends (settings : Settings R) (program : Program R n nf neg)
    (callback : Callback R τ n nf neg) (left : Nat) (previous : R) (stalls : Nat)
    (progress : Progress R n nf) (evaluating : before.status < 2) :
    let run := iterate settings program callback.recorded left previous stalls progress before
    progress.Spends run.2.1 before.state.1 run.2.2.state.1 ∧
      run.2.1.major ≤ progress.major + left := by
  induction left generalizing previous stalls progress before with
  | zero => exact ⟨.refl _ _, Nat.le_refl _⟩
  | succ left ih =>
      rcases solved : (progress.inner settings program callback.recorded).solve progress.remaining
        progress.point before with ⟨result, after⟩
      have reached := reach_spends evaluating solved
      have course := solve_course (progress.inner settings program callback.recorded)
        progress.remaining progress.point before
      rw [solved] at course
      intro run
      rcases iterate_succ_cases solved left previous stalls with
        ⟨finish, _, outcome⟩ | ⟨goesOn, ⟨finish, _, outcome⟩ | ⟨_, outcome⟩ | outcome⟩
      · rw [show run = _ from outcome]
        exact ⟨reached, Nat.add_le_add_left (Nat.le_add_left 1 left) _⟩
      · rw [show run = _ from outcome]
        exact ⟨reached.congr rfl rfl, Nat.add_le_add_left (Nat.le_add_left 1 left) _⟩
      · rw [show run = _ from outcome]
        exact ⟨reached.congr rfl rfl, Nat.add_le_add_left (Nat.le_add_left 1 left) _⟩
      · simp only [InnerEnding.ne_stop_of_finish?_eq_none goesOn, decide_false] at course
        obtain ⟨later, fits⟩ := ih _ _ _ (status_lt_two_of_trials course.trials evaluating)
        rw [show run = _ from outcome]
        refine ⟨.trans ?_ later, fits.trans_eq (Nat.add_right_comm _ 1 left)⟩
        exact reached.congr rfl rfl

end Passes

/-! ## Solves -/

theorem evaluating_fresh (state : τ) :
    (Evaluator.fresh state : Evaluator R τ nf neg).status < 2 :=
  one_lt_two

/-- A solve calls the callback once at its starting point, and then for its iterations. Each minor
iteration accepts a point, and the starting point is one more if it is defined. -/
theorem Program.run_spends (settings : Settings R) (program : Program R n nf neg)
    (callback : Callback R τ n nf neg) (state : τ) :
    let run := program.run settings callback.recorded ([], state)
    let iterations := settings.iterationsLimit - run.2.1.remaining
    run.2.1.major ≤ settings.majorIterationsLimit ∧
      ∃ accepted, accepted - 1 = iterations ∧
        Spends [] run.2.2.state.1 (1 + 80 * (iterations + run.2.1.major)) accepted := by
  intro run iterations
  rcases started : (Evaluator.fresh ([], state)).point callback.recorded program
    (project program program.start) with ⟨outcome, before⟩
  have opening := point_spends (evaluating_fresh _) started
  have going := evaluating_of_point started
  cases outcome with
  | defined point =>
      have iterated : ∃ log, (Progress.initial settings program point log).Spends run.2.1
          before.state.1 run.2.2.state.1 ∧ run.2.1.major ≤ settings.majorIterationsLimit := by
        rw [show run = _ from program.run_of_defined started]
        split
        case isTrue => exact ⟨[], .refl _ _, Nat.zero_le _⟩
        case isFalse =>
          have iterated := fun log => iterate_spends settings program callback
            settings.majorIterationsLimit Arith.infinity 0 (.initial settings program point log)
            going
          exact ⟨_, (iterated _).1, (iterated _).2.trans_eq (Nat.zero_add _)⟩
      obtain ⟨_, spends, fits⟩ := iterated
      refine ⟨fits, 1 + iterations, Nat.add_sub_cancel_left 1 _, ?_⟩
      exact opening.trans spends.calls
  | undefined =>
      have ends : run = _ := program.run_of_undefined started
      have none : iterations = 0 := by
        simp only [iterations, ends]
        exact Nat.sub_self _
      rw [none, ends]
      exact ⟨Nat.zero_le _, 0, rfl, opening⟩
  | stop =>
      have ends : run = _ := program.run_of_stop started
      have none : iterations = 0 := by
        simp only [iterations, ends]
        exact Nat.sub_self _
      rw [none, ends]
      exact ⟨Nat.zero_le _, 0, rfl, opening⟩

/-- A solve ends within its limits, whatever the callback answers. There is a call for the starting
point, at most eighty for each minor and each major iteration that is reported, and at most one
notification, which comes last; and a minor iteration is reported for each point that was accepted
after the first. -/
theorem runCall_withinLimits (settings : Settings R) (call : EngineCall R n nf neg)
    (callback : Callback R τ n nf neg) (state : τ) :
    let report := (runCall settings call callback state).report
    report.iterations ≤ settings.iterationsLimit ∧
      report.majorIterations ≤ settings.majorIterationsLimit ∧
      ∃ evaluations notifications,
        exchanges settings call callback state = evaluations ++ notifications ∧
          (∀ exchange ∈ evaluations, exchange.request.status < 2) ∧
          evaluations.length ≤ 1 + 80 * (report.iterations + report.majorIterations) ∧
          evaluations.length ≤
            1 + 80 * (settings.iterationsLimit + settings.majorIterationsLimit) ∧
          acceptances evaluations - 1 = report.iterations ∧
          (∀ exchange ∈ notifications, exchange.request.status = 2) ∧
          notifications.length ≤ 1 := by
  intro report
  obtain ⟨sameReport, _⟩ := runCall_recorded settings call callback state
  rw [show report = _ from sameReport, exchanges]
  rcases accepted : call.accept with refusal | program
  · rw [runCall_of_refuse accepted]
    exact ⟨Nat.zero_le _, Nat.zero_le _, [], [], rfl, List.forall_mem_nil _, Nat.zero_le _,
      Nat.zero_le _, rfl, List.forall_mem_nil _, Nat.zero_le _⟩
  · rw [runCall_of_accept accepted]
    obtain ⟨majors, _, same, evaluations, record, fits, rfl, evaluates⟩ :=
      program.run_spends settings callback state
    have iterations := Nat.sub_le settings.iterationsLimit
      (program.run settings callback.recorded ([], state)).2.1.remaining
    have within : evaluations.length ≤
        1 + 80 * (settings.iterationsLimit + settings.majorIterationsLimit) :=
      fits.trans (Nat.add_le_add_left (Nat.mul_le_mul_left 80 (Nat.add_le_add iterations majors)) 1)
    rw [List.nil_append] at record
    rcases program.solve_recorded settings (storageNeeds call.storageRequest) callback ([], state)
      with ⟨_, all⟩ | ⟨_, last, asks, all⟩
    · rw [record] at all
      exact ⟨iterations, majors, evaluations, [], by rw [all, List.append_nil], evaluates, fits,
        within, same, List.forall_mem_nil _, Nat.zero_le _⟩
    · rw [record] at all
      refine ⟨iterations, majors, evaluations, [last], all, evaluates, fits, within, same, ?_,
        Nat.le_refl 1⟩
      intro exchange member
      rw [List.mem_singleton.1 member, asks]

end AugmentedLagrangian

end NonlinearProgram
