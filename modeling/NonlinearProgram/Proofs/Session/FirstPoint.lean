import NonlinearProgram.Proofs.AugmentedLagrangian.Protocol
import NonlinearProgram.Proofs.Session.Beginning

/-!
# The first point of a session

A solve evaluates its problem first at its starting point, projected into the box. The box is that
of the caller's bounds with infinities in place of the bounds of great magnitude. A bound of the
usual magnitude is respected; an infinite one lets the starting point stand as it is.
-/

namespace NonlinearProgram

open AugmentedLagrangian

/-! ## Projection -/

namespace LawfulInfinity

open LawfulOrder

variable {R : Type} [Arith R] [LawfulInfinity R] {bound lower upper start : R}

/-- A lower bound is restored as it is or to minus infinity. -/
theorem restoreBound_lower_cases (low : lower < infiniteBound) :
    lower ≤ -infiniteBound ∧ restoreBound lower = -Arith.infinity ∨
      -infiniteBound < lower ∧ restoreBound lower = lower := by
  rcases restoreBound_cases (lt_iff.1 low).1 with ⟨high, _⟩ | known | ⟨above, _, same⟩
  · exact (not_lt_of_le high low).elim
  · exact .inl known
  · exact .inr ⟨above, same⟩

/-- An upper bound is restored as it is or to infinity. -/
theorem restoreBound_upper_cases (high : -infiniteBound < upper) :
    infiniteBound ≤ upper ∧ restoreBound upper = Arith.infinity ∨
      upper < infiniteBound ∧ restoreBound upper = upper := by
  rcases restoreBound_cases (lt_iff.1 high).2.1 with known | ⟨low, _⟩ | ⟨_, below, same⟩
  · exact .inl known
  · exact (not_lt_of_le low high).elim
  · exact .inr ⟨below, same⟩

theorem restoreBound_le (low : lower < infiniteBound) : restoreBound lower ≤ lower := by
  have number := (lt_iff.1 low).1
  rcases restoreBound_lower_cases low with ⟨_, same⟩ | ⟨_, same⟩
  · rw [same]
    exact neg_infinity_le number
  · rw [same]
    exact le_refl number

theorem le_restoreBound (high : -infiniteBound < upper) : upper ≤ restoreBound upper := by
  have number := (lt_iff.1 high).2.1
  rcases restoreBound_upper_cases high with ⟨_, same⟩ | ⟨_, same⟩
  · rw [same]
    exact le_infinity number
  · rw [same]
    exact le_refl number

/-- The nearest point of an interval that reaches into the usual magnitudes, its infinities
restored. A bound is respected unless it counts as infinite and the starting value is beyond it. -/
theorem clamp_restoreBound (finite : Arith.isFinite start) (ordered : lower ≤ upper)
    (low : lower < infiniteBound) (high : -infiniteBound < upper) :
    let value := Arith.clamp start (restoreBound lower) (restoreBound upper)
    Arith.isFinite value ∧ (lower ≤ value ∨ lower ≤ -infiniteBound ∧ start < lower) ∧
      (value ≤ upper ∨ infiniteBound ≤ upper ∧ upper < start) := by
  intro value
  have number := not_isNaN_of_isFinite finite
  obtain ⟨lowerNumber, upperNumber⟩ := not_isNaN_of_le ordered
  have restored := restoreBound_le_restoreBound ordered
  have inside : restoreBound lower ≤ value ∧ value ≤ restoreBound upper :=
    clamp_mem number restored
  have wider := restoreBound_le low
  have wider' := le_restoreBound high
  refine ⟨?_, ?_, ?_⟩
  · rcases clamp_cases start (restoreBound lower) (restoreBound upper) with
      ⟨below, same⟩ | ⟨above, same⟩ | same
    · rcases restoreBound_lower_cases low with ⟨_, infinite⟩ | ⟨usual, known⟩
      · rw [infinite] at below
        exact (not_lt_of_le (neg_infinity_le number) below).elim
      · rw [show value = _ from same, known]
        exact isFinite_of_lt usual low
    · rcases restoreBound_upper_cases high with ⟨_, infinite⟩ | ⟨usual, known⟩
      · rw [infinite] at above
        exact (not_lt_of_le (le_infinity number) above).elim
      · rw [show value = _ from same, known]
        exact isFinite_of_lt high usual
    · rw [show value = _ from same]
      exact finite
  · by_cases above : lower ≤ start
    · left
      rw [← clamp_of_mem wider (le_trans ordered wider')]
      exact clamp_le_clamp restored above
    · rcases restoreBound_lower_cases low with ⟨infinite, _⟩ | ⟨_, same⟩
      · exact .inr ⟨infinite, lt_of_not_le lowerNumber number above⟩
      · rw [same] at inside
        exact .inl inside.1
  · by_cases below : start ≤ upper
    · left
      rw [← clamp_of_mem (le_trans wider ordered) wider']
      exact clamp_le_clamp restored below
    · rcases restoreBound_upper_cases high with ⟨infinite, _⟩ | ⟨_, same⟩
      · exact .inr ⟨infinite, lt_of_not_le number upperNumber below⟩
      · rw [same] at inside
        exact .inl inside.2

end LawfulInfinity

/-! ## The first exchange -/

section First

variable {R : Type} [Arith R] {n nf neg : Nat}

/-- The calls of a solve begin at the point that the protocol names. -/
theorem AugmentedLagrangian.FollowsProtocol.first {x : Vector R n} {inform : Int}
    {reported : Array R} {calls : List (Exchange R n nf neg)}
    (follows : FollowsProtocol x inform reported calls) :
    ∃ first later, calls = first :: later ∧ first.request.x = x := by
  have begins : ∀ {record : List (Exchange R n nf neg)}, IsOrderly x record →
      ∃ first later, record = first :: later ∧ first.request.x = x := by
    intro record orderly
    obtain ⟨first, later, isRecord, asks, _⟩ := orderly.opening
    exact ⟨first, later, isRecord, congrArg Request.x asks⟩
  rcases follows with ⟨_, orderly, _⟩ | ⟨_, evaluations, last, _, rfl, orderly, _⟩
  · exact begins orderly
  · obtain ⟨first, later, rfl, point⟩ := begins orderly
    exact ⟨first, later ++ [last], rfl, point⟩

variable [LawfulInfinity R]

theorem map_restoreBound_cutBound (bounds : Array R) :
    (bounds.map cutBound).map restoreBound = bounds.map restoreBound := by
  rw [Array.map_map]
  exact congrArg (bounds.map ·) (funext LawfulInfinity.restoreBound_cutBound)

variable {σ : Type} [Precision R] {d : Differentiator R σ} {job : Job R} {name : String}
variable {workspace : Workspace R} {program : Program R d.dims.nx d.dims.rows d.layout.solverLength}

/-- The first point of the solve of a job, entry by entry. -/
theorem get_project_start (accepted : (job.call d name workspace).accept = .ok program)
    (j : Fin d.dims.nx) {start lower upper : R}
    (isStart : job.start.state.x[j.val]? = some start)
    (isLower : job.bounds.xLower[j.val]? = some lower)
    (isUpper : job.bounds.xUpper[j.val]? = some upper) :
    (project program program.start).get j =
      Arith.clamp start (restoreBound lower) (restoreBound upper) := by
  have describes := EngineCall.describes_of_accept accepted
  have xLower : program.xLower.toArray = job.bounds.xLower.map restoreBound :=
    describes.xLower.trans (map_restoreBound_cutBound _)
  have xUpper : program.xUpper.toArray = job.bounds.xUpper.map restoreBound :=
    describes.xUpper.trans (map_restoreBound_cutBound _)
  rw [project, ← get_of_toArray_eq describes.start isStart, ← get_of_toArray_eq_map xLower isLower,
    ← get_of_toArray_eq_map xUpper isUpper]
  simp

end First

namespace Session

/-- The exchanges that the solver has with the relay of a session. -/
def exchanges {R σ : Type} [Arith R] [Precision R] {d : Differentiator R σ}
    (session : Session R (AugmentedLagrangian R)) (job : Job R) (memory : d.Memory) :
    List (Exchange R d.dims.nx d.dims.rows d.layout.solverLength) :=
  (session.outcome d job (Relay.callback d).recorded ([], Relay.fresh memory)).callbackState.1

/-- The first point at which a problem is evaluated. There is one if there are variables and the
basis of a warm start fits. Where the bounds of a variable reach into the usual magnitudes the
point is finite and respects them. -/
theorem exchanges_first {σ : Type} {d : Differentiator Double σ}
    {session : Session Double (AugmentedLagrangian Double)} {job : Job Double}
    (begins : session.CanBegin d job) (some : 1 ≤ d.dims.nx)
    (fits : job.start.mode = .warm →
      0 ≤ job.start.state.superbasics ∧ job.start.state.superbasics ≤ d.dims.nx)
    (memory : d.Memory) :
    ∃ first later, session.exchanges job memory = first :: later ∧
      ∀ (j : Fin d.dims.nx) (start lower upper : Double),
        job.start.state.x[j.val]? = .some start → job.bounds.xLower[j.val]? = .some lower →
        job.bounds.xUpper[j.val]? = .some upper →
        lower < infiniteBound → -infiniteBound < upper →
        let value := first.request.x.get j
        Arith.isFinite value ∧
          (lower ≤ value ∨ lower ≤ -infiniteBound ∧ start < lower) ∧
          (value ≤ upper ∨ infiniteBound ≤ upper ∧ upper < start) := by
  have good : ¬(job.call d session.settings.problemName (session.lentWorkspace d)).HasBadBasis :=
    fun bad => bad.2 (fits bad.1)
  obtain ⟨program, accepted⟩ := begins.exists_accept (Nat.one_le_iff_ne_zero.1 some) good
  have follows := program.solve_protocol (session.readySolver d).settings
    (storageNeeds d.supplier.storageRequest) (Relay.callback d) (Relay.fresh memory)
  have calls : session.exchanges job memory =
      (program.solve (session.readySolver d).settings (storageNeeds d.supplier.storageRequest)
        (Relay.callback d).recorded ([], Relay.fresh memory)).callbackState.1 := by
    rw [exchanges, Session.outcome, runCall_of_accept accepted]
    rfl
  obtain ⟨first, later, isFirst, point⟩ := follows.first
  refine ⟨first, later, calls.trans isFirst, ?_⟩
  intro j start lower upper isStart isLower isUpper low high
  have finite : Arith.isFinite start :=
    (Start.validate_eq_ok.1 begins.start).2 start
      (Array.mem_toList_iff.2 (Array.mem_of_getElem? isStart))
  have ordered : lower ≤ upper :=
    le_of_areBounds (Bounds.validate_eq_ok.1 begins.bounds).1 isLower isUpper
  rw [point, get_project_start accepted j isStart isLower isUpper]
  exact LawfulInfinity.clamp_restoreBound finite ordered low high

/-- A start below its bounds, above them and between them. -/
def scatteredJob : Job Double where
  start := .cold #[-4.0, 9.0, 0.5] 3
  bounds := ⟨#[1.0, -1.0e30, 0], #[2.0, 3.0, 1.0e30], #[-1, 0], #[5.0, 6.0]⟩
  objectiveConstant := 0

theorem exchanges_first_scattered :
    let d := Differentiator.onSparse squareAndProduct squareAndProductEntries .supplied
    usual.CanBegin d scatteredJob ∧ ∃ first later,
      usual.exchanges scatteredJob (.fresh () : d.Memory) = first :: later ∧
        1.0 ≤ first.request.x.get 0 ∧ first.request.x.get 0 ≤ 2.0 := by
  intro d
  have begins : usual.CanBegin d scatteredJob :=
    usual_canBegin (by decide +kernel) (by decide +kernel) (by decide +kernel)
  obtain ⟨first, later, calls, respected⟩ :=
    exchanges_first begins (by decide) nofun (.fresh () : d.Memory)
  obtain ⟨_, lower, upper⟩ := respected 0 (-4.0) 1.0 2.0 rfl rfl rfl (by decide +kernel)
    (by decide +kernel)
  refine ⟨begins, first, later, calls, ?_, ?_⟩
  · exact lower.resolve_right (by decide +kernel)
  · exact upper.resolve_right (by decide +kernel)

/-- Bounds of great magnitude. The first variable starts below its lower bound, the second has no
value but its bounds. -/
def remoteJob : Job Double where
  start := .cold #[-3.0e20, 0, 0.5] 3
  bounds := ⟨#[-2.0e20, 2.0e20, 0], #[0, 2.0e20, 1], #[0, 0], #[1, 1]⟩
  objectiveConstant := 0

/-- The solver takes both bounds for infinite, and its first point is outside. -/
theorem exchanges_remote :
    let d := Differentiator.onSparse squareAndProduct squareAndProductEntries .supplied
    usual.CanBegin d remoteJob ∧ remoteJob.bounds.xLower.all Arith.isFinite ∧
      ∃ first later, usual.exchanges remoteJob (.fresh () : d.Memory) = first :: later ∧
        first.request.x.get 0 < -2.0e20 ∧ ¬Arith.isFinite (first.request.x.get 1) := by
  intro d
  have begins : usual.CanBegin d remoteJob :=
    usual_canBegin (by decide +kernel) (by decide +kernel) (by decide +kernel)
  have outside : ((usual.exchanges remoteJob (.fresh () : d.Memory)).head?.any fun first =>
      decide (first.request.x.get 0 < -2.0e20) && !Arith.isFinite (first.request.x.get 1)) =
        true := by
    decide +kernel
  rcases calls : usual.exchanges remoteJob (.fresh () : d.Memory) with _ | ⟨first, later⟩
  · rw [calls] at outside
    cases outside
  · rw [calls] at outside
    have outside : (decide (first.request.x.get 0 < -2.0e20) &&
      !Arith.isFinite (first.request.x.get 1)) = true := outside
    rw [Bool.and_eq_true, decide_eq_true_iff, Bool.not_eq_true'] at outside
    exact ⟨begins, by decide +kernel, first, later, rfl, outside.1, Bool.eq_false_iff.1 outside.2⟩

end Session

end NonlinearProgram
