import NonlinearProgram.Proofs.Backend.Pending
import NonlinearProgram.Proofs.Backend.Preparation
import NonlinearProgram.Proofs.Session.Beginning

/-!
# Minimizing from a point

A minimization from a point with nothing pending succeeds exactly if it can be prepared, the point
and the objective constant are finite, and every size fits the integers of the solver. What cannot
be prepared fails before the engine is touched. Everything else is refused by the session, and never
for a size that does not match: the sizes were read off the point, and the differentiator has them.
-/

namespace NonlinearProgram

variable {R σ ξ : Type} [Arith R]

/-! ## Cold starts -/

/-- A cold start at a point of the right size has the right sizes. -/
theorem Start.fits_cold {x : Array R} {nx : Nat} (size : x.size = nx) (nf : Nat) :
    (cold x nf).state.Fits nx nf where
  x := size
  xState := Array.size_replicate.trans size
  xMul := Array.size_replicate.trans size
  f := Array.size_replicate
  fState := Array.size_replicate
  fMul := Array.size_replicate

/-- A number does not fit the integers of a solver. -/
def SessionError.IsOverflow (failure : SessionError) : Prop :=
  ∃ what value, failure = .overflow what value ∧ maxSolverInteger < value

/-- Why a session refuses to start at a point that has the right size. -/
inductive ColdRefusal (x0 : Array R) (objectiveConstant : R) : SessionError → Prop
  | start (notFinite : ¬∀ value ∈ x0.toList, Arith.isFinite value) :
      ColdRefusal x0 objectiveConstant (.setup (.unusableValue .startNotFinite))
  | constant (notFinite : ¬Arith.isFinite objectiveConstant) :
      ColdRefusal x0 objectiveConstant (.setup (.unusableValue .constantNotFinite))
  | overflow {failure : SessionError} (isOverflow : failure.IsOverflow) :
      ColdRefusal x0 objectiveConstant failure

namespace Differentiator

variable {d : Differentiator R σ} {failure : SessionError}

omit [Arith R] in
theorem isOverflow_of_checkCount {what : SolverCount} {value : Nat}
    (failed : checkCount what value = .error failure) : failure.IsOverflow := by
  rw [checkCount] at failed
  split at failed
  case isTrue => cases failed
  case isFalse tooLarge =>
    cases failed
    exact ⟨what, value, rfl, Nat.lt_of_not_le tooLarge⟩

theorem isOverflow_of_checkCounts [Precision R]
    (failed : d.supplier.checkCounts = .error failure) : failure.IsOverflow := by
  simp only [Supplier.checkCounts, then_eq_error] at failed
  rcases failed with failed | ⟨_, failed | ⟨_, failed | ⟨_, failed⟩⟩⟩
  · exact isOverflow_of_checkCount failed
  · exact isOverflow_of_checkCount failed
  · obtain ⟨position, _, failed⟩ := exists_of_forM_eq_error failed
    exact isOverflow_of_checkCount failed
  · obtain ⟨position, _, failed⟩ := exists_of_forM_eq_error failed
    exact isOverflow_of_checkCount failed

end Differentiator

/-- The job of a minimization from a point. -/
abbrev Differentiator.jobAt (d : Differentiator R σ) (x0 : Array R) (bounds : Bounds R)
    (objectiveConstant : R) : Job R where
  start := .cold x0 d.dims.nf
  bounds
  objectiveConstant

variable [Precision R]

namespace Job

variable {d : Differentiator R σ} {x0 : Array R} {bounds : Bounds R} {objectiveConstant : R}

theorem coldRefusal_of_validate {failure : SetupError} (passed : bounds.validate d.dims = .ok ())
    (size : x0.size = d.dims.nx)
    (failed : d.supplier.validate (d.jobAt x0 bounds objectiveConstant) = .error failure) :
    ColdRefusal x0 objectiveConstant (.setup failure) := by
  simp only [Supplier.validate, then_eq_error, d.checkShape_pattern, passed, true_and, reduceCtorEq,
    false_or] at failed
  rcases failed with refused | ⟨_, failed⟩
  · obtain ⟨rfl, notFinite⟩ := Start.not_finite_of_validate (Start.fits_cold size _) refused
    exact .start notFinite
  · split at failed
    case isTrue notFinite =>
      cases failed
      exact .constant (by simpa using notFinite)
    case isFalse => cases failed

theorem coldRefusal_of_check {failure : SessionError} (passed : bounds.validate d.dims = .ok ())
    (size : x0.size = d.dims.nx)
    (failed : d.supplier.check (d.jobAt x0 bounds objectiveConstant) = .error failure) :
    ColdRefusal x0 objectiveConstant failure := by
  rw [Supplier.check] at failed
  split at failed
  case h_1 invalid =>
    cases failed
    exact coldRefusal_of_validate passed size invalid
  case h_2 => exact .overflow (Differentiator.isOverflow_of_checkCounts failed)

end Job

/-! ## Sessions -/

namespace Session

variable {session : Session R (AugmentedLagrangian R)} {d : Differentiator R σ} {x0 : Array R}
variable {bounds : Bounds R} {objectiveConstant : R}

/-- The sizes of a problem and of the workspace that is lent for it fit the integers of the
solver. -/
structure SizesFit (session : Session R (AugmentedLagrangian R)) (d : Differentiator R σ) :
    Prop where
  rows : d.dims.rows ≤ maxSolverInteger
  columns : d.dims.nx ≤ maxSolverInteger
  lengths : ∀ region, (session.lentWorkspace d).lengths.of region ≤ maxSolverInteger

/-- A solve from a point within its bounds needs no more than numbers that are finite and sizes that
fit. -/
theorem canBegin_jobAt
    (opens : (Engine.openChannels session.settings.routing session.engine).1 = .ok ())
    (passed : bounds.validate d.dims = .ok ()) (size : x0.size = d.dims.nx) :
    session.CanBegin d (d.jobAt x0 bounds objectiveConstant) ↔
      (∀ value ∈ x0.toList, Arith.isFinite value) ∧ Arith.isFinite objectiveConstant ∧
        session.SizesFit d := by
  constructor
  · rintro ⟨_, start, constant, rows, columns, lengths, _⟩
    exact ⟨(Start.validate_eq_ok.1 start).2, constant, rows, columns, lengths⟩
  · rintro ⟨finite, constant, rows, columns, lengths⟩
    have started : (Start.cold x0 d.dims.nf).validate d.dims = .ok () :=
      Start.validate_eq_ok.2 ⟨Start.fits_cold size _, finite⟩
    exact ⟨passed, started, constant, rows, columns, lengths, opens⟩

theorem coldRefusal_of_preflight {failure : SessionError}
    (opens : (Engine.openChannels session.settings.routing session.engine).1 = .ok ())
    (passed : bounds.validate d.dims = .ok ()) (size : x0.size = d.dims.nx)
    (failed : session.preflight d (d.jobAt x0 bounds objectiveConstant) = .error failure) :
    ColdRefusal x0 objectiveConstant failure := by
  simp only [preflight, then_eq_error, opens] at failed
  rcases failed with failed | ⟨_, failed | ⟨_, failed⟩⟩
  · exact Job.coldRefusal_of_check passed size failed
  · cases failed
  · obtain ⟨region, _, failed⟩ := exists_of_forM_eq_error failed
    exact .overflow (Differentiator.isOverflow_of_checkCount failed)

end Session

/-! ## Minimizations -/

variable [DirectSolver R ξ]

namespace Backend

section

variable {session : Session R (AugmentedLagrangian R)} {d : Differentiator R σ} {start : Start R}
variable {bounds : Bounds R} {objectiveConstant : R} {memory : d.Memory}

theorem exists_minimizeFrom_eq_ok :
    (∃ solution, minimizeFrom session start d bounds objectiveConstant memory = .ok solution) ↔
      session.CanBegin d ⟨start, bounds, objectiveConstant⟩ := by
  rw [minimizeFrom, Session.solveWith_fst, ← Session.preflight_eq_ok]
  cases session.preflight d ⟨start, bounds, objectiveConstant⟩ with
  | error failure => simp [Except.map]
  | ok passed => simp [Except.map]

theorem minimizeFrom_eq_error {failure : MinimizeError} :
    minimizeFrom session start d bounds objectiveConstant memory = .error failure ↔
      ∃ cause, session.preflight d ⟨start, bounds, objectiveConstant⟩ = .error cause ∧
        .session cause = failure := by
  rw [minimizeFrom, Session.solveWith_fst]
  cases session.preflight d ⟨start, bounds, objectiveConstant⟩ with
  | error failure => simp [Except.map]
  | ok passed => simp [Except.map]

end

/-- A minimization that cannot be prepared fails before the engine is touched, whatever it is. -/
theorem minimize_of_not_canPrepare {problem : Problem R σ} {x0 : Array R} {ng : Nat}
    {bounds : Bounds R} {options : MinimizeOptions R} {state : σ}
    (cannot : ¬options.CanPrepare problem ⟨x0.size, ng⟩ bounds state) :
    ∃ cause state', ∀ {ε : Type} [Engine R ε] (backend : Backend R ε ξ),
      backend.minimize problem x0 ng bounds options state =
        (.error (.setup cause), backend, state') := by
  rcases prepared : options.prepare problem ⟨x0.size, ng⟩ bounds state with ⟨cause | d, state'⟩
  · refine ⟨cause, state', ?_⟩
    intro ε _ backend
    rw [minimize, prepared]
  · exact absurd (MinimizeOptions.exists_prepare_eq_ok.1 ⟨d, state', prepared⟩) cannot

/-- A minimization from a point that has been prepared succeeds if its numbers are finite and its
sizes fit, and is refused for one of these otherwise. -/
theorem minimize_cold_of_prepared {current : Session R (AugmentedLagrangian R)}
    (opens : (Engine.openChannels current.settings.routing current.engine).1 = .ok ())
    {problem : Problem R σ} {x0 : Array R} {ng : Nat} {bounds : Bounds R}
    {options : MinimizeOptions R} {state state' : σ} {d : Differentiator R σ}
    (prepared : options.prepare problem ⟨x0.size, ng⟩ bounds state = (.ok d, state')) :
    let after := (session current none : Backend R (AugmentedLagrangian R) ξ).minimize problem x0 ng
      bounds options state
    ((∃ solution, after.1 = .ok solution) ↔
      (∀ value ∈ x0.toList, Arith.isFinite value) ∧ Arith.isFinite options.objectiveConstant ∧
        current.SizesFit d) ∧
    ∀ failure, after.1 = .error failure →
      ∃ cause, failure = .session cause ∧ ColdRefusal x0 options.objectiveConstant cause := by
  intro after
  have dims := MinimizeOptions.dims_of_prepare prepared
  have size : x0.size = d.dims.nx := by rw [dims]
  have passed : bounds.validate d.dims = .ok () := by
    rw [dims]
    exact (MinimizeOptions.prepare_eq_ok.1 prepared).1
  obtain ⟨_, _, outcome⟩ : ∃ current' state'', after = _ := minimize_of_prepared prepared
  rw [outcome]
  constructor
  · rw [exists_minimizeFrom_eq_ok]
    exact Session.canBegin_jobAt opens passed size
  · intro failure failed
    obtain ⟨cause, refused, rfl⟩ := minimizeFrom_eq_error.1 failed
    exact ⟨cause, rfl, Session.coldRefusal_of_preflight opens passed size refused⟩

/-- A minimization from a point, with nothing pending and channels that open, succeeds exactly if it
can be prepared, its numbers are finite and its sizes fit. Every pattern that is resolved has the
sizes of the problem, and so has its differentiator, for which only the derivatives of the method
can be missing. What cannot be prepared is a failed setup, and the backend stays as it is; every
other failure is a refusal of the session for one of three reasons. -/
theorem minimize_cold (current : Session R (AugmentedLagrangian R))
    (opens : (Engine.openChannels current.settings.routing current.engine).1 = .ok ())
    (problem : Problem R σ) (x0 : Array R) (ng : Nat) (bounds : Bounds R)
    (options : MinimizeOptions R) (state : σ) :
    let dims : Dimensions := ⟨x0.size, ng⟩
    let after := (session current none : Backend R (AugmentedLagrangian R) ξ).minimize problem x0 ng
      bounds options state
    ((∃ solution, after.1 = .ok solution) ↔
      options.CanPrepare problem dims bounds state ∧
        (∀ value ∈ x0.toList, Arith.isFinite value) ∧ Arith.isFinite options.objectiveConstant ∧
        ∀ d state', options.prepare problem dims bounds state = (.ok d, state') →
          current.SizesFit d) ∧
    (∀ pattern state', options.source.resolve problem dims state = (.ok pattern, state') →
      pattern.dimensions = .ok dims ∧
        ((∃ d, Differentiator.build problem pattern options.method = .ok d) ↔
          (options.method = .supplied → problem.hasDerivatives)) ∧
        ∀ d, Differentiator.build problem pattern options.method = .ok d → d.dims = dims) ∧
    (¬options.CanPrepare problem dims bounds state →
      ∃ cause state', ∀ {ε : Type} [Engine R ε] (backend : Backend R ε ξ),
        backend.minimize problem x0 ng bounds options state =
          (.error (.setup cause), backend, state')) ∧
    (options.CanPrepare problem dims bounds state → ∀ failure, after.1 = .error failure →
      ∃ cause, failure = .session cause ∧ ColdRefusal x0 options.objectiveConstant cause) := by
  intro dims after
  refine ⟨?_, ?_, minimize_of_not_canPrepare, ?_⟩
  · constructor
    · rintro ⟨solution, solved⟩
      have can : options.CanPrepare problem dims bounds state := by
        by_contra cannot
        obtain ⟨cause, state', failed⟩ := minimize_of_not_canPrepare (ξ := ξ) cannot
        rw [show after = _ from failed _] at solved
        cases solved
      obtain ⟨d, state', prepared⟩ := MinimizeOptions.exists_prepare_eq_ok.2 can
      obtain ⟨finite, constant, fit⟩ :=
        (minimize_cold_of_prepared opens prepared).1.1 ⟨solution, solved⟩
      refine ⟨can, finite, constant, ?_⟩
      intro d' state'' prepared'
      cases prepared.symm.trans prepared'
      exact fit
    · rintro ⟨can, finite, constant, fit⟩
      obtain ⟨d, state', prepared⟩ := MinimizeOptions.exists_prepare_eq_ok.2 can
      exact (minimize_cold_of_prepared opens prepared).1.2 ⟨finite, constant, fit d state' prepared⟩
  · intro pattern state' resolved
    have sized := PatternSource.dimensions_of_resolve resolved
    refine ⟨sized, Differentiator.exists_build_eq_ok sized, ?_⟩
    intro d built
    exact Except.ok.inj ((Differentiator.dimensions_of_build built).symm.trans sized)
  · intro can failure failed
    obtain ⟨d, state', prepared⟩ := MinimizeOptions.exists_prepare_eq_ok.2 can
    exact (minimize_cold_of_prepared opens prepared).2 failure failed

/-! ## One variable -/

/-- The square of one variable, without constraints. -/
def square : Problem Double Unit :=
  (Formulas.ofExprs (.binary .mul (.var 0) (.var 0)) [] none).toProblem

theorem canPrepare_square :
    ({} : MinimizeOptions Double).CanPrepare square ⟨1, 0⟩ (.free ⟨1, 0⟩) () where
  bounds := by decide +kernel
  source := trivial
  method := nofun

theorem minimize_cold_square :
    (Engine.openChannels Session.usual.settings.routing Session.usual.engine).1 = .ok () ∧
      ∃ solution, ((session Session.usual none :
        Backend Double (AugmentedLagrangian Double) (ProjectedGradient Double)).minimize square
          #[1.0] 0 (.free ⟨1, 0⟩) {} ()).1 = .ok solution := by
  have opens : (Engine.openChannels Session.usual.settings.routing Session.usual.engine).1 =
      .ok () := rfl
  refine ⟨opens, (minimize_cold Session.usual opens square #[1.0] 0 (.free ⟨1, 0⟩) {} ()).1.2 ?_⟩
  refine ⟨canPrepare_square, by decide +kernel, by decide +kernel, ?_⟩
  intro d state' prepared
  obtain ⟨_, pattern, resolved, built⟩ := MinimizeOptions.prepare_eq_ok.1 prepared
  cases resolved
  cases built
  exact ⟨by decide, by decide, fun region => by cases region <;> decide +kernel⟩

/-- A workspace that is too long for the integers of the solver is refused, though all else is
right. -/
theorem long_workspace_refused :
    let current : Session Double (AugmentedLagrangian Double) :=
      { Session.usual with settings := { baseLength := 1073741824 } }
    let x0 : Array Double := #[1.0]
    let options : MinimizeOptions Double := {}
    let after := (session current none :
      Backend Double (AugmentedLagrangian Double) (ProjectedGradient Double)).minimize square x0 0
        (.free ⟨1, 0⟩) options ()
    (Engine.openChannels current.settings.routing current.engine).1 = .ok () ∧
      options.CanPrepare square ⟨1, 0⟩ (.free ⟨1, 0⟩) () ∧
      (∀ value ∈ x0.toList, Arith.isFinite value) ∧ Arith.isFinite options.objectiveConstant ∧
      after.1 = .error (.session (.overflow .workspaceLength 2147483648)) := by
  intro current x0 options after
  refine ⟨rfl, canPrepare_square, by decide +kernel, by decide +kernel, ?_⟩
  let d : Differentiator Double Unit := .onDense square 1 0 .forwardMode
  have prepared : options.prepare square ⟨x0.size, 0⟩ (.free ⟨1, 0⟩) () = (.ok d, ()) :=
    MinimizeOptions.prepare_eq_ok.2 ⟨canPrepare_square.bounds, _, rfl, rfl⟩
  have refused : current.preflight d (d.jobAt x0 (.free ⟨1, 0⟩) options.objectiveConstant) =
      .error (.overflow .workspaceLength 2147483648) := by
    decide +kernel
  obtain ⟨_, _, outcome⟩ : ∃ current' state'', after = _ := minimize_of_prepared prepared
  rw [outcome]
  exact minimizeFrom_eq_error.2 ⟨_, refused, rfl⟩

end Backend

end NonlinearProgram
