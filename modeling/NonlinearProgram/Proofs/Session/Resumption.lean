import NonlinearProgram.Proofs.AugmentedLagrangian.FinalState
import NonlinearProgram.Proofs.Session.Exits
import NonlinearProgram.Proofs.Solver.SavedStart

/-!
# Solves that resume

The state of a finished solve is looked at by three checks before it is used again: one when a saved
start is loaded, one of the session, and one of the solver. It passes all of them, whatever the exit
of the solve was, unless the solver had refused the call, `Session.solveWith_resumable`.
-/

namespace NonlinearProgram

open AugmentedLagrangian

/-! ## The checks -/

namespace SolverState.IsResumable

variable {R : Type} [Arith R] {state : SolverState R} {n nf objective : Nat}

theorem isConsistent (resumable : state.IsResumable n nf objective) : state.IsConsistent := by
  have fits := resumable.fits
  refine ⟨fits.xState.trans fits.x.symm, fits.xMul.trans fits.x.symm, fits.fState.trans fits.f.symm,
    fits.fMul.trans fits.f.symm, resumable.superbasics.1, fun code member => ?_⟩
  rcases List.mem_append.1 member with ofVariable | ofRow
  · have codes := resumable.xState code ofVariable
    simp only [List.mem_cons, List.not_mem_nil, or_false] at codes
    omega
  · have codes := resumable.fState code ofRow
    simp only [List.mem_cons, List.not_mem_nil, or_false] at codes
    omega

/-- A saved state loads as itself. -/
theorem load_eq (resumable : state.IsResumable n nf objective) (mode : StartMode) :
    SavedRecord.load ⟨mode, state⟩ = .ok ⟨mode, state⟩ :=
  SavedRecord.load_eq_ok_iff.2 ⟨resumable.isConsistent, rfl⟩

/-- A state with a finite point passes the check of a session. -/
theorem validate_eq_ok {dims : Dimensions} (counted : FitsWord dims.rows)
    (resumable : state.IsResumable dims.nx dims.rows objective) (mode : StartMode)
    (finite : ∀ value ∈ state.x.toList, Arith.isFinite value) :
    Start.validate ⟨mode, state⟩ dims = .ok () := by
  have fits := resumable.fits
  rw [← Dimensions.nf_eq_rows counted] at fits
  exact Start.validate_eq_ok.2 ⟨fits, finite⟩

end SolverState.IsResumable

/-! ## Sessions -/

namespace Session

variable {R σ : Type} [Arith R] [Precision R] [LawfulInfinity R] {d : Differentiator R σ}
variable {session : Session R (AugmentedLagrangian R)} {job : Job R} {memory : d.Memory}
variable {result : SessionResult R}

/-- A cold solve that can begin is not refused if there are variables. -/
theorem CanBegin.exists_not_refused (begins : session.CanBegin d job) (some : d.dims.nx ≠ 0)
    (cold : job.start.mode = .cold) (memory : d.Memory) :
    ∃ result, (session.solveWith d job memory).1 = .ok result ∧ result.report.inform ≠ 91 ∧
      result.report.inform ≠ 92 := by
  have proper : ∀ code ∈ ([1, 3, 13, 21, 31, 32, 41, 62, 63] : List Int),
      code ≠ 91 ∧ code ≠ 92 := by decide
  refine ⟨_, begins.answered memory, ?_⟩
  rcases outcome_cases begins memory with ⟨empty, _⟩ | ⟨_, bad, _⟩ | ⟨_, _, code, _⟩
  · exact (some empty).elim
  · cases cold.symm.trans bad.1
  · exact proper _ code

/-- A solve that has not been refused had variables and leaves a state to resume from. -/
theorem isResumable_of_solveWith (solved : (session.solveWith d job memory).1 = .ok result)
    (valid : result.report.inform ≠ 91) (basis : result.report.inform ≠ 92) :
    d.dims.nx ≠ 0 ∧ result.state.IsResumable d.dims.nx d.dims.rows 0 := by
  obtain ⟨begins, rfl⟩ := solveWith_eq_ok.1 solved
  rcases outcome_cases begins memory with ⟨_, code, _⟩ | ⟨_, _, code, _⟩ | ⟨some, good, _⟩
  · exact (valid code).elim
  · exact (basis code).elim
  · obtain ⟨program, accepted⟩ := begins.exists_accept some good
    have first : program.objective.val = 0 := by
      have describes := (EngineCall.describes_of_accept accepted).objective
      change 1 = program.objective.val + 1 at describes
      omega
    refine ⟨some, ?_⟩
    rw [← first]
    exact runCall_isResumable accepted _ _ _

/-- A solve from a state to resume from is not refused if there are variables. -/
theorem inform_notMem_of_isResumable {objective : Nat}
    (resumable : job.start.state.IsResumable d.dims.nx d.dims.rows objective) (some : d.dims.nx ≠ 0)
    (solved : (session.solveWith d job memory).1 = .ok result) :
    result.report.inform ∉ [91, 92] := by
  obtain ⟨begins, rfl⟩ := solveWith_eq_ok.1 solved
  have proper : ∀ code ∈ ([1, 3, 13, 21, 31, 32, 41, 62, 63] : List Int), code ∉ [91, 92] := by
    decide
  rcases outcome_cases begins memory with ⟨empty, _⟩ | ⟨_, bad, _⟩ | ⟨_, _, code, _⟩
  · exact (some empty).elim
  · exact (bad.2 resumable.superbasics).elim
  · exact proper _ code

end Session

/-- What a solve leaves can be resumed, unless the solver has refused its call. The state has codes
and multipliers of the right form; saved it loads as itself; it passes the check of a session if its
point is finite; and no solve of a problem of the same dimensions that begins with it is refused. -/
theorem Session.solveWith_resumable {σ : Type} {d : Differentiator Double σ}
    {session : Session Double (AugmentedLagrangian Double)} {job : Job Double} {memory : d.Memory}
    {result : SessionResult Double} (solved : (session.solveWith d job memory).1 = .ok result)
    (valid : result.report.inform ≠ 91) (basis : result.report.inform ≠ 92) :
    let start := result.warmStart
    start.mode = .warm ∧ start.state.IsResumable d.dims.nx d.dims.rows 0 ∧
      SavedRecord.load ⟨start.mode, start.state⟩ = .ok start ∧
      ((∀ value ∈ start.state.x.toList, Arith.isFinite value) → start.validate d.dims = .ok ()) ∧
      ∀ {υ : Type} (later : Session Double (AugmentedLagrangian Double))
        (next : Differentiator Double υ) (resumed : Job Double) (scratch : next.Memory),
        next.dims = d.dims → resumed.start = start →
          (later.CanBegin next resumed →
              ∃ answer, (later.solveWith next resumed scratch).1 = .ok answer) ∧
            ∀ answer, (later.solveWith next resumed scratch).1 = .ok answer →
              answer.report.inform ∉ [91, 92] := by
  intro start
  obtain ⟨some, resumable⟩ := isResumable_of_solveWith solved valid basis
  have counted := (solveWith_eq_ok.1 solved).1.fitsWord_rows
  refine ⟨rfl, resumable, resumable.load_eq .warm, resumable.validate_eq_ok counted .warm, ?_⟩
  intro υ later next resumed scratch same begun
  constructor
  · intro begins
    exact ⟨_, begins.answered scratch⟩
  · intro answer answered
    have inherited : resumed.start.state.IsResumable next.dims.nx next.dims.rows 0 := by
      rw [begun, same]
      exact resumable
    exact inform_notMem_of_isResumable inherited (same ▸ some) answered

/-- The square and the product are solved from a cold start and can be resumed. -/
theorem Session.solveWith_resumable_squareAndProduct :
    let d := Differentiator.onSparse squareAndProduct squareAndProductEntries .supplied
    let job : Job Double := ⟨.cold #[2.0, 3.0, 4.0] 3, .free ⟨3, 2⟩, 0⟩
    ∃ result, (usual.solveWith d job (.fresh ())).1 = .ok result ∧ result.report.inform ≠ 91 ∧
      result.report.inform ≠ 92 ∧
        SavedRecord.load ⟨.warm, result.state⟩ = .ok result.warmStart := by
  intro d job
  have begins : usual.CanBegin d job :=
    usual_canBegin (by decide +kernel) (by decide +kernel) (by decide +kernel)
  obtain ⟨result, solved, valid, basis⟩ := begins.exists_not_refused (by decide) rfl (.fresh ())
  obtain ⟨_, _, loaded, _⟩ := solveWith_resumable solved valid basis
  exact ⟨result, solved, valid, basis, loaded⟩

end NonlinearProgram
