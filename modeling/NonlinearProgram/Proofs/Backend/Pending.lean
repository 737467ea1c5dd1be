import NonlinearProgram.Arith.Double
import NonlinearProgram.AugmentedLagrangian.Solver
import NonlinearProgram.ProjectedGradient
import NonlinearProgram.Proofs.Problem.Dependence

/-!
# Pending starts

A start that was made pending for a session takes the place of the next starting point. A solve uses
it up. A minimization that fails before the session is reached leaves it pending; one that the
session refuses leaves a warm start pending and loses a cold one.

A run of demands on a backend is followed by what each of them ends with. What is pending after the
run is the last start that was made pending, provided that every demand since has kept it.
-/

namespace NonlinearProgram

variable {R ε ξ : Type}

/-! ## Demands and their endings -/

/-- What may be demanded of a backend. A problem comes with its own state. -/
inductive Demand (R : Type) [Arith R] : Type 1 where
  /-- A start is made pending. -/
  | resumeFrom (start : Start R)
  /-- A problem is minimized. -/
  | minimize {σ : Type} (problem : Problem R σ) (x0 : Array R) (ng : Nat) (bounds : Bounds R)
      (options : MinimizeOptions R) (state : σ)

/-- What a demand ends with. -/
inductive Ending (R : Type) where
  | pended (start : Start R)
  | solved (solution : Solution R)
  | failed (failure : MinimizeError)

namespace Ending

/-- The start that is pending after a demand, given the one that was pending before. -/
def next (pending : Option (Start R)) : Ending R → Option (Start R)
  | pended start => some start
  | solved _ => none
  | failed (.session _) => pending.filter Start.isWarm
  | failed _ => pending

/-- A start that was pending is pending after a demand with this ending. -/
def Keeps (start : Start R) : Ending R → Prop
  | pended _ | solved _ => False
  | failed (.session _) => start.isWarm
  | failed _ => True

theorem next_eq_some_iff (pending : Option (Start R)) (ending : Ending R) (start : Start R) :
    ending.next pending = some start ↔
      ending = .pended start ∨ ending.Keeps start ∧ pending = some start := by
  cases ending with
  | pended other => simp [next, Keeps]
  | solved solution => simp [next, Keeps]
  | failed failure =>
      cases failure with
      | session cause => simp [next, Keeps, Option.filter_eq_some_iff, and_comm]
      | setup cause => simp [next, Keeps]
      | direct solver reason => simp [next, Keeps]

/-- A failure keeps what was pending, unless a session refused a cold start. -/
theorem next_failed_eq_iff (pending : Option (Start R)) (failure : MinimizeError) :
    next pending (failed failure) = pending ↔
      ¬∃ cause start, failure = .session cause ∧ pending = some start ∧ start.isWarm = false := by
  cases failure with
  | setup cause => simp [next]
  | direct solver reason => simp [next]
  | session cause =>
      cases pending with
      | none => simp [next]
      | some start => cases mode : start.isWarm <;> simp [next, Option.filter, mode]

/-- A start was made pending in a run, and every demand since has kept it. -/
def LastKept (start : Start R) (endings : List (Ending R)) : Prop :=
  ∃ earlier later, endings = earlier ++ pended start :: later ∧
    ∀ ending ∈ later, ending.Keeps start

theorem lastKept_append_singleton (start : Start R) (endings : List (Ending R))
    (ending : Ending R) :
    LastKept start (endings ++ [ending]) ↔
      ending = .pended start ∨ ending.Keeps start ∧ LastKept start endings := by
  constructor
  · rintro ⟨earlier, later, split, kept⟩
    cases later using List.reverseRecOn with
    | nil =>
        rcases List.append_inj' split rfl with ⟨_, same⟩
        exact .inl (List.singleton_inj.1 same)
    | append_singleton later last =>
        rw [← List.cons_append, ← List.append_assoc] at split
        rcases List.append_inj' split rfl with ⟨rest, same⟩
        rw [List.singleton_inj.1 same]
        refine .inr ⟨kept last (by simp), earlier, later, rest, ?_⟩
        intro ending member
        exact kept ending (List.mem_append_left _ member)
  · rintro (rfl | ⟨keeps, earlier, later, rfl, kept⟩)
    · exact ⟨endings, [], rfl, by simp⟩
    · refine ⟨earlier, later ++ [ending], by simp, ?_⟩
      intro other member
      rcases List.mem_append.1 member with known | last
      · exact kept other known
      · rw [List.mem_singleton.1 last]
        exact keeps

/-- A start is pending after a run if it was made pending and every demand since has kept it. -/
theorem foldl_next_eq_some_iff (endings : List (Ending R)) (start : Start R) :
    endings.foldl next none = some start ↔ LastKept start endings := by
  induction endings using List.reverseRecOn with
  | nil => simp [LastKept]
  | append_singleton endings ending ih =>
      rw [List.foldl_append, List.foldl_cons, List.foldl_nil, next_eq_some_iff, ih,
        lastKept_append_singleton]

end Ending

/-! ## Runs of demands -/

section Runs

variable [Arith R] [Precision R] [Engine R ε] [DirectSolver R ξ]

namespace Backend

/-- How a minimization ended. -/
def ending (outcome : Except MinimizeError (Solution R)) : Ending R :=
  match outcome with
  | .ok solution => .solved solution
  | .error failure => .failed failure

/-- Serves one demand. -/
def serve (backend : Backend R ε ξ) : Demand R → Ending R × Backend R ε ξ
  | .resumeFrom start => (.pended start, backend.resumeFrom start)
  | .minimize problem x0 ng bounds options state =>
      let (outcome, backend, _) := backend.minimize problem x0 ng bounds options state
      (ending outcome, backend)

/-- Serves demands in order. -/
def serveAll : List (Demand R) → Backend R ε ξ → List (Ending R) × Backend R ε ξ
  | [], backend => ([], backend)
  | demand :: rest, backend =>
      let served := backend.serve demand
      let after := serveAll rest served.2
      (served.1 :: after.1, after.2)

/-- What a session reports for a solve that was handed a start. -/
def minimizeFrom {σ : Type} (current : Session R ε) (start : Start R) (d : Differentiator R σ)
    (bounds : Bounds R) (objectiveConstant : R) (memory : d.Memory) :
    Except MinimizeError (Solution R) :=
  match (current.solveWith d ⟨start, bounds, objectiveConstant⟩ memory).1 with
  | .ok result => .ok (.ofResult result)
  | .error failure => .error (.session failure)

variable {σ : Type} {current : Session R ε} {pending : Option (Start R)} {problem : Problem R σ}
variable {x0 : Array R} {ng : Nat} {bounds : Bounds R} {options : MinimizeOptions R} {state : σ}

/-- A failed preparation is reported and changes nothing of the session. -/
theorem minimize_of_unprepared {failure : SetupError} {state' : σ}
    (refused : options.prepare problem ⟨x0.size, ng⟩ bounds state = (.error failure, state')) :
    (session current pending : Backend R ε ξ).minimize problem x0 ng bounds options state =
      (.error (.setup failure), session current pending, state') := by
  rw [minimize, refused]

/-- A pending start, and else the starting point, is handed to the session. A refusal of the session
keeps the start that was pending if it is warm. -/
theorem minimize_of_prepared {d : Differentiator R σ} {state' : σ}
    (prepared : options.prepare problem ⟨x0.size, ng⟩ bounds state = (.ok d, state')) :
    let outcome := minimizeFrom current (pending.getD (.cold x0 d.dims.nf)) d bounds
      options.objectiveConstant (.fresh state')
    ∃ current' state'',
      (session current pending : Backend R ε ξ).minimize problem x0 ng bounds options state =
        (outcome, session current' ((ending outcome).next pending), state'') := by
  intro outcome
  rw [minimize, prepared]
  simp only [Session.minimize, outcome, minimizeFrom]
  rcases current.solveWith d ⟨pending.getD (.cold x0 d.dims.nf), bounds, options.objectiveConstant⟩
    (.fresh state') with ⟨_ | result, after, memory⟩
  · refine ⟨after, memory.state, ?_⟩
    cases pending with
    | none => rfl
    | some start =>
        cases mode : start.isWarm with
        | false => simp [ending, Ending.next, Option.filter, mode]
        | true => simp [ending, Ending.next, Option.filter, mode]
  · exact ⟨after, memory.state, rfl⟩

/-- A minimization with a session leaves pending what its ending says. -/
theorem minimize_session (current : Session R ε) (pending : Option (Start R))
    (problem : Problem R σ) (x0 : Array R) (ng : Nat) (bounds : Bounds R)
    (options : MinimizeOptions R) (state : σ) :
    let after := (session current pending : Backend R ε ξ).minimize problem x0 ng bounds options
      state
    ∃ current', after.2.1 = session current' ((ending after.1).next pending) := by
  intro after
  rcases prepared : options.prepare problem ⟨x0.size, ng⟩ bounds state with ⟨failure | d, state'⟩
  · have outcome : after = _ := minimize_of_unprepared prepared
    rw [outcome]
    exact ⟨current, rfl⟩
  · obtain ⟨current', _, outcome⟩ : ∃ current' state'', after = _ := minimize_of_prepared prepared
    rw [outcome]
    exact ⟨current', rfl⟩

/-- One demand leaves pending what its ending says. -/
theorem serve_session (current : Session R ε) (pending : Option (Start R)) (demand : Demand R) :
    let served := (session current pending : Backend R ε ξ).serve demand
    ∃ current', served.2 = session current' (served.1.next pending) := by
  cases demand with
  | resumeFrom start => exact ⟨current, rfl⟩
  | minimize problem x0 ng bounds options state =>
      exact minimize_session current pending problem x0 ng bounds options state

/-- A run of demands leaves pending what its endings say. -/
theorem serveAll_session (current : Session R ε) (pending : Option (Start R))
    (demands : List (Demand R)) :
    let run := serveAll demands (session current pending : Backend R ε ξ)
    ∃ current', run.2 = session current' (run.1.foldl Ending.next pending) := by
  induction demands generalizing current pending with
  | nil => exact ⟨current, rfl⟩
  | cons demand rest ih =>
      obtain ⟨current', served⟩ : ∃ current', ((session current pending : Backend R ε ξ).serve
        demand).2 = session current' _ := serve_session current pending demand
      simp only [serveAll, served]
      exact ih current' _

/-- After any run of demands the pending start is the last one that was made pending and kept since.
A minimization that follows is handed this start in place of its starting point. If it succeeds,
nothing is pending after it; if it fails, the same start is pending as before, unless the start is
cold and it was the session that refused. -/
theorem pending_after_demands (current : Session R ε) (demands : List (Demand R)) :
    let run := serveAll demands (session current none : Backend R ε ξ)
    (∀ start, run.2.pending? = some start ↔ Ending.LastKept start run.1) ∧
      ∀ (σ : Type) (problem : Problem R σ) (x0 : Array R) (ng : Nat) (bounds : Bounds R)
        (options : MinimizeOptions R) (state : σ),
        let after := run.2.minimize problem x0 ng bounds options state
        (∀ solution, after.1 = .ok solution → after.2.1.pending? = none) ∧
        (∀ failure, after.1 = .error failure →
          (after.2.1.pending? = run.2.pending? ↔
            ¬∃ cause start, failure = .session cause ∧ run.2.pending? = some start ∧
              start.isWarm = false)) ∧
        ∃ current', run.2 = session current' run.2.pending? ∧ ∀ d state',
          options.prepare problem ⟨x0.size, ng⟩ bounds state = (.ok d, state') →
            after.1 = minimizeFrom current' (run.2.pending?.getD (.cold x0 d.dims.nf)) d bounds
              options.objectiveConstant (.fresh state') := by
  intro run
  obtain ⟨current', reached⟩ :
      ∃ current', run.2 = session current' (run.1.foldl Ending.next none) :=
    serveAll_session current none demands
  have isPending : run.2.pending? = run.1.foldl Ending.next none := by rw [reached, pending?]
  constructor
  · rw [isPending]
    exact Ending.foldl_next_eq_some_iff run.1
  · intro σ problem x0 ng bounds options state after
    rw [← isPending] at reached
    obtain ⟨current'', left⟩ : ∃ current'', after.2.1 =
        session current'' ((ending after.1).next run.2.pending?) := by
      simp only [after]
      rw [reached]
      exact minimize_session current' _ problem x0 ng bounds options state
    refine ⟨?_, ?_, current', reached, ?_⟩
    · intro solution solved
      rw [left, solved]
      rfl
    · intro failure failed
      rw [left, failed]
      exact Ending.next_failed_eq_iff run.2.pending? failure
    · intro d state' prepared
      obtain ⟨_, _, outcome⟩ : ∃ current'' state'',
          (session current' run.2.pending? : Backend R ε ξ).minimize problem x0 ng bounds options
            state = _ := minimize_of_prepared prepared
      simp only [after]
      rw [reached, outcome]
      rfl

/-- A cold start of the wrong size is refused by the session and lost. -/
theorem cold_start_lost :
    let start : Start Double := .cold #[7.0, 7.0] 3
    let backend : Backend Double (AugmentedLagrangian Double) (ProjectedGradient Double) :=
      (session { engine := .new } none).resumeFrom start
    let after := backend.minimize squareAndProduct #[2.0, 2.0, 1.0] 2 (.free ⟨3, 2⟩) {} ()
    backend.pending? = some start ∧ after.1.isOk = false ∧ after.2.1.pending? = none := by
  intro start backend after
  have lost : after.2.1.pending?.isNone := by decide +kernel
  exact ⟨rfl, by decide +kernel, Option.isNone_iff_eq_none.1 lost⟩

end Backend

end Runs

end NonlinearProgram
