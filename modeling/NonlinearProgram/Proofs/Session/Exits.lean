import NonlinearProgram.Proofs.AugmentedLagrangian.CallbackState
import NonlinearProgram.Proofs.AugmentedLagrangian.Protocol
import NonlinearProgram.Proofs.Session.Beginning

/-!
# The exits of a session

A relay never asks to stop, so a solve that is accepted ends with one notification and an exit that
is not a stop. A session hands its solver well-formed calls and enough storage. What is left to
refuse is a problem without variables and a warm start with a number of superbasic variables that
does not fit, `Session.solveWith_exits`.
-/

namespace NonlinearProgram

open AugmentedLagrangian

variable {R σ : Type} [Arith R] [Precision R] {d : Differentiator R σ}

/-! ## Relays -/

namespace Relay

/-- A reply has the status of its request or asks to back off, and a notification is counted. -/
theorem callback_status (request : Request R d.dims.nx) (f : Vector R d.dims.rows)
    (g : Vector R d.layout.solverLength) (relay : Relay d) :
    let answer := Relay.callback d request f g relay
    (answer.1.status = request.status ∨ answer.1.status = -1) ∧
      answer.2.stats.notifications =
        relay.stats.notifications + if 2 ≤ request.status then 1 else 0 := by
  simp only [Relay.callback]
  split
  case isTrue => exact ⟨.inl rfl, rfl⟩
  case isFalse =>
    split
    case h_1 => exact ⟨.inr rfl, rfl⟩
    case h_2 => split <;> exact ⟨.inl rfl, rfl⟩

/-- A relay with the record of its exchanges: no reply asks to stop unless its request does, and
the notifications are counted. -/
structure IsFaithful
    (state : List (Exchange R d.dims.nx d.dims.rows d.layout.solverLength) × Relay d) : Prop where
  replies : ∀ exchange ∈ state.1,
    exchange.reply.status = exchange.request.status ∨ exchange.reply.status = -1
  notifications : state.2.stats.notifications =
    state.1.countP fun exchange => decide (2 ≤ exchange.request.status)

theorem callback_preserves_isFaithful : (Relay.callback d).recorded.Preserves IsFaithful := by
  rintro request f g ⟨record, relay⟩ ⟨replies, notifications⟩
  obtain ⟨status, count⟩ := callback_status request f g relay
  constructor
  · intro exchange member
    rcases List.mem_append.1 member with old | new
    · exact replies exchange old
    · rw [List.mem_singleton.1 new]
      exact status
  · change _ = List.countP _ (record ++ [_])
    rw [List.countP_append, ← notifications, List.countP_singleton]
    simpa [Callback.recorded] using count

end Relay

/-! ## Solves with a relay -/

namespace AugmentedLagrangian

theorem Finish.code_mem {finish : Finish} (unstopped : finish.code ≠ 71) :
    finish.code ∈ [1, 3, 13, 21, 31, 32, 41, 62, 63] := by
  cases finish with
  | userStop => exact (unstopped rfl).elim
  | _ => decide

omit [Precision R] in
/-- Evaluations have the status zero, but for the first one. -/
theorem IsOrderly.status_cases {n nf neg : Nat} {x : Vector R n}
    {record : List (Exchange R n nf neg)} (orderly : IsOrderly x record) {exchange}
    (member : exchange ∈ record) : exchange.request.status = 0 ∨ exchange.request.status = 1 := by
  obtain ⟨first, later, rfl, asks, known⟩ := orderly.opening
  rcases List.mem_cons.1 member with rfl | isLater
  · rw [asks]
    exact .inr rfl
  · exact .inl (known exchange isLater).1

/-- A solve with a relay ends with an exit that is not a stop, and it is notified once. -/
theorem runCall_relay {call : EngineCall R d.dims.nx d.dims.rows d.layout.solverLength}
    {program : Program R d.dims.nx d.dims.rows d.layout.solverLength}
    (accepted : call.accept = .ok program) (settings : Settings R) (memory : d.Memory) :
    let outcome := runCall settings call (Relay.callback d) (Relay.fresh memory)
    outcome.report.inform ∈ [1, 3, 13, 21, 31, 32, 41, 62, 63] ∧
      outcome.callbackState.stats.notifications = 1 := by
  intro outcome
  let recorded := runCall settings call (Relay.callback d).recorded ([], Relay.fresh memory)
  have sameReport : outcome.report = recorded.report :=
    (runCall_recorded settings call (Relay.callback d) (Relay.fresh memory)).1
  have sameRelay : outcome.callbackState = recorded.callbackState.2 :=
    (callbackState_recorded settings call (Relay.callback d) (Relay.fresh memory)).symm
  have faithful : Relay.IsFaithful recorded.callbackState :=
    runCall_preserves Relay.callback_preserves_isFaithful settings call ⟨nofun, rfl⟩
  have follows : FollowsProtocol (project program program.start) recorded.report.inform
      recorded.state.x recorded.callbackState.1 := by
    simp only [recorded, runCall_of_accept accepted]
    exact program.solve_protocol settings _ (Relay.callback d) (Relay.fresh memory)
  rw [sameReport, sameRelay]
  rcases follows with ⟨_, orderly, earlier, last, record, stops, _⟩ |
    ⟨unstopped, evaluations, last, _, record, orderly, _, asks, _⟩
  · have member : last ∈ recorded.callbackState.1 := by simp [record]
    have stopped : last.reply.status ≤ -2 := stops
    rcases faithful.replies last member with same | same <;>
      rcases orderly.status_cases member with status | status <;> omega
  · have evaluated : (evaluations.countP fun exchange => decide (2 ≤ exchange.request.status)) =
        0 := by
      rw [List.countP_eq_zero]
      intro exchange member
      rcases orderly.status_cases member with status | status <;> simp [status]
    have solved : ∃ finish : Finish, recorded.report.inform = finish.code := by
      simp only [recorded, runCall_of_accept accepted]
      exact ⟨_, rfl⟩
    obtain ⟨finish, code⟩ := solved
    rw [code] at unstopped ⊢
    refine ⟨Finish.code_mem unstopped, ?_⟩
    rw [faithful.notifications, record, List.countP_append, evaluated, List.countP_singleton, asks]
    rfl

end AugmentedLagrangian

/-! ## Sessions -/

namespace Session

section Outcome

variable [LawfulInfinity R] {session : Session R (AugmentedLagrangian R)} {job : Job R}

/-- What the solver makes of a job: it is refused, or solved with one notification. -/
theorem outcome_cases (begins : session.CanBegin d job) (memory : d.Memory) :
    let outcome := session.outcome d job (Relay.callback d) (Relay.fresh memory)
    let call := job.call d session.settings.problemName (session.lentWorkspace d)
    (d.dims.nx = 0 ∧ outcome.report.inform = 91 ∧ outcome.callbackState = Relay.fresh memory) ∨
      (d.dims.nx ≠ 0 ∧ call.HasBadBasis ∧ outcome.report.inform = 92 ∧
        outcome.callbackState = Relay.fresh memory) ∨
      (d.dims.nx ≠ 0 ∧ ¬call.HasBadBasis ∧
        outcome.report.inform ∈ [1, 3, 13, 21, 31, 32, 41, 62, 63] ∧
          outcome.callbackState.stats.notifications = 1) := by
  intro outcome call
  by_cases empty : d.dims.nx = 0
  · have refused : call.accept = .error .invalidInput :=
      EngineCall.accept_of_not_isWellFormed fun wellFormed => wellFormed.nonempty empty
    rw [show outcome = _ from runCall_of_refuse refused _ _ _]
    exact .inl ⟨empty, rfl, rfl⟩
  · have wellFormed : call.IsWellFormed :=
      isWellFormed_call begins.fitsWord_rows begins.bounds begins.start empty _ _
    by_cases bad : call.HasBadBasis
    · have refused := EngineCall.accept_of_hasBadBasis wellFormed bad
      rw [show outcome = _ from runCall_of_refuse refused _ _ _]
      exact .inr (.inl ⟨empty, bad, rfl, rfl⟩)
    · obtain ⟨program, accepted⟩ := begins.exists_accept empty bad
      exact .inr (.inr ⟨empty, bad, runCall_relay accepted _ memory⟩)

end Outcome

/-- A solve that can begin is refused as invalid input exactly if there are no variables, and for a
bad basis exactly if there are some and a warm start brings a number of superbasic variables that
does not fit; the problem is not evaluated then. Every other solve is notified once and ends with
one of nine exits. -/
theorem solveWith_exits {d : Differentiator Double σ}
    {session : Session Double (AugmentedLagrangian Double)} {job : Job Double}
    (begins : session.CanBegin d job) (memory : d.Memory) :
    ∃ result, (session.solveWith d job memory).1 = .ok result ∧
      let inform := result.report.inform
      let superbasics := job.start.state.superbasics
      (inform = 91 ↔ d.dims.nx = 0) ∧
        (inform = 92 ↔ 1 ≤ d.dims.nx ∧ job.start.mode = .warm ∧
          ¬(0 ≤ superbasics ∧ superbasics ≤ d.dims.nx)) ∧
        (inform = 91 ∨ inform = 92 →
          result.stats = {} ∧ (session.solveWith d job memory).2.2 = memory) ∧
        (inform ≠ 91 → inform ≠ 92 →
          inform ∈ [1, 3, 13, 21, 31, 32, 41, 62, 63] ∧ result.stats.notifications = 1) ∧
        inform ∉ [71, 81, 82, 83, 84] ∧
        result.exit.category ≠ .unknown := by
  have known := outcome_cases begins memory
  rw [solveWith_eq begins]
  refine ⟨_, rfl, ?_⟩
  intro inform superbasics
  have untouched : ∀ relay : Relay d, relay = Relay.fresh memory →
      relay.stats = {} ∧ relay.memory = memory := by
    rintro relay rfl
    exact ⟨rfl, rfl⟩
  have proper : ∀ code ∈ [91, 92, 1, 3, 13, 21, 31, 32, 41, 62, 63],
      code ∉ [71, 81, 82, 83, 84] ∧ (Exit.ofCode code).category ≠ .unknown := by decide
  rcases known with ⟨empty, code, same⟩ | ⟨some, bad, code, same⟩ | ⟨some, good, code, notified⟩
  · have isCode : inform = 91 := code
    have other : inform ≠ 92 := by omega
    refine ⟨iff_of_true isCode empty, iff_of_false other ?_, fun _ => untouched _ same,
      fun valid => (valid isCode).elim, proper inform (by simp [isCode])⟩
    rintro ⟨least, _⟩
    omega
  · have isCode : inform = 92 := code
    have other : inform ≠ 91 := by omega
    exact ⟨iff_of_false other some, iff_of_true isCode ⟨Nat.pos_of_ne_zero some, bad⟩,
      fun _ => untouched _ same, fun _ valid => (valid isCode).elim,
      proper inform (by simp [isCode])⟩
  · have apart : ∀ code ∈ ([1, 3, 13, 21, 31, 32, 41, 62, 63] : List Int),
        code ≠ 91 ∧ code ≠ 92 := by decide
    obtain ⟨valid, basis⟩ := apart inform code
    exact ⟨iff_of_false valid some, iff_of_false basis fun bad => good bad.2,
      fun refused => (refused.elim valid basis).elim, fun _ _ => ⟨code, notified⟩,
      proper inform (List.mem_cons_of_mem _ (List.mem_cons_of_mem _ code))⟩

/-- The square and the product from a cold start, without bounds. -/
theorem solveWith_exits_squareAndProduct :
    let d := Differentiator.onSparse squareAndProduct squareAndProductEntries .supplied
    let job : Job Double := ⟨.cold #[2.0, 3.0, 4.0] 3, .free ⟨3, 2⟩, 0⟩
    usual.CanBegin d job ∧ ∃ result, (usual.solveWith d job (.fresh ())).1 = .ok result ∧
      result.report.inform ∈ [1, 3, 13, 21, 31, 32, 41, 62, 63] ∧
      result.stats.notifications = 1 := by
  intro d job
  have begins : usual.CanBegin d job :=
    usual_canBegin (by decide +kernel) (by decide +kernel) (by decide +kernel)
  obtain ⟨result, solved, valid, basis, _, ends, _⟩ := solveWith_exits begins (.fresh ())
  have some : result.report.inform ≠ 91 := mt valid.1 (by decide)
  have cold : result.report.inform ≠ 92 := mt basis.1 (by decide)
  exact ⟨begins, result, solved, ends some cold⟩

end Session

end NonlinearProgram
