import Mathlib.Data.List.Induction
import NonlinearProgram.Proofs.Differentiation.Build
import NonlinearProgram.Proofs.Problem.Dependence
import NonlinearProgram.Relay

/-!
# The accounts of a relay

A call of a relay is a notification, or its evaluation fails, or it succeeds. `Relay.answers` says
what a call does in each of these events: which parts of the solver's buffers are written, what
the relay keeps, and what it counts. Along any sequence of calls the counts are the numbers of the
events, so that every call is accounted for.
-/

namespace NonlinearProgram

/-- What comes of a call. -/
inductive RelayEvent where
  /-- The call told of the end of a solve. -/
  | notified
  /-- The evaluation failed. -/
  | failed
  /-- The evaluation succeeded. -/
  | evaluated (withDerivatives : Bool)
  deriving DecidableEq

/-- The event is an evaluation that succeeded. -/
def RelayEvent.isEvaluated : RelayEvent → Bool
  | .evaluated _ => true
  | .notified | .failed => false

/-! ## Counts -/

namespace RelayStats

/-- Counts after one more event. -/
def note (stats : RelayStats) : RelayEvent → RelayStats
  | .notified => { stats with notifications := stats.notifications + 1 }
  | .failed => { stats with failures := stats.failures + 1 }
  | .evaluated withDerivatives =>
      { stats with
        evaluations := stats.evaluations + 1
        derivativeEvaluations := stats.derivativeEvaluations + withDerivatives.toNat }

/-- Counts that begin at zero have seen some events. -/
structure Counts (stats : RelayStats) (events : List RelayEvent) : Prop where
  evaluations : stats.evaluations = events.countP RelayEvent.isEvaluated
  derivativeEvaluations : stats.derivativeEvaluations = events.count (.evaluated true)
  failures : stats.failures = events.count .failed
  notifications : stats.notifications = events.count .notified

theorem Counts.note {stats : RelayStats} {events : List RelayEvent} (counts : Counts stats events)
    (event : RelayEvent) : Counts (stats.note event) (events ++ [event]) := by
  constructor
  case evaluations =>
    rw [List.countP_append, ← counts.evaluations]
    cases event <;> rfl
  case derivativeEvaluations =>
    rw [List.count_append, ← counts.derivativeEvaluations]
    rcases event with _ | _ | _ | _ <;> rfl
  case failures =>
    rw [List.count_append, ← counts.failures]
    cases event <;> rfl
  case notifications =>
    rw [List.count_append, ← counts.notifications]
    cases event <;> rfl

theorem counts_foldl_note (events : List RelayEvent) : Counts (events.foldl note {}) events := by
  induction events using List.reverseRecOn with
  | nil => exact ⟨rfl, rfl, rfl, rfl⟩
  | append_singleton earlier event ih =>
      rw [List.foldl_append]
      exact ih.note event

end RelayStats

/-- Every event is of one kind. -/
theorem RelayEvent.count_add_count_add_count (events : List RelayEvent) :
    events.countP isEvaluated + events.count .failed + events.count .notified = events.length := by
  induction events with
  | nil => rfl
  | cons event rest ih =>
      cases event <;> simp [isEvaluated, List.countP_cons] <;> omega

/-! ## Calls -/

namespace Relay

variable {R σ : Type} {d : Differentiator R σ}

/-- A request with the buffers that are lent for the answer. -/
structure Call (d : Differentiator R σ) where
  request : Request R d.dims.nx
  f : Vector R d.dims.rows
  g : Vector R d.layout.solverLength

/-- Derivatives are asked for. -/
def Call.wantsDerivatives (call : Call d) : Bool := 0 < call.request.derivativesWanted

variable [Arith R] [Precision R]

/-- Reply to a call. -/
def reply (relay : Relay d) (call : Call d) : Reply R d.dims.rows d.layout.solverLength :=
  (Relay.callback d call.request call.f call.g relay).1

/-- The relay after a call. -/
def next (relay : Relay d) (call : Call d) : Relay d :=
  (Relay.callback d call.request call.f call.g relay).2

/-- What comes of a call: only one that does not tell of an end is evaluated. -/
def event (relay : Relay d) (call : Call d) : RelayEvent :=
  if 2 ≤ call.request.status then .notified
  else if (d.evaluate call.request.x relay.target call.wantsDerivatives relay.memory).1.isOk then
    .evaluated call.wantsDerivatives
  else .failed

/-- The relay after a sequence of calls. -/
def after (relay : Relay d) (calls : List (Call d)) : Relay d := calls.foldl next relay

/-- What comes of a sequence of calls. -/
def events : Relay d → List (Call d) → List RelayEvent
  | _, [] => []
  | relay, call :: rest => relay.event call :: (relay.next call).events rest

/-- How a relay answers a call: what comes of it, the reply, and the relay afterwards. -/
inductive Answers (relay : Relay d) (call : Call d) :
    RelayEvent → Reply R d.dims.rows d.layout.solverLength → Relay d → Prop where
  /-- Nothing is evaluated, and the buffers are given back. -/
  | notified (ends : 2 ≤ call.request.status) :
      Answers relay call .notified ⟨call.request.status, call.f, call.g⟩
        { relay with stats := relay.stats.note .notified }
  /-- The solver is asked to back off, and the buffers are given back. -/
  | failed (goesOn : call.request.status < 2) {failure : EvaluationFailure} {target : d.Target}
      {memory : d.Memory}
      (evaluated : d.evaluate call.request.x relay.target call.wantsDerivatives relay.memory =
        (.error failure, target, memory)) :
      Answers relay call .failed ⟨-1, call.f, call.g⟩ ⟨memory, target, relay.stats.note .failed⟩
  /-- Values are written, and derivatives if they are asked for. -/
  | evaluated (goesOn : call.request.status < 2) {objective : R} {target : d.Target}
      {memory : d.Memory}
      (evaluated : d.evaluate call.request.x relay.target call.wantsDerivatives relay.memory =
        (.ok objective, target, memory)) :
      Answers relay call (.evaluated call.wantsDerivatives)
        ⟨call.request.status, stackRows objective target.g,
          if call.wantsDerivatives then d.layout.solverDerivatives target.df target.dg
          else call.g⟩
        ⟨memory, target, relay.stats.note (.evaluated call.wantsDerivatives)⟩

theorem answers (relay : Relay d) (call : Call d) :
    Answers relay call (relay.event call) (relay.reply call) (relay.next call) := by
  by_cases ends : 2 ≤ call.request.status
  · have event : relay.event call = .notified := if_pos ends
    have answer : Relay.callback d call.request call.f call.g relay =
        (⟨call.request.status, call.f, call.g⟩,
          { relay with stats := relay.stats.note .notified }) := if_pos ends
    rw [event, reply, next, answer]
    exact .notified ends
  have goesOn : call.request.status < 2 := Int.not_le.1 ends
  have needed : decide (0 < call.request.derivativesWanted) = call.wantsDerivatives := rfl
  rcases evaluated : d.evaluate call.request.x relay.target call.wantsDerivatives relay.memory with
    ⟨failure | objective, target, memory⟩
  · have event : relay.event call = .failed := by
      rw [Relay.event, if_neg ends, evaluated]
      rfl
    have answer : Relay.callback d call.request call.f call.g relay =
        (⟨-1, call.f, call.g⟩, ⟨memory, target, relay.stats.note .failed⟩) := by
      rw [Relay.callback, if_neg ends]
      simp only [needed, evaluated]
      rfl
    rw [event, reply, next, answer]
    exact .failed goesOn evaluated
  · have event : relay.event call = .evaluated call.wantsDerivatives := by
      rw [Relay.event, if_neg ends, evaluated]
      rfl
    have answer : Relay.callback d call.request call.f call.g relay =
        (⟨call.request.status, stackRows objective target.g,
            if call.wantsDerivatives then d.layout.solverDerivatives target.df target.dg
            else call.g⟩,
          ⟨memory, target, relay.stats.note (.evaluated call.wantsDerivatives)⟩) := by
      rw [Relay.callback, if_neg ends]
      simp only [needed, evaluated]
      cases call.wantsDerivatives <;> rfl
    rw [event, reply, next, answer]
    exact .evaluated goesOn evaluated

/-! ## Sequences of calls -/

/-- The relay counts what comes of a call, and it is a notification by what it says alone. -/
theorem next_spec (relay : Relay d) (call : Call d) :
    (relay.next call).stats = relay.stats.note (relay.event call) ∧
      (relay.event call = .notified ↔ 2 ≤ call.request.status) := by
  have answers := relay.answers call
  generalize relay.event call = event, relay.reply call = reply, relay.next call = next at answers
  cases answers with
  | notified ends => exact ⟨rfl, iff_of_true rfl ends⟩
  | failed goesOn => exact ⟨rfl, iff_of_false nofun (Int.not_le.2 goesOn)⟩
  | evaluated goesOn => exact ⟨rfl, iff_of_false nofun (Int.not_le.2 goesOn)⟩

/-- The relay notes the events of its calls one after the other. -/
theorem stats_after (relay : Relay d) (calls : List (Call d)) :
    (relay.after calls).stats = (relay.events calls).foldl RelayStats.note relay.stats := by
  induction calls generalizing relay with
  | nil => rfl
  | cons call rest ih =>
      rw [events, List.foldl_cons, ← (relay.next_spec call).1]
      exact ih (relay.next call)

theorem length_events (relay : Relay d) (calls : List (Call d)) :
    (relay.events calls).length = calls.length := by
  induction calls generalizing relay with
  | nil => rfl
  | cons call rest ih => rw [events, List.length_cons, List.length_cons, ih]

/-- Notifications are known from the calls, whatever the evaluations come to. -/
theorem count_notified_events (relay : Relay d) (calls : List (Call d)) :
    (relay.events calls).count .notified =
      calls.countP fun call => decide (2 ≤ call.request.status) := by
  induction calls generalizing relay with
  | nil => rfl
  | cons call rest ih =>
      rw [events, List.count_cons, List.countP_cons, ih]
      simp [(relay.next_spec call).2]

/-- The lent buffers are written only if the evaluation succeeds, and only those asked for. -/
structure Isolates (relay : Relay d) (call : Call d) : Prop where
  /-- A notification evaluates nothing and gives everything back. -/
  notified : 2 ≤ call.request.status →
    relay.reply call = ⟨call.request.status, call.f, call.g⟩ ∧
      (relay.next call).memory = relay.memory ∧ (relay.next call).target = relay.target
  /-- A failure changes the status alone. -/
  failed : relay.event call = .failed → relay.reply call = ⟨-1, call.f, call.g⟩
  /-- A success leaves the status as it is. -/
  status : (relay.event call).isEvaluated → (relay.reply call).status = call.request.status
  /-- Derivatives are left alone unless they are asked for. -/
  derivatives : (relay.event call).isEvaluated → call.request.derivativesWanted ≤ 0 →
    (relay.reply call).g = call.g

theorem isolates (relay : Relay d) (call : Call d) : Isolates relay call := by
  have answers := relay.answers call
  constructor <;>
    generalize relay.event call = event, relay.reply call = reply, relay.next call = next
      at answers ⊢
  case notified =>
    intro ends
    cases answers with
    | notified => exact ⟨rfl, rfl, rfl⟩
    | failed goesOn | evaluated goesOn => exact absurd goesOn (Int.not_lt.2 ends)
  case failed =>
    rintro rfl
    cases answers
    rfl
  case status =>
    intro evaluated
    cases answers with
    | notified | failed => cases evaluated
    | evaluated => rfl
  case derivatives =>
    intro evaluated unwanted
    have needless : call.wantsDerivatives = false := decide_eq_false (Int.not_lt.2 unwanted)
    cases answers with
    | notified | failed => cases evaluated
    | evaluated =>
        rw [needless]
        rfl

/-- A relay isolates the buffers of its solver and keeps exact accounts, whatever calls came before.
The solver's buffers are written only where an evaluation succeeds and fills them. Every call is
counted as what it came to. -/
theorem isolates_and_accounts (memory : d.Memory) (calls : List (Call d)) :
    let relay := (fresh memory).after calls
    let events := (fresh memory).events calls
    (∀ call, Isolates relay call) ∧
      relay.stats.notifications = calls.countP (fun call => decide (2 ≤ call.request.status)) ∧
      relay.stats.failures = events.count .failed ∧
      relay.stats.evaluations = events.countP RelayEvent.isEvaluated ∧
      relay.stats.derivativeEvaluations = events.count (.evaluated true) ∧
      relay.stats.evaluations + relay.stats.failures + relay.stats.notifications =
        calls.length := by
  intro relay events
  have counts : relay.stats.Counts events := by
    rw [show relay.stats = _ from stats_after (fresh memory) calls]
    exact RelayStats.counts_foldl_note events
  refine ⟨relay.isolates, ?_, counts.failures, counts.evaluations, counts.derivativeEvaluations,
    ?_⟩
  · rw [counts.notifications, ← (fresh memory).count_notified_events calls]
  · rw [counts.evaluations, counts.failures, counts.notifications,
      RelayEvent.count_add_count_add_count, ← (fresh memory).length_events calls]

open Differentiator in
/-- A point where a product overflows, between an evaluation and the end of a solve. -/
example :
    let lend (request : Request Double 3) :
        Call (onDense squareAndProduct 3 2 .centralDifference) :=
      ⟨request, .replicate 3 0, .replicate 9 0⟩
    (fresh (.fresh ())).events
        [lend ⟨1, #v[1.0, 2.0, 3.0], 1, 1⟩, lend ⟨0, #v[1e200, 1e200, 1e200], 1, 0⟩,
          lend ⟨2, #v[1.0, 2.0, 3.0], 1, 1⟩] =
      [.evaluated true, .failed, .notified] := by
  decide +kernel

end Relay

end NonlinearProgram
