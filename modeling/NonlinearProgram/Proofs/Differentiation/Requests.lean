import NonlinearProgram.Pattern.Detection
import NonlinearProgram.Proofs.Differentiation.Sampling

/-!
# Evaluations of a difference Jacobian

Which evaluations a difference Jacobian asks for depends on its point and scheme only: one at the
point itself, and for each variable those a step away from it. Whether it can be formed is decided
by these evaluations; the arithmetic in between never fails. So a sampling computation is compared
with the list of its requests, `Sampling.Tracks`.
-/

namespace NonlinearProgram

variable {R σ : Type} {nx ng groups : Nat}

/-- An evaluation of the function rows that differences ask for. -/
inductive SampleRequest (R : Type) (nx : Nat) where
  /-- At the current point. -/
  | rows (x : Vector R nx)
  /-- After a step forward. -/
  | plus (x : Vector R nx)
  /-- After a step backward. -/
  | minus (x : Vector R nx)
  /-- After an imaginary step. -/
  | complex (x : Vector (Complex R) nx)

/-! ## Requests -/

section Requests

variable [Arith R]

/-- Serves a request. -/
def SampleRequest.take (problem : Problem R σ) :
    SampleRequest R nx → Sampling R σ nx ng groups Unit
  | rows x => Sampling.sampleRows problem x
  | plus x => Sampling.samplePlus problem x
  | minus x => Sampling.sampleMinus problem x
  | complex x => Sampling.sampleComplex problem x

variable [Precision R]

/-- Requests of a difference that moves some variables together. -/
def Scheme.differenceRequests (scheme : Scheme) (x : Vector R nx) (columns : List (Fin nx)) :
    List (SampleRequest R nx) :=
  match scheme with
  | forward => [.plus (alter columns x fun _ value => value + Scheme.forward.step value)]
  | central =>
      [.plus (alter columns x fun _ value => value + Scheme.central.step value),
        .minus (alter columns x fun _ value => value - Scheme.central.step value)]
  | .complexStep =>
      [.complex (alter columns (x.map Complex.ofReal) fun _ value =>
        ⟨value.re, NonlinearProgram.complexStep⟩)]

/-- Requests of a difference Jacobian: at the point, and a step away for each variable. -/
def Scheme.jacobianRequests (scheme : Scheme) (x : Vector R nx) : List (SampleRequest R nx) :=
  .rows x :: (List.finRange nx).flatMap fun column => scheme.differenceRequests x [column]

end Requests

/-! ## Computations that track requests -/

/-- Buffers with the same samples; what is computed from samples may differ. -/
structure Scratch.AgreesOnSamples (scratch other : Scratch R σ nx ng groups) : Prop where
  state : scratch.state = other.state
  rows : scratch.rows = other.rows
  plus : scratch.plus = other.plus
  minus : scratch.minus = other.minus
  complexRows : scratch.complexRows = other.complexRows

theorem Scratch.AgreesOnSamples.trans {scratch other another : Scratch R σ nx ng groups}
    (first : scratch.AgreesOnSamples other) (second : other.AgreesOnSamples another) :
    scratch.AgreesOnSamples another where
  state := first.state.trans second.state
  rows := first.rows.trans second.rows
  plus := first.plus.trans second.plus
  minus := first.minus.trans second.minus
  complexRows := first.complexRows.trans second.complexRows

namespace Sampling

variable {α β γ δ : Type}

/-- Two computations that succeed alike on buffers with the same samples, and leave the same samples
there. -/
def Tracks (first : Sampling R σ nx ng groups α) (second : Sampling R σ nx ng groups β) : Prop :=
  ∀ before before' : Scratch R σ nx ng groups, before.AgreesOnSamples before' →
    (first.run before).1.isOk = (second.run before').1.isOk ∧
      (first.run before).2.AgreesOnSamples (second.run before').2

/-- A change that leaves the samples as they are. -/
def KeepsSamples (change : Scratch R σ nx ng groups → Scratch R σ nx ng groups) : Prop :=
  ∀ scratch, (change scratch).AgreesOnSamples scratch

namespace Tracks

variable {first : Sampling R σ nx ng groups α} {second : Sampling R σ nx ng groups β}

theorem bind {next : α → Sampling R σ nx ng groups γ} {next' : β → Sampling R σ nx ng groups δ}
    (tracks : first.Tracks second)
    (nextTracks : ∀ value value', (next value).Tracks (next' value')) :
    (first >>= next).Tracks (second >>= next') := by
  intro before before' agree
  obtain ⟨alike, left⟩ := tracks before before' agree
  rw [run_bind, run_bind]
  rcases ran : first.run before with ⟨failure | value, after⟩
  · rcases ran' : second.run before' with ⟨failure' | value', after'⟩
    · rw [ran, ran'] at left
      exact ⟨rfl, left⟩
    · rw [ran, ran'] at alike
      cases alike
  · rcases ran' : second.run before' with ⟨failure' | value', after'⟩
    · rw [ran, ran'] at alike
      cases alike
    · rw [ran, ran'] at left
      exact nextTracks value value' after after' left

theorem get_bind {next : Scratch R σ nx ng groups → Sampling R σ nx ng groups α}
    (tracks : ∀ given, (next given).Tracks second) :
    ((get : Sampling R σ nx ng groups _) >>= next).Tracks second :=
  fun before before' agree => tracks before before before' agree

theorem modify_bind {change : Scratch R σ nx ng groups → Scratch R σ nx ng groups}
    (keeps : KeepsSamples change) (tracks : first.Tracks second) :
    ((modify change : Sampling R σ nx ng groups PUnit) >>= fun _ => first).Tracks second :=
  fun before before' agree => tracks (change before) before' ((keeps before).trans agree)

theorem bind_modify {change : Scratch R σ nx ng groups → Scratch R σ nx ng groups}
    (keeps : KeepsSamples change) (tracks : first.Tracks second) :
    (first >>= fun _ => (modify change : Sampling R σ nx ng groups PUnit)).Tracks second := by
  intro before before' agree
  obtain ⟨alike, left⟩ := tracks before before' agree
  rw [run_bind]
  rcases ran : first.run before with ⟨failure | value, after⟩
  · rw [ran] at alike left
    exact ⟨alike, left⟩
  · rw [ran] at alike left
    exact ⟨alike, (keeps after).trans left⟩

end Tracks

/-- A sample reads and writes samples only. -/
theorem sample_tracks {T : Type} {isFinite : T → Bool}
    {evaluate : Vector T ng → StateM σ (Evaluation T ng)}
    {buffer : Scratch R σ nx ng groups → Vector T (ng + 1)}
    {store : Scratch R σ nx ng groups → Vector T (ng + 1) → Scratch R σ nx ng groups}
    (reads : ∀ {scratch other}, scratch.AgreesOnSamples other → buffer scratch = buffer other)
    (stores : ∀ {scratch other} rows (state : σ), scratch.AgreesOnSamples other →
      { store scratch rows with state }.AgreesOnSamples { store other rows with state }) :
    (sample isFinite evaluate buffer store).Tracks (sample isFinite evaluate buffer store) := by
  intro before before' agree
  rw [run_sample, run_sample, reads agree, agree.state]
  exact ⟨rfl, stores _ _ agree⟩

variable [Arith R] {problem : Problem R σ}

theorem take_tracks (request : SampleRequest R nx) :
    (request.take problem : Sampling R σ nx ng groups Unit).Tracks (request.take problem) := by
  cases request with
  | rows x =>
      exact sample_tracks (·.rows) fun _ _ agree => { agree with state := rfl, rows := rfl }
  | plus x =>
      exact sample_tracks (·.plus) fun _ _ agree => { agree with state := rfl, plus := rfl }
  | minus x =>
      exact sample_tracks (·.minus) fun _ _ agree => { agree with state := rfl, minus := rfl }
  | complex x =>
      exact sample_tracks (·.complexRows) fun _ _ agree =>
        { agree with state := rfl, complexRows := rfl }

/-- A loop tracks the requests of its passes. -/
theorem forM_tracks {ι : Type} {items : List ι} {body : ι → Sampling R σ nx ng groups PUnit}
    {requests : ι → List (SampleRequest R nx)}
    (pass : ∀ item, (body item).Tracks ((requests item).forM (·.take problem))) :
    (items.forM body).Tracks ((items.flatMap requests).forM (·.take problem)) := by
  induction items with
  | nil => exact fun before before' agree => ⟨rfl, agree⟩
  | cons item rest ih =>
      rw [List.flatMap_cons, List.forM_eq_forM, List.forM_eq_forM, List.forM_cons, List.forM_append]
      exact (pass item).bind fun _ _ => ih

omit [Arith R] in
theorem keepsSamples_setDivisors (columns : List (Fin nx)) (divisor : Fin nx → R) :
    KeepsSamples fun scratch : Scratch R σ nx ng groups =>
      { scratch with divisors := alter columns scratch.divisors fun column _ => divisor column } :=
  fun _ => ⟨rfl, rfl, rfl, rfl, rfl⟩

variable [Precision R]

/-- A difference tracks its requests. -/
theorem jointDifference_tracks (x : Vector R nx) (columns : List (Fin nx)) (scheme : Scheme)
    (base : Vector R (ng + 1)) :
    (jointDifference problem x columns scheme base : Sampling R σ nx ng groups Unit).Tracks
      ((scheme.differenceRequests x columns).forM (·.take problem)) := by
  have keeps : ∀ raw : Scratch R σ nx ng groups → Vector R (ng + 1),
      KeepsSamples fun scratch : Scratch R σ nx ng groups => { scratch with raw := raw scratch } :=
    fun _ _ => ⟨rfl, rfl, rfl, rfl, rfl⟩
  cases scheme <;>
    simp only [Scheme.differenceRequests, List.forM_eq_forM, List.forM_cons, List.forM_nil,
      bind_pure_unit]
  case forward =>
    refine .modify_bind (keepsSamples_setDivisors _ _) (.bind_modify (keeps _) ?_)
    exact take_tracks (.plus _)
  case central =>
    -- Both samples are taken before anything else is written.
    rw [jointDifference]
    simp only [← bind_assoc]
    refine .bind_modify (keeps _) (.bind_modify (keepsSamples_setDivisors _ _) ?_)
    exact (take_tracks (.plus _)).bind fun _ _ => take_tracks (.minus _)
  case complexStep =>
    refine .modify_bind (keepsSamples_setDivisors _ _) (.bind_modify (keeps _) ?_)
    exact take_tracks (.complex _)

/-- A difference Jacobian tracks its requests. -/
theorem differenceJacobian_tracks (scheme : Scheme) (x : Vector R nx) :
    (differenceJacobian problem scheme x : Sampling R σ nx ng nx Unit).Tracks
      ((scheme.jacobianRequests x).forM (·.take problem)) := by
  rw [Scheme.jacobianRequests, List.forM_eq_forM, List.forM_cons]
  refine (take_tracks (.rows x)).bind fun _ _ => .get_bind fun given => ?_
  refine forM_tracks fun column => ?_
  refine .bind_modify ?_ (jointDifference_tracks x [column] scheme _)
  exact fun _ => ⟨rfl, rfl, rfl, rfl, rfl⟩

/-- A detection tracks the requests at its points. -/
theorem addMagnitudes_tracks (scheme : Scheme) (total : Vector (Vector R ng) nx)
    (points : List (Vector R nx)) :
    (addMagnitudes problem scheme total points : Sampling R σ nx ng nx _).Tracks
      ((points.flatMap scheme.jacobianRequests).forM (·.take problem)) := by
  induction points generalizing total with
  | nil => exact fun before before' agree => ⟨rfl, agree⟩
  | cons point rest ih =>
      rw [addMagnitudes, List.flatMap_cons, List.forM_eq_forM, List.forM_append]
      exact (differenceJacobian_tracks scheme point).bind fun _ _ => .get_bind fun given => ih _

end Sampling

/-! ## Success -/

variable [Arith R]

/-- The requests are served without failure, one after the other, from a state of the problem. -/
def Problem.Evaluates (problem : Problem R σ) (ng : Nat) (requests : List (SampleRequest R nx))
    (state : σ) : Prop :=
  ((requests.forM (·.take problem)).run (.fresh state : Scratch R σ nx ng nx)).1.isOk

/-- Magnitudes can be added up over some points exactly if everything a difference Jacobian asks for
can be evaluated at each of them. -/
theorem Sampling.exists_addMagnitudes_eq_ok [Precision R] {problem : Problem R σ} {scheme : Scheme}
    {total : Vector (Vector R ng) nx} {points : List (Vector R nx)} {state : σ} :
    (∃ magnitudes after, (addMagnitudes problem scheme total points).run (.fresh state) =
        (.ok magnitudes, after)) ↔
      problem.Evaluates ng (points.flatMap scheme.jacobianRequests) state := by
  have same : (Scratch.fresh state : Scratch R σ nx ng nx).AgreesOnSamples (.fresh state) :=
    ⟨rfl, rfl, rfl, rfl, rfl⟩
  let requests := points.flatMap scheme.jacobianRequests
  have alike : ((addMagnitudes problem scheme total points).run (.fresh state)).1.isOk =
      ((requests.forM (·.take problem)).run (.fresh state)).1.isOk :=
    (addMagnitudes_tracks scheme total points _ _ same).1
  rw [Problem.Evaluates, ← alike]
  rcases (addMagnitudes problem scheme total points).run (.fresh state) with
    ⟨failure | magnitudes, after⟩
  · refine iff_of_false ?_ Bool.false_ne_true
    rintro ⟨_, _, ⟨⟩⟩
  · exact iff_of_true ⟨magnitudes, after, rfl⟩ rfl

end NonlinearProgram
