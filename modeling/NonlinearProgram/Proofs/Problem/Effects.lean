import NonlinearProgram.Differentiation.Scratch
import NonlinearProgram.Problem.Formula
import NonlinearProgram.Proofs.Vectors

/-!
# What an evaluation does

An evaluation of a problem gets a buffer and a state and may leave anything in them. A problem is
determined by its arguments if at each point it has one `Effect`: the same outcome and the same
writes to the constraint values, whatever the buffer and the state. When it fails it may have
written some of the constraint values only; when it succeeds it has written all.

Problems of formulas are determined if no constraint lacks a formula.
-/

namespace NonlinearProgram

variable {R σ T : Type} {nx ng nj : Nat}

section Writes

variable {size : Nat}

/-- The values of a buffer with some of them written. -/
def overwrite (writes : Vector (Option T) size) (buffer : Vector T size) : Vector T size :=
  .ofFn fun index => (writes.get index).getD (buffer.get index)

theorem get_overwrite (writes : Vector (Option T) size) (buffer : Vector T size)
    (index : Fin size) :
    (overwrite writes buffer).get index = (writes.get index).getD (buffer.get index) := by
  simp [overwrite]

theorem overwrite_none (buffer : Vector T size) :
    overwrite (.replicate size none) buffer = buffer := by
  apply ext_get
  intro index
  rw [get_overwrite]
  simp

/-- A value that was written before is kept where nothing is written later. -/
theorem overwrite_set (writes : Vector (Option T) size) (buffer : Vector T size)
    (written : Fin size) (value : T) :
    overwrite writes (buffer.set written value written.isLt) =
      overwrite (writes.set written ((writes.get written).or (some value)) written.isLt)
        buffer := by
  apply ext_get
  intro index
  rw [get_overwrite, get_overwrite, get_set, get_set]
  by_cases here : written = index
  · rw [if_pos here, if_pos here, here]
    cases writes.get index <;> rfl
  · rw [if_neg here, if_neg here]

/-- Where everything is written nothing is left of the buffer. -/
theorem overwrite_eq_of_complete {writes : Vector (Option T) size}
    (complete : ∀ index, (writes.get index).isSome) (buffer buffer' : Vector T size) :
    overwrite writes buffer = overwrite writes buffer' := by
  apply ext_get
  intro index
  obtain ⟨value, written⟩ := Option.isSome_iff_exists.1 (complete index)
  rw [get_overwrite, get_overwrite, written]
  rfl

end Writes

/-- Outcome of an evaluation, and what it writes to each constraint value, if anything. -/
structure Effect (T : Type) (ng : Nat) where
  outcome : Except EvaluationFailure T
  writes : Vector (Option T) ng
  complete : outcome.isOk → ∀ row, (writes.get row).isSome

/-- An evaluation has an effect from whatever buffer and state it is called with. -/
def HasEffect (evaluate : Vector T ng → StateM σ (Evaluation T ng)) (effect : Effect T ng) : Prop :=
  ∀ buffer state, (evaluate buffer state).1 = ⟨effect.outcome, overwrite effect.writes buffer⟩

/-- At each point an evaluation with any kind of scalar has one effect, and what is supplied
together with derivatives is decided by the arguments. -/
structure Problem.IsDetermined (problem : Problem R σ) (nx ng nj : Nat) : Prop where
  real : ∀ x : Vector R nx, ∃ effect : Effect R ng, HasEffect (problem.real x) effect
  dual : ∀ x : Vector (Dual R) nx, ∃ effect : Effect (Dual R) ng, HasEffect (problem.dual x) effect
  complex : ∀ x : Vector (Complex R) nx, ∃ effect : Effect (Complex R) ng,
    HasEffect (problem.complex x) effect
  supplied : ∀ (x : Vector R nx) (buffers : Buffers R nx ng nj) (state state' : σ),
    (problem.evaluateWithDerivatives x buffers state).1 =
      (problem.evaluateWithDerivatives x buffers state').1

/-! ## Formulas -/

/-- Values that are written in order from some position on: the outcome and the writes do not depend
on the buffer, and without a failure every place is written for which there is a value. -/
theorem exists_writes_fillFrom (size : Nat) (values : List (Except EvaluationFailure T))
    (position : Nat) :
    ∃ outcome, ∃ writes : Vector (Option T) size,
      (∀ buffer, fillFrom values position buffer = (outcome, overwrite writes buffer)) ∧
        (outcome.isOk → ∀ index : Fin size, position ≤ index → index < position + values.length →
          (writes.get index).isSome) := by
  induction values generalizing position with
  | nil =>
      refine ⟨.ok (), .replicate size none, fun buffer => ?_, fun _ index above below => ?_⟩
      · rw [fillFrom, overwrite_none]
      · simp only [List.length_nil] at below
        omega
  | cons value rest ih =>
      by_cases inside : position < size
      · cases value with
        | error failure =>
            refine ⟨.error failure, .replicate size none, fun buffer => ?_, nofun⟩
            rw [fillFrom, dif_pos inside, overwrite_none]
        | ok value =>
            obtain ⟨outcome, writes, later, complete⟩ := ih (position + 1)
            let here : Fin size := ⟨position, inside⟩
            refine ⟨outcome, writes.set here ((writes.get here).or (some value)) inside,
              fun buffer => ?_, fun isOk index above below => ?_⟩
            · rw [fillFrom, dif_pos inside, ← overwrite_set]
              exact later _
            · rw [get_set writes here]
              split
              case isTrue => cases writes.get here <;> rfl
              case isFalse different =>
                have apart : position ≠ index := fun same => different (Fin.ext same)
                rw [List.length_cons] at below
                exact complete isOk index (by omega) (by omega)
      · refine ⟨.ok (), .replicate size none, fun buffer => ?_, fun _ index above _ => ?_⟩
        · rw [fillFrom, dif_neg inside, overwrite_none]
        · omega

namespace Formulas

/-- An evaluation of formulas has one effect, if no constraint lacks a formula. -/
theorem exists_effect [Scalar R T] (formulas : Formulas R) {x : Vector T nx}
    (enough : ng ≤ (formulas.constraints x ng).length) :
    ∃ effect : Effect T ng,
      HasEffect (fun buffer => (pure (formulas.evaluate x buffer) : StateM σ (Evaluation T ng)))
        effect := by
  obtain ⟨outcome, writes, fills, complete⟩ :=
    exists_writes_fillFrom ng (formulas.constraints x ng) 0
  cases outcome with
  | error failure =>
      refine ⟨⟨.error failure, writes, nofun⟩, fun buffer state => ?_⟩
      change formulas.evaluate x buffer = _
      rw [evaluate, fills]
  | ok _ =>
      refine ⟨⟨formulas.objective x, writes, fun _ row => ?_⟩, fun buffer state => ?_⟩
      · exact complete rfl row (Nat.zero_le _) (by have inside := row.isLt; omega)
      · change formulas.evaluate x buffer = _
        rw [evaluate, fills]

theorem isDetermined [Elementary R] (formulas : Formulas R)
    (enough : ∀ {T : Type} [Scalar R T] (x : Vector T nx),
      ng ≤ (formulas.constraints x ng).length) :
    formulas.toProblem.IsDetermined nx ng nj where
  real x := formulas.exists_effect (enough x)
  dual x := formulas.exists_effect (enough x)
  complex x := formulas.exists_effect (enough x)
  supplied _ _ _ _ := rfl

end Formulas

end NonlinearProgram
