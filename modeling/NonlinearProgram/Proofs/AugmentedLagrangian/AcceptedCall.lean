import NonlinearProgram.AugmentedLagrangian.Solver
import NonlinearProgram.Proofs.Vectors

/-!
# Accepted calls

The program of an accepted call says what the call says: its lists are those of the call, bounds of
great magnitude are infinite, and indices count from zero, `EngineCall.describes_of_accept`. A call
that is not accepted is refused with the code of what is wrong with it.
-/

namespace NonlinearProgram

namespace AugmentedLagrangian

variable {n nf neg : Nat}

/-- Row and column of a cell, counted from one. -/
def cellIndices (cell : Fin nf × Fin n) : Int × Int := (cell.1.val + 1, cell.2.val + 1)

/-- A linear term with its row and its column counted from one. -/
def termIndices {R : Type} (term : Fin nf × Fin n × R) : (Int × Int) × R :=
  (cellIndices (term.1, term.2.1), term.2.2)

theorem sized?_eq_some {α : Type} {values : Array α} {vector : Vector α n}
    (sized : sized? n values = some vector) : vector.toArray = values := by
  rw [sized?] at sized
  split at sized
  case isTrue => cases sized; rfl
  case isFalse => cases sized

theorem position?_eq_some {index : Int} {position : Fin n}
    (found : position? n index = some position) : index = position.val + 1 := by
  rw [position?] at found
  split at found
  case isTrue inside =>
    cases found
    change index = ((index - 1).toNat : Int) + 1
    omega
  case isFalse => cases found

theorem cell?_eq_some {indices : Int × Int} {cell : Fin nf × Fin n}
    (found : cell? nf n indices = some cell) : indices = cellIndices cell := by
  simp only [cell?, Option.bind_eq_bind, Option.bind_eq_some_iff, Option.pure_def,
    Option.some.injEq] at found
  rcases found with ⟨row, isRow, column, isColumn, rfl⟩
  exact Prod.ext (position?_eq_some isRow) (position?_eq_some isColumn)

/-- Cells are determined by their rows and their columns. -/
theorem cells_ext {left right : List (Fin nf × Fin n)}
    (rows : left.map (fun cell => (cell.1.val + 1 : Int)) =
      right.map fun cell => (cell.1.val + 1 : Int))
    (columns : left.map (fun cell => (cell.2.val + 1 : Int)) =
      right.map fun cell => (cell.2.val + 1 : Int)) : left = right := by
  induction left generalizing right with
  | nil => exact (List.map_eq_nil_iff.1 rows.symm).symm
  | cons cell rest ih =>
      cases right with
      | nil => cases rows
      | cons cell' rest' =>
          simp only [List.map_cons, List.cons.injEq, add_left_inj, Nat.cast_inj] at rows columns
          rw [Prod.ext (Fin.ext rows.1) (Fin.ext columns.1), ih rows.2 columns.2]

/-- A traversal with a partial inverse of `back`. -/
theorem eq_map_of_mapM {α β : Type} {find : α → Option β} (back : β → α)
    (inverse : ∀ value found, find value = some found → value = back found) {values : List α}
    {found : List β} (traversed : values.mapM find = some found) : values = found.map back := by
  induction values generalizing found with
  | nil =>
      cases traversed
      rfl
  | cons value rest ih =>
      simp only [List.mapM_cons, Option.bind_eq_bind, Option.bind_eq_some_iff, Option.pure_def,
        Option.some.injEq] at traversed
      rcases traversed with ⟨head, isHead, tail, isTail, rfl⟩
      rw [List.map_cons, ← inverse value head isHead, ← ih isTail]

theorem mapM_toList {α β : Type} {find : α → Option β} {values : Vector α n} {found : Vector β n}
    (traversed : values.mapM find = some found) :
    values.toList.mapM find = some found.toList := by
  have converted : Vector.toArray <$> values.mapM find = some found.toArray := by
    rw [traversed]
    rfl
  rw [Vector.toArray_mapM, Array.mapM_eq_mapM_toList, Option.map_eq_map,
    Option.map_eq_some_iff] at converted
  rcases converted with ⟨list, isList, same⟩
  rw [← Vector.toList_toArray, isList, ← Vector.toList_toArray, ← same]

variable {R : Type} [Arith R]

theorem bounds?_eq_some {lower upper : Array R} {low high : Vector R n}
    (paired : bounds? n lower upper = some (low, high)) :
    low.toArray = lower.map restoreBound ∧ high.toArray = upper.map restoreBound := by
  simp only [bounds?, Option.bind_eq_bind, Option.bind_eq_some_iff] at paired
  rcases paired with ⟨lower', isLower, upper', isUpper, paired⟩
  split at paired
  case isTrue => cases paired
  case isFalse =>
    cases paired
    rw [← sized?_eq_some isLower, ← sized?_eq_some isUpper]
    exact ⟨Vector.toArray_map .., Vector.toArray_map ..⟩

end AugmentedLagrangian

namespace EngineCall

open AugmentedLagrangian

variable {R : Type} [Arith R] {n nf neg : Nat}

/-- The program has the data of the call. -/
structure Describes (call : EngineCall R n nf neg) (program : Program R n nf neg) : Prop where
  objective : call.objectiveRow = program.objective.val + 1
  rows : call.rows.toList = program.entries.toList.map fun cell => (cell.1.val + 1 : Int)
  columns : call.columns.toList = program.entries.toList.map fun cell => (cell.2.val + 1 : Int)
  linearRows : call.linearRows.toList = program.linear.map fun term => (term.1.val + 1 : Int)
  linearColumns :
    call.linearColumns.toList = program.linear.map fun term => (term.2.1.val + 1 : Int)
  linear : call.linear.toList = program.linear.map fun term => term.2.2
  xLower : program.xLower.toArray = call.xLower.map restoreBound
  xUpper : program.xUpper.toArray = call.xUpper.map restoreBound
  fLower : program.fLower.toArray = call.fLower.map restoreBound
  fUpper : program.fUpper.toArray = call.fUpper.map restoreBound
  start : program.start.toArray = call.state.x
  values : program.values.toArray = call.state.f
  multipliers : program.multipliers?.map Vector.toArray =
    if call.mode = .warm then some call.state.fMul else none

theorem linear?_eq_some {call : EngineCall R n nf neg} {linear : List (Fin nf × Fin n × R)}
    (isLinear : call.linear? = some linear) :
    call.linearRows.toList = linear.map (fun term => (term.1.val + 1 : Int)) ∧
      call.linearColumns.toList = linear.map (fun term => (term.2.1.val + 1 : Int)) ∧
      call.linear.toList = linear.map fun term => term.2.2 := by
  simp only [linear?, Option.bind_eq_bind, Option.bind_eq_some_iff] at isLinear
  rcases isLinear with ⟨rows, isRows, columns, isColumns, isLinear⟩
  split at isLinear
  case isTrue => cases isLinear
  case isFalse =>
    have terms := eq_map_of_mapM termIndices
      (fun value term found => by
        simp only [Option.bind_eq_some_iff, Option.pure_def, Option.some.injEq] at found
        rcases found with ⟨cell, isCell, rfl⟩
        rw [termIndices, ← cell?_eq_some isCell])
      isLinear
    have cells : (rows.zip columns).toList = linear.map fun term => (termIndices term).1 := by
      have first := congrArg (List.map Prod.fst) terms
      rwa [List.map_fst_zip (by simp), List.map_map] at first
    have coefficients : call.linear.toList = linear.map fun term => (termIndices term).2 := by
      have second := congrArg (List.map Prod.snd) terms
      rwa [List.map_snd_zip (by simp), List.map_map] at second
    refine ⟨?_, ?_, coefficients⟩
    · have first := congrArg (List.map Prod.fst) cells
      rw [← Vector.toList_map, Vector.map_fst_zip, List.map_map] at first
      rw [← sized?_eq_some isRows]
      exact first
    · have second := congrArg (List.map Prod.snd) cells
      rw [← Vector.toList_map, Vector.map_snd_zip, List.map_map] at second
      rw [← sized?_eq_some isColumns]
      exact second

theorem describes_of_program? {call : EngineCall R n nf neg} {program : Program R n nf neg}
    (accepted : call.program? = some program) : call.Describes program := by
  rw [program?] at accepted
  split at accepted
  case isTrue => cases accepted
  case isFalse =>
    simp only [Option.bind_eq_bind, Option.bind_eq_some_iff] at accepted
    obtain ⟨objective, isObjective, start, isStart, _, _, _, _, xBounds, isXBounds, values,
      isValues, _, _, multipliers, isMultipliers, fBounds, isFBounds, columns, isColumns, linear,
      isLinear, entries, isEntries, accepted⟩ := accepted
    split at accepted
    case isTrue => cases accepted
    case isFalse =>
      split at accepted
      case isTrue => cases accepted
      case isFalse =>
        cases accepted
        have cells := eq_map_of_mapM cellIndices (fun _ _ => cell?_eq_some) (mapM_toList isEntries)
        have rows := congrArg (List.map Prod.fst) cells
        have columnIndices := congrArg (List.map Prod.snd) cells
        rw [← Vector.toList_map, Vector.map_fst_zip, List.map_map] at rows
        rw [← Vector.toList_map, Vector.map_snd_zip, List.map_map] at columnIndices
        have terms := linear?_eq_some isLinear
        exact
          { objective := by exact_mod_cast position?_eq_some isObjective
            rows := rows
            columns := by
              rw [← sized?_eq_some isColumns]
              exact columnIndices
            linearRows := terms.1
            linearColumns := terms.2.1
            linear := terms.2.2
            xLower := (bounds?_eq_some isXBounds).1
            xUpper := (bounds?_eq_some isXBounds).2
            fLower := (bounds?_eq_some isFBounds).1
            fUpper := (bounds?_eq_some isFBounds).2
            start := sized?_eq_some isStart
            values := sized?_eq_some isValues
            multipliers := by
              rw [← sized?_eq_some isMultipliers]
              split <;> rfl }

theorem describes_of_accept {call : EngineCall R n nf neg} {program : Program R n nf neg}
    (accepted : call.accept = .ok program) : call.Describes program := by
  rcases described : call.program? with _ | program'
  · rw [accept, described] at accepted
    cases accepted
  · have same : program' = program := by
      simp only [accept, described] at accepted
      split at accepted
      case isTrue => cases accepted
      case isFalse => split at accepted <;> cases accepted; rfl
    exact describes_of_program? (same ▸ described)

namespace Describes

variable {call : EngineCall R n nf neg} {program : Program R n nf neg}

/-- Where the indices of a call count from one, the positions of its program are those that are
meant. -/
theorem entries_eq (describes : call.Describes program) {cells : List (Fin nf × Fin n)}
    (rows : call.rows.toList = cells.map fun cell => (cell.1.val + 1 : Int))
    (columns : call.columns.toList = cells.map fun cell => (cell.2.val + 1 : Int)) :
    program.entries.toList = cells :=
  cells_ext (describes.rows.symm.trans rows) (describes.columns.symm.trans columns)

theorem linear_eq_nil (describes : call.Describes program) (empty : call.linear = #[]) :
    program.linear = [] := by
  have terms := describes.linear
  rw [empty] at terms
  exact List.map_eq_nil_iff.1 terms.symm

end Describes

end EngineCall

namespace AugmentedLagrangian

variable {R : Type} [Arith R] {τ : Type} {n nf neg : Nat}

theorem Refusal.code_mem (refusal : Refusal) : refusal.code ∈ [81, 82, 83, 84, 91, 92] := by
  cases refusal with
  | invalidInput => decide
  | badBasis => decide
  | belowFloor => decide
  | short region => cases region <;> decide

theorem Finish.code_notMem_refusals (finish : Finish) :
    finish.code ∉ [81, 82, 83, 84, 91, 92] := by
  cases finish <;> decide

theorem Finish.code_injective : Function.Injective Finish.code := by
  intro finish finish'
  cases finish <;> cases finish' <;> decide

theorem runCall_of_accept {call : EngineCall R n nf neg} {program : Program R n nf neg}
    (accepted : call.accept = .ok program) (settings : Settings R)
    (callback : Callback R τ n nf neg) (state : τ) :
    runCall settings call callback state =
      program.solve settings (storageNeeds call.storageRequest) callback state := by
  simp only [runCall, accepted]

theorem runCall_of_refuse {call : EngineCall R n nf neg} {refusal : Refusal}
    (refused : call.accept = .error refusal) (settings : Settings R)
    (callback : Callback R τ n nf neg) (state : τ) :
    runCall settings call callback state =
      refusal.outcome call (storageNeeds call.storageRequest) state := by
  simp only [runCall, refused]

end AugmentedLagrangian

end NonlinearProgram
