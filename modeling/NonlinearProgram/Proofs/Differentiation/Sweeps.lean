import NonlinearProgram.Differentiation.Sweep
import NonlinearProgram.Proofs.Differentiation.Sampling

/-!
# What sweeps leave

A sweep that succeeds has taken one sample, at the point with unit tangents on the seeded variables
and on no others, and all of it is finite: `IsSweep`. After a loop over groups of variables every
column holds the tangents of its own group's sweep, whatever was seeded before, and the function
rows are the values of one of the sweeps.
-/

namespace NonlinearProgram

variable {R σ : Type} [Arith R] {nx ng groups : Nat}

open Sampling

/-- Function rows with tangents, all finite, that a sweep gives when some variables are seeded. -/
structure IsSweep (problem : Problem R σ) (x : Vector R nx) (columns : List (Fin nx))
    (rows : Vector (Dual R) (ng + 1)) : Prop where
  sample : IsSample (problem.dual (seeded x columns)) rows
  finite_re : ∀ row, Arith.isFinite (rows.get row).re
  finite_tangent : ∀ row, Arith.isFinite (rows.get row).tangent

namespace Sampling

variable {problem : Problem R σ} {x : Vector R nx}

theorem get_seeded (x : Vector R nx) (columns : List (Fin nx)) (column : Fin nx) :
    (seeded x columns).get column = ⟨x.get column, if column ∈ columns then 1 else 0⟩ := by
  simp [seeded]

/-- A sweep that succeeds leaves its sample, and all other buffers as they were. -/
theorem sweep_ok {columns : List (Fin nx)} {before after : Scratch R σ nx ng groups} {value : Unit}
    (run : (sweep problem x columns).run before = (.ok value, after)) :
    IsSweep problem x columns after.dualRows ∧ after.jacobian = before.jacobian := by
  rw [sweep, sampleDual] at run
  obtain ⟨rows, state, isSample, finite, rfl⟩ := sample_finite run
  have parts (row : Fin (ng + 1)) : Arith.isFinite (rows.get row).re = true ∧
      Arith.isFinite (rows.get row).tangent = true := by
    simpa [Dual.isFinite] using finite row
  exact ⟨⟨isSample, fun row => (parts row).1, fun row => (parts row).2⟩, rfl⟩

/-- One pass of the loop over groups, after which the column of its group holds the tangents. -/
theorem sweepPass_ok {columns : List (Fin nx)} {group : Fin groups}
    {before after : Scratch R σ nx ng groups} {value : PUnit}
    (run : (sweep problem x columns >>= fun _ => modify fun scratch =>
      { scratch with
        jacobian := scratch.jacobian.set group (scratch.dualRows.map Dual.tangent)
          group.isLt }).run before = (.ok value, after)) :
    IsSweep problem x columns after.dualRows ∧
      after.jacobian = before.jacobian.set group (after.dualRows.map Dual.tangent) group.isLt := by
  obtain ⟨_, sampled, swept, rfl⟩ := run_bind_modify_eq_ok.1 run
  obtain ⟨isSweep, jacobian⟩ := sweep_ok swept
  exact ⟨isSweep, by rw [jacobian]⟩

/-- Every column holds the tangents of its group, and the rows are the values of a sweep. -/
theorem sweepGroups_ok {columns : Fin groups → List (Fin nx)} (some : groups ≠ 0)
    {before after : Scratch R σ nx ng groups} {value : PUnit}
    (run : (sweepGroups problem x columns).run before = (.ok value, after)) :
    (∀ group, ∃ rows, IsSweep problem x (columns group) rows ∧
        after.jacobian.get group = rows.map Dual.tangent) ∧
      ∃ group rows, IsSweep problem x (columns group) rows ∧ after.rows = rows.map Dual.re := by
  rw [sweepGroups] at run
  obtain ⟨_, swept, loop, rfl⟩ := run_bind_modify_eq_ok.1 run
  have tangents : ∀ group, ∃ rows, IsSweep problem x (columns group) rows ∧
      swept.jacobian.get group = rows.map Dual.tangent := by
    refine forM_finRange_ok (fun group scratch => ∃ rows,
      IsSweep problem x (columns group) rows ∧
        scratch.jacobian.get group = rows.map Dual.tangent) ?_ ?_ loop
    · intro group before after pass
      obtain ⟨isSweep, jacobian⟩ := sweepPass_ok pass
      exact ⟨after.dualRows, isSweep, by rw [jacobian, get_set, if_pos rfl]⟩
    · intro group other before after different earlier pass
      obtain ⟨_, jacobian⟩ := sweepPass_ok pass
      rw [jacobian, get_set, if_neg different]
      exact earlier
  have last : ∃ group, IsSweep problem x (columns group) swept.dualRows := by
    -- Each pass overwrites the sample of the one before it, and there is at least one.
    refine forM_finRange_ok (fun _ scratch => ∃ group,
      IsSweep problem x (columns group) scratch.dualRows) ?_ ?_ loop ⟨0, Nat.pos_of_ne_zero some⟩
    · intro group before after pass
      exact ⟨group, (sweepPass_ok pass).1⟩
    · intro group other before after _ _ pass
      exact ⟨group, (sweepPass_ok pass).1⟩
  obtain ⟨group, isSweep⟩ := last
  exact ⟨tangents, group, swept.dualRows, isSweep, rfl⟩

/-- What sweeps over groups leave, or a sample where there is no group to sweep over. -/
structure Swept (problem : Problem R σ) (x : Vector R nx) (columns : Fin groups → List (Fin nx))
    (scratch : Scratch R σ nx ng groups) : Prop where
  tangents : ∀ group, ∃ rows, IsSweep problem x (columns group) rows ∧
    scratch.jacobian.get group = rows.map Dual.tangent
  values : groups ≠ 0 → ∃ group rows, IsSweep problem x (columns group) rows ∧
    scratch.rows = rows.map Dual.re
  finite : ∀ row, Arith.isFinite (scratch.rows.get row)

theorem sweeps_ok {columns : Fin groups → List (Fin nx)}
    {before after : Scratch R σ nx ng groups} {value : PUnit}
    (run : (if groups = 0 then sampleRows problem x else sweepGroups problem x columns).run before =
      (.ok value, after)) : Swept problem x columns after := by
  split at run
  case isTrue none =>
    rw [sampleRows] at run
    obtain ⟨rows, _, _, finite, rfl⟩ := sample_finite run
    exact ⟨fun group => absurd group.isLt (by omega), absurd none, finite⟩
  case isFalse some =>
    obtain ⟨tangents, group, rows, isSweep, values⟩ := sweepGroups_ok some run
    refine ⟨tangents, fun _ => ⟨group, rows, isSweep, values⟩, fun row => ?_⟩
    rw [values]
    simpa using isSweep.finite_re row

end Sampling

end NonlinearProgram
