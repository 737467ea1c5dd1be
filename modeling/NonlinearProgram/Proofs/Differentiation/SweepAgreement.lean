import NonlinearProgram.Proofs.Differentiation.Agreement
import NonlinearProgram.Proofs.Problem.Tangents

/-!
# Sweeps over colours and over single variables agree

With a sparse layout one sweep seeds all variables of a colour. If each constraint depends on no
dual variable but those of its declared entries, the row of an entry sees of these seeds only that
of its own column, and its tangent is the one that a sweep for this variable alone gives. The
tangents are divided by one on the way, which the numbers of the problem have to bear.

The values of the function rows are those of the last sweep, so they agree as far as the problem
computes its values without looking at tangents. Problems of expressions do, and over doubles their
tangents are left by a division by one.
-/

namespace NonlinearProgram

open Sampling

variable {R σ : Type} {nx ng : Nat}

/-- Each constraint is determined by those variables for which it has an entry, whatever buffer and
state the problem is called with. -/
def ConstraintsRespect {T : Type} (pairs : List (Fin ng × Fin nx))
    (evaluate : Vector T nx → Vector T ng → StateM σ (Evaluation T ng)) : Prop :=
  ∀ {point point' rows rows'} (row : Fin ng),
    (∀ column : Fin nx, (row, column) ∈ pairs → point.get column = point'.get column) →
    IsSample (evaluate point) rows → IsSample (evaluate point') rows' →
      rows.get row.succ = rows'.get row.succ

section Sweeps

variable [Arith R]

/-- The values of all function rows are determined by the values of the variables, whatever their
tangents. -/
def IgnoresTangents (problem : Problem R σ) (nx ng : Nat) : Prop :=
  ∀ {point point' : Vector (Dual R) nx} {rows rows' : Vector (Dual R) (ng + 1)},
    (∀ column, (point.get column).re = (point'.get column).re) →
    IsSample (problem.dual point) rows → IsSample (problem.dual point') rows' →
      ∀ row, (rows.get row).re = (rows'.get row).re

/-- The finite tangents that the constraints have in sweeps at a point are left by a division by
one. -/
def OneKeepsTangents (problem : Problem R σ) (x : Vector R nx) (ng : Nat) : Prop :=
  ∀ {columns} {rows : Vector (Dual R) (ng + 1)} (row : Fin ng),
    IsSweep problem x columns rows →
      (rows.get row.succ).tangent / 1 = (rows.get row.succ).tangent

variable {problem : Problem R σ} {x : Vector R nx} {objective objective' : R}

/-- An objective and constraints are the values of some sweep. -/
def AreSwept (problem : Problem R σ) (x : Vector R nx) (objective : R) (g : Vector R ng) : Prop :=
  ∃ columns rows, IsSweep problem x columns rows ∧ objective = (rows.get objectiveRow).re ∧
    ∀ row : Fin ng, g.get row = (rows.get row.succ).re

theorem areSwept_of_rows {columns : List (Fin nx)} {rows : Vector (Dual R) (ng + 1)}
    {values : Vector R (ng + 1)} (isSweep : IsSweep problem x columns rows)
    (same : values = rows.map Dual.re) : AreSwept problem x (values.get 0) values.tail := by
  refine ⟨columns, rows, isSweep, by simp [same], fun row => ?_⟩
  simp [same, Nat.add_comm 1]

/-- Sweeps give the same values if tangents are ignored. -/
theorem AreSwept.eq {g g' : Vector R ng} (ignores : IgnoresTangents problem nx ng)
    (swept : AreSwept problem x objective g) (swept' : AreSwept problem x objective' g') :
    objective' = objective ∧ g' = g := by
  obtain ⟨columns, rows, isSweep, rfl, values⟩ := swept
  obtain ⟨columns', rows', isSweep', rfl, values'⟩ := swept'
  have same (row : Fin (ng + 1)) : (rows'.get row).re = (rows.get row).re := by
    refine ignores (fun column => ?_) isSweep'.sample isSweep.sample row
    rw [get_seeded, get_seeded]
  refine ⟨same 0, ?_⟩
  ext row inside
  have entry := (values' ⟨row, inside⟩).trans
    ((same (Fin.succ ⟨row, inside⟩)).trans (values ⟨row, inside⟩).symm)
  simpa using entry

/-- A constraint has the same tangent in two sweeps that seed the same of its own variables. -/
theorem IsSweep.constraint_eq {pairs : List (Fin ng × Fin nx)}
    (respect : ConstraintsRespect pairs problem.dual) {row : Fin ng} {left right : List (Fin nx)}
    (same : SameInRow pairs row left right) {rows rows' : Vector (Dual R) (ng + 1)}
    (isSweep : IsSweep problem x left rows) (isSweep' : IsSweep problem x right rows') :
    rows.get row.succ = rows'.get row.succ := by
  refine respect row (fun column declared => ?_) isSweep.sample isSweep'.sample
  rw [get_seeded, get_seeded]
  simp only [same column declared]

variable [Precision R]

/-- A dense evaluation by sweeps delivers in each variable the tangents of its own sweep. -/
theorem evaluateDense_swept {target written : Buffers R nx ng (nx * ng)}
    {before after : Scratch R σ nx ng nx}
    (run : evaluateDense problem none x target before = (.ok objective, written, after)) :
    (∀ column : Fin nx, ∃ rows, IsSweep problem x [column] rows ∧ ∀ row : Fin ng,
        written.dg.get (flatIndex row column) = (rows.get row.succ).tangent) ∧
      (0 < nx → AreSwept problem x objective written.g) := by
  obtain ⟨formed, rfl, values, derivatives⟩ := evaluateDense_eq_ok run
  have swept : Swept problem x (fun column => [column]) after := sweeps_ok formed
  constructor
  · intro column
    obtain ⟨rows, isSweep, tangents⟩ := swept.tangents column
    refine ⟨rows, isSweep, fun row => ?_⟩
    rw [(derivatives column).2 row, tangents]
    simp
  · intro some
    obtain ⟨_, rows, isSweep, same⟩ := swept.values some.ne'
    rw [values]
    exact areSwept_of_rows isSweep same

/-- A sparse evaluation by sweeps delivers for every entry the tangent that its row has in the sweep
of its column's colour, divided by one. -/
theorem evaluateSparse_swept {entries : Entries ng nx} {coloring : Coloring nx}
    (colored : ∀ column : Fin nx, coloring.colors.get column < coloring.count)
    {target written : Buffers R nx ng entries.pairs.length}
    {before after : Scratch R σ nx ng coloring.count}
    (run : evaluateSparse problem none entries coloring x target before =
      (.ok objective, written, after)) :
    (∀ (k : Fin entries.pairs.length) (row : Fin ng) (column : Fin nx),
        entries.pairs.get k = (row, column) → ∃ rows,
          IsSweep problem x (coloring.columns (coloring.colors.get column)) rows ∧
            written.dg.get k = (rows.get row.succ).tangent / 1) ∧
      (0 < coloring.count → AreSwept problem x objective written.g) := by
  obtain ⟨_, formed, rfl, values, _, derivatives⟩ := evaluateSparse_eq_ok run
  obtain ⟨swept, _, rfl⟩ := compressed_sweeps_ok formed
  constructor
  · intro k row column entry
    obtain ⟨rows, isSweep, tangents⟩ := swept.tangents ⟨_, colored column⟩
    refine ⟨rows, isSweep, ?_⟩
    rw [derivatives k row column entry (colored column), tangents]
    simp
  · intro some
    obtain ⟨_, rows', isSweep, same⟩ := swept.values some.ne'
    rw [values]
    exact areSwept_of_rows isSweep same

end Sweeps

/-! ## Expressions -/

namespace Formulas

/-- The values of expressions do not depend on tangents. -/
theorem ignoresTangents_ofExprs [Elementary R] {objective : Expr R} {constraints : List (Expr R)}
    {derivatives : Option (List (Expr R) × List (Expr R))} (enough : ng ≤ constraints.length) :
    IgnoresTangents (ofExprs objective constraints derivatives).toProblem nx ng := by
  intro point point' rows rows' same sample sample' row
  obtain ⟨value, values⟩ := isSample_ofExprs sample
  obtain ⟨value', values'⟩ := isSample_ofExprs sample'
  have related (expr : Expr R) := expr.evaluate_related Dual.isCongruence_re same
  cases row using Fin.cases with
  | zero => exact (related objective).of_eq_ok value value'
  | succ row =>
      have inside : row < constraints.length := Nat.lt_of_lt_of_le row.isLt enough
      exact (related constraints[row]).of_eq_ok (values row inside) (values' row inside)

/-- The tangents of expressions over doubles are left by a division by one. -/
theorem oneKeepsTangents_ofExprs {objective : Expr Double} {constraints : List (Expr Double)}
    {derivatives : Option (List (Expr Double) × List (Expr Double))} {x : Vector Double nx}
    (enough : ng ≤ constraints.length) :
    OneKeepsTangents (ofExprs objective constraints derivatives).toProblem x ng := by
  intro columns rows row isSweep
  have inside : row < constraints.length := Nat.lt_of_lt_of_le row.isLt enough
  have value := (isSample_ofExprs isSweep.sample).2 row inside
  have seeds : ∀ column, (seeded x columns).get column = (seeded x columns).get column ∧
      ((seeded x columns).get column).tangent.IsCanonical := by
    intro column
    rw [get_seeded]
    refine ⟨rfl, ?_⟩
    split
    · exact Double.isCanonical_one
    · exact Double.isCanonical_zero
  have related := constraints[row].evaluate_related Dual.isCongruence_isCanonical seeds
  have canonical := (related.of_eq_ok value value).2
  exact canonical.div_one (isSweep.finite_tangent row.succ)

end Formulas

/-! ## Differentiators -/

namespace Differentiator

variable [Arith R] [Precision R]

/-- With automatic differentiation, derivatives are formed by sweeps. -/
theorem evaluate_of_isAutomatic {differentiator : Differentiator R σ}
    (automatic : differentiator.method.isAutomatic) (x : Vector R differentiator.dims.nx)
    (target : differentiator.Target) (memory : differentiator.Memory) :
    differentiator.evaluate x target true memory =
      evaluateLayout differentiator.problem none x differentiator.layout target memory := by
  have sweeps : differentiator.method ≠ .supplied ∧ differentiator.method.scheme? = none := by
    cases method : differentiator.method <;> simp_all [Method.isAutomatic, Method.scheme?]
  rw [evaluate_of_ne_supplied sweeps.1, sweeps.2]

/-- For a problem whose constraints keep to declared entries on dual numbers, one sweep for each
colour gives every declared derivative that one sweep for each variable gives. Objective and
constraints agree as well if there is a variable and tangents are ignored. -/
theorem sweeps_of_colors_agree {problem : Problem R σ} {entries : Entries ng nx}
    {method : Method} (automatic : method.isAutomatic)
    (respect : ConstraintsRespect entries.pairs problem.dual) {x : Vector R nx}
    (one : OneKeepsTangents problem x ng) {objective objective' : R}
    {target written : (onDense problem nx ng method).Target}
    {target' written' : (onSparse problem entries method).Target}
    {memory after : (onDense problem nx ng method).Memory}
    {memory' after' : (onSparse problem entries method).Memory}
    (dense : (onDense problem nx ng method).evaluate x target true memory =
      (.ok objective, written, after))
    (sparse : (onSparse problem entries method).evaluate x target' true memory' =
      (.ok objective', written', after')) :
    (∀ (k : Fin entries.pairs.length) (row : Fin ng) (column : Fin nx),
        entries.pairs.get k = (row, column) →
          written'.dg.get k = written.dg.get (flatIndex row column)) ∧
      (0 < nx → IgnoresTangents problem nx ng →
        objective' = objective ∧ written'.g = written.g) := by
  have fit : (Coloring.greedy entries.pairs).FirstFit entries.pairs :=
    Coloring.greedy_firstFit entries.pairs
  rw [evaluate_of_isAutomatic automatic] at dense sparse
  obtain ⟨tangents, values⟩ := evaluateDense_swept dense
  obtain ⟨tangents', values'⟩ := evaluateSparse_swept fit.color_lt sparse
  constructor
  · intro k row column entry
    obtain ⟨rows, isSweep, fromDense⟩ := tangents column
    obtain ⟨rows', isSweep', fromSparse⟩ := tangents' k row column entry
    have declared : (row, column) ∈ entries.pairs := entry ▸ List.getElem_mem k.isLt
    have same : rows'.get row.succ = rows.get row.succ :=
      isSweep'.constraint_eq respect (fit.sameInRow declared) isSweep
    calc written'.dg.get k = (rows'.get row.succ).tangent / 1 := fromSparse
      _ = (rows'.get row.succ).tangent := one row isSweep'
      _ = (rows.get row.succ).tangent := by rw [same]
      _ = written.dg.get (flatIndex row column) := (fromDense row).symm
  · intro some ignores
    have colors : 0 < (Coloring.greedy entries.pairs).count :=
      Nat.pos_of_ne_zero fun none => some.ne' (fit.count_eq_zero_iff.1 none)
    exact AreSwept.eq ignores (values some) (values' colors)

theorem squareAndProduct_denseSweeps_isOk :
    ((onDense squareAndProduct 3 2 .forwardMode).evaluate #v[1.0, 2.0, 3.0]
      ⟨.replicate 2 0, .replicate 3 0, .replicate 6 0⟩ true (.fresh ())).1.isOk := by
  decide +kernel

theorem squareAndProduct_sparseSweeps_isOk :
    ((onSparse squareAndProduct squareAndProductEntries .forwardMode).evaluate #v[1.0, 2.0, 3.0]
      ⟨.replicate 2 1, .replicate 3 1, .replicate 3 1⟩ true (.fresh ())).1.isOk := by
  have colored := greedy_squareAndProductEntries
  unfold onSparse
  generalize Coloring.greedy squareAndProductEntries.pairs = coloring at colored
  subst colored
  decide +kernel

theorem sweeps_of_colors_agree_squareAndProduct :
    let dense := (onDense squareAndProduct 3 2 .forwardMode).evaluate #v[1.0, 2.0, 3.0]
      ⟨.replicate 2 0, .replicate 3 0, .replicate 6 0⟩ true (.fresh ())
    let sparse := (onSparse squareAndProduct squareAndProductEntries .forwardMode).evaluate
      #v[1.0, 2.0, 3.0] ⟨.replicate 2 1, .replicate 3 1, .replicate 3 1⟩ true (.fresh ())
    dense.1.isOk ∧ sparse.1 = dense.1 ∧ sparse.2.1.g = dense.2.1.g ∧
      sparse.2.1.dg.get ⟨0, by decide⟩ = dense.2.1.dg.get (flatIndex 1 2) ∧
      sparse.2.1.dg.get ⟨1, by decide⟩ = dense.2.1.dg.get (flatIndex 0 0) ∧
      sparse.2.1.dg.get ⟨2, by decide⟩ = dense.2.1.dg.get (flatIndex 1 1) := by
  intro dense sparse
  have denseOk : dense.1.isOk := squareAndProduct_denseSweeps_isOk
  have sparseOk : sparse.1.isOk := squareAndProduct_sparseSweeps_isOk
  rcases denseEq : dense with ⟨_ | objective, written, after⟩
  · rw [denseEq] at denseOk
    cases denseOk
  rcases sparseEq : sparse with ⟨_ | objective', written', after'⟩
  · rw [sparseEq] at sparseOk
    cases sparseOk
  have respects : RespectsEntries squareAndProductEntries.pairs squareAndProduct.dual :=
    Formulas.respectsEntries_ofExprs (by decide) (by decide)
  obtain ⟨entries, values⟩ := sweeps_of_colors_agree (by decide) respects.constraint
    (Formulas.oneKeepsTangents_ofExprs (by decide)) denseEq sparseEq
  obtain ⟨rfl, constraints⟩ := values (by decide) (Formulas.ignoresTangents_ofExprs (by decide))
  exact ⟨rfl, rfl, constraints, entries ⟨0, by decide⟩ 1 2 rfl, entries ⟨1, by decide⟩ 0 0 rfl,
    entries ⟨2, by decide⟩ 1 1 rfl⟩

end Differentiator

end NonlinearProgram
