import NonlinearProgram.Proofs.Differentiation.Build
import NonlinearProgram.Proofs.Differentiation.Compression
import NonlinearProgram.Proofs.Differentiation.Delivery

/-!
# Sparse and dense evaluations agree

With a sparse layout all variables of one colour are perturbed together. If each constraint depends
on no variable but those of its declared entries, the derivatives that are delivered are those of a
dense layout, where the variables are perturbed one at a time: the same operations are applied to
the same operands, so that the two agree in any arithmetic.
-/

namespace NonlinearProgram

variable {R σ : Type} {nx ng : Nat}

section Evaluations

variable [Arith R] [Precision R] {problem : Problem R σ} {scheme : Scheme} {x : Vector R nx}
variable {objective : R}

/-- A dense evaluation by differences delivers a sample, and the quotients in each variable. -/
theorem evaluateDense_ok {target written : Buffers R nx ng (nx * ng)}
    {before after : Scratch R σ nx ng nx}
    (run : evaluateDense problem (some scheme) x target before = (.ok objective, written, after)) :
    ∃ base, IsSample (problem.real x) base ∧ objective = base.get 0 ∧ written.g = base.tail ∧
      ∀ column : Fin nx, ∃ quotients, IsQuotientColumn problem scheme x base column quotients ∧
        written.df.get column = quotients.get 0 ∧
        ∀ row : Fin ng, written.dg.get (flatIndex row column) = quotients.get row.succ := by
  obtain ⟨formed, isObjective, values, derivatives⟩ := evaluateDense_eq_ok run
  obtain ⟨isSample, _, columns⟩ := Sampling.differenceJacobian_ok formed
  refine ⟨_, isSample, isObjective, values, fun column => ?_⟩
  obtain ⟨raw, taken, quotients⟩ := columns column
  exact ⟨_, ⟨raw, taken.joint, quotients⟩, derivatives column⟩

/-- A sparse evaluation by differences delivers a sample, the objective's quotients in each
variable, and for every entry the joint difference of its column's colour over the column's own
divisor. -/
theorem evaluateSparse_ok {entries : Entries ng nx} {coloring : Coloring nx}
    (colored : ∀ column : Fin nx, coloring.colors.get column < coloring.count)
    {target written : Buffers R nx ng entries.pairs.length}
    {before after : Scratch R σ nx ng coloring.count}
    (run : evaluateSparse problem (some scheme) entries coloring x target before =
      (.ok objective, written, after)) :
    ∃ base, IsSample (problem.real x) base ∧ objective = base.get 0 ∧ written.g = base.tail ∧
      (∀ column : Fin nx, ∃ quotients, IsQuotientColumn problem scheme x base column quotients ∧
        written.df.get column = quotients.get 0) ∧
      ∀ (k : Fin entries.pairs.length) (row : Fin ng) (column : Fin nx),
        entries.pairs.get k = (row, column) → ∃ raw,
          IsJointDifference problem x (coloring.columns (coloring.colors.get column)) scheme base
              raw ∧
            written.dg.get k = raw.get row.succ / scheme.divisor (x.get column) := by
  obtain ⟨_, formed, rfl, values, isGradient, derivatives⟩ := evaluateSparse_eq_ok run
  obtain ⟨isSample, _, gradient, taken, divisors⟩ := Sampling.compressed_differences_ok formed
  refine ⟨_, isSample, rfl, values, ?_, ?_⟩
  · intro column
    obtain ⟨raw, takenOne, quotient⟩ := gradient column
    rw [isGradient, quotient]
    exact ⟨_, ⟨raw, takenOne.joint, rfl⟩, by simp⟩
  · intro k row column entry
    refine ⟨_, (taken ⟨coloring.colors.get column, colored column⟩).joint, ?_⟩
    rw [derivatives k row column entry (colored column), divisors column (colored column)]

/-- For a problem that keeps to declared entries, compressed differences agree with dense ones. -/
theorem evaluateSparse_agrees {entries : Entries ng nx}
    (real : RespectsEntries entries.pairs problem.real)
    (complex : RespectsEntries entries.pairs problem.complex) {objective' : R}
    {target written : Buffers R nx ng (nx * ng)}
    {target' written' : Buffers R nx ng entries.pairs.length} {before after : Scratch R σ nx ng nx}
    {before' after' : Scratch R σ nx ng (Coloring.greedy entries.pairs).count}
    (dense : evaluateDense problem (some scheme) x target before = (.ok objective, written, after))
    (sparse : evaluateSparse problem (some scheme) entries (.greedy entries.pairs) x target'
      before' = (.ok objective', written', after')) :
    objective' = objective ∧ written'.g = written.g ∧ written'.df = written.df ∧
      ∀ (k : Fin entries.pairs.length) (row : Fin ng) (column : Fin nx),
        entries.pairs.get k = (row, column) →
          written'.dg.get k = written.dg.get (flatIndex row column) := by
  have fit : (Coloring.greedy entries.pairs).FirstFit entries.pairs :=
    Coloring.greedy_firstFit entries.pairs
  rcases evaluateDense_ok dense with ⟨base, isBase, rfl, values, columns⟩
  obtain ⟨base', isBase', rfl, values', gradient, derivatives⟩ :=
    evaluateSparse_ok fit.color_lt sparse
  obtain rfl := real.rows_eq isBase isBase'
  refine ⟨rfl, values'.trans values.symm, ?_, ?_⟩
  · ext column inside
    rcases columns ⟨column, inside⟩ with ⟨quotients, isQuotient, fromDense, _⟩
    rcases gradient ⟨column, inside⟩ with ⟨quotients', isQuotient', fromSparse⟩
    obtain rfl := isQuotient.eq real complex isQuotient'
    exact fromSparse.trans fromDense.symm
  · intro k row column entry
    rcases columns column with ⟨_, ⟨raw, joint, rfl⟩, _, fromDense⟩
    rcases derivatives k row column entry with ⟨raw', joint', fromSparse⟩
    have declared : (row, column) ∈ entries.pairs := entry ▸ List.getElem_mem k.isLt
    have same : raw'.get row.succ = raw.get row.succ :=
      joint'.constraint_eq real complex (fit.sameInRow declared) joint
    rw [fromSparse, fromDense, same]
    simp

end Evaluations

/-! ## Differentiators -/

namespace Differentiator

variable [Arith R] [Precision R]

/-- With a difference method, derivatives are formed in the layout of the differentiator. -/
theorem evaluate_of_scheme {differentiator : Differentiator R σ} {scheme : Scheme}
    (isScheme : differentiator.method.scheme? = some scheme)
    (x : Vector R differentiator.dims.nx) (target : differentiator.Target)
    (memory : differentiator.Memory) :
    differentiator.evaluate x target true memory =
      evaluateLayout differentiator.problem (some scheme) x differentiator.layout target
        memory := by
  have notSupplied : differentiator.method ≠ .supplied := by
    intro supplied
    rw [supplied] at isScheme
    cases isScheme
  rw [evaluate_of_ne_supplied notSupplied, isScheme]

/-- For a problem that keeps to declared entries, differences in the sparse layout agree with those
in the dense layout: the objective, the constraints, the gradient, and every declared entry. -/
theorem sparse_agrees_with_dense {problem : Problem R σ} {entries : Entries ng nx} {method : Method}
    (differences : method.isDifference) (real : RespectsEntries entries.pairs problem.real)
    (complex : RespectsEntries entries.pairs problem.complex) {x : Vector R nx}
    {objective objective' : R} {target written : (onDense problem nx ng method).Target}
    {target' written' : (onSparse problem entries method).Target}
    {memory after : (onDense problem nx ng method).Memory}
    {memory' after' : (onSparse problem entries method).Memory}
    (dense : (onDense problem nx ng method).evaluate x target true memory =
      (.ok objective, written, after))
    (sparse : (onSparse problem entries method).evaluate x target' true memory' =
      (.ok objective', written', after')) :
    objective' = objective ∧ written'.g = written.g ∧ written'.df = written.df ∧
      ∀ (k : Fin entries.pairs.length) (row : Fin ng) (column : Fin nx),
        entries.pairs.get k = (row, column) →
          written'.dg.get k = written.dg.get (flatIndex row column) := by
  rcases Option.isSome_iff_exists.1 differences with ⟨scheme, isScheme⟩
  rw [evaluate_of_scheme isScheme] at dense sparse
  exact evaluateSparse_agrees real complex dense sparse

theorem squareAndProduct_dense_isOk :
    ((onDense squareAndProduct 3 2 .centralDifference).evaluate #v[1.0, 2.0, 3.0]
      ⟨.replicate 2 0, .replicate 3 0, .replicate 6 0⟩ true (.fresh ())).1.isOk := by
  decide +kernel

theorem greedy_squareAndProductEntries :
    Coloring.greedy squareAndProductEntries.pairs = ⟨#v[0, 0, 1], 2⟩ := by
  cbv

theorem squareAndProduct_sparse_isOk :
    ((onSparse squareAndProduct squareAndProductEntries .centralDifference).evaluate
      #v[1.0, 2.0, 3.0] ⟨.replicate 2 1, .replicate 3 1, .replicate 3 1⟩ true
      (.fresh ())).1.isOk := by
  have colored := greedy_squareAndProductEntries
  -- Sorting the columns does not reduce, so the colouring is put in by hand.
  unfold onSparse
  generalize Coloring.greedy squareAndProductEntries.pairs = coloring at colored
  subst colored
  decide +kernel

theorem sparse_agrees_with_dense_squareAndProduct :
    let dense := (onDense squareAndProduct 3 2 .centralDifference).evaluate #v[1.0, 2.0, 3.0]
      ⟨.replicate 2 0, .replicate 3 0, .replicate 6 0⟩ true (.fresh ())
    let sparse := (onSparse squareAndProduct squareAndProductEntries .centralDifference).evaluate
      #v[1.0, 2.0, 3.0] ⟨.replicate 2 1, .replicate 3 1, .replicate 3 1⟩ true (.fresh ())
    dense.1.isOk ∧ sparse.1 = dense.1 ∧ sparse.2.1.df = dense.2.1.df ∧
      sparse.2.1.dg.get ⟨0, by decide⟩ = dense.2.1.dg.get (flatIndex 1 2) ∧
      sparse.2.1.dg.get ⟨1, by decide⟩ = dense.2.1.dg.get (flatIndex 0 0) ∧
      sparse.2.1.dg.get ⟨2, by decide⟩ = dense.2.1.dg.get (flatIndex 1 1) := by
  intro dense sparse
  have denseOk : dense.1.isOk := squareAndProduct_dense_isOk
  have sparseOk : sparse.1.isOk := squareAndProduct_sparse_isOk
  rcases denseEq : dense with ⟨_ | objective, written, after⟩
  · rw [denseEq] at denseOk
    cases denseOk
  rcases sparseEq : sparse with ⟨_ | objective', written', after'⟩
  · rw [sparseEq] at sparseOk
    cases sparseOk
  have declared : ∀ (row : Fin 2) (column : Fin 3),
      column.val ∈ ([.binary .mul (.var 0) (.var 0),
        .binary .mul (.var 1) (.var 2)] : List (Expr Double))[row].indices →
          (row, column) ∈ squareAndProductEntries.pairs := by
    decide
  obtain ⟨rfl, _, gradient, entries⟩ := sparse_agrees_with_dense (by decide)
    (Formulas.respectsEntries_ofExprs (by decide) declared)
    (Formulas.respectsEntries_ofExprs (by decide) declared) denseEq sparseEq
  exact ⟨rfl, rfl, gradient, entries ⟨0, by decide⟩ 1 2 rfl, entries ⟨1, by decide⟩ 0 0 rfl,
    entries ⟨2, by decide⟩ 1 1 rfl⟩

end Differentiator

end NonlinearProgram
