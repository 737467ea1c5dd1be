import NonlinearProgram.Differentiation.Differentiator
import NonlinearProgram.Proofs.Differentiation.Difference
import NonlinearProgram.Proofs.Differentiation.Sweeps
import NonlinearProgram.Proofs.Pattern.Positions

/-!
# What evaluations deliver

An evaluation that succeeds has run one computation on the buffers, and hands out what this left:
the function rows as objective and constraints, and the derivatives in the order of the layout. What
the buffers hold by then depends on the method; how they are handed out does not.
-/

namespace NonlinearProgram

variable {R σ : Type} [Arith R] {nx ng : Nat} {problem : Problem R σ} {x : Vector R nx}
variable {objective : R}

theorem Coloring.get_decompressRows {coloring : Coloring nx} {pairs : List (Fin ng × Fin nx)}
    (compressed : Vector (Vector R (ng + 1)) coloring.count) (divisors : Vector R nx)
    {k : Fin pairs.length} {row : Fin ng} {column : Fin nx} (entry : pairs.get k = (row, column))
    (inside : coloring.colors.get column < coloring.count) :
    (coloring.decompressRows pairs compressed divisors).get k =
      compressed[coloring.colors.get column].get row.succ / divisors.get column := by
  rw [List.get_eq_getElem] at entry
  rw [Vector.get_eq_getElem] at inside
  simp [decompressRows, decompress, entry, inside, Nat.add_comm 1]

variable [Precision R] {scheme? : Option Scheme}

/-! ## Compressed derivatives -/

namespace Sampling

variable {coloring : Coloring nx} {scheme : Scheme} {divisors : Vector R nx}
variable {before after : Scratch R σ nx ng coloring.count}

/-- The gradient consists of the objective's quotients in one variable at a time. -/
def HasGradient {groups : Nat} (problem : Problem R σ) (x : Vector R nx) (scheme : Scheme)
    (scratch : Scratch R σ nx ng groups) : Prop :=
  ∀ column : Fin nx, ∃ raw, IsTakenDifference problem x [column] scheme scratch.rows raw ∧
    scratch.gradient.get column = raw.get objectiveRow / scheme.divisor (x.get column)

/-- By differences, the rows are a sample and each column holds the differences of its colour. -/
theorem compressed_differences_ok
    (run : (compressed problem (some scheme) coloring x).run before = (.ok divisors, after)) :
    IsSample (problem.real x) after.rows ∧ (∀ row, Arith.isFinite (after.rows.get row)) ∧
      HasGradient problem x scheme after ∧
      (∀ color : Fin coloring.count, IsTakenDifference problem x (coloring.columns color) scheme
        after.rows (after.jacobian.get color)) ∧
      ∀ column : Fin nx, coloring.colors.get column < coloring.count →
        divisors.get column = scheme.divisor (x.get column) := by
  simp only [compressed, run_bind_eq_ok, run_get_eq_ok, run_pure_eq_ok] at run
  obtain ⟨_, _, rowsRun, _, sampled, ⟨rfl, rfl⟩, _, differenced, gradientRun, _, _,
    compressedRun, _, _, ⟨rfl, rfl⟩, rfl, rfl⟩ := run
  obtain ⟨base, _, isSample, finite, rfl⟩ := sample_finite rowsRun
  obtain ⟨rows, _, gradient⟩ := differenceGradient_ok gradientRun
  obtain ⟨rows', gradient', taken, divisors⟩ := differenceCompressed_ok compressedRun
  rw [rows] at rows'
  rw [HasGradient, rows', gradient']
  exact ⟨isSample, finite, gradient, taken, divisors⟩

/-- By sweeps, the gradient is formed by forward differences, and there is nothing to divide by. -/
theorem compressed_sweeps_ok
    (run : (compressed problem none coloring x).run before = (.ok divisors, after)) :
    Swept problem x (fun color => coloring.columns color) after ∧
      HasGradient problem x .forward after ∧ divisors = .replicate nx 1 := by
  simp only [compressed, run_bind_eq_ok, run_get_eq_ok, run_pure_eq_ok] at run
  obtain ⟨_, _, sweepRun, _, sampled, ⟨rfl, rfl⟩, _, _, gradientRun, rfl, rfl⟩ := run
  have swept : Swept problem x (fun color => coloring.columns color) sampled := sweeps_ok sweepRun
  obtain ⟨rows, jacobian, gradient⟩ := differenceGradient_ok gradientRun
  rw [← rows] at gradient
  refine ⟨⟨?_, ?_, ?_⟩, gradient, rfl⟩
  · rw [jacobian]
    exact swept.tangents
  · rw [rows]
    exact swept.values
  · rw [rows]
    exact swept.finite

end Sampling

/-! ## Evaluations -/

/-- A dense evaluation hands out the Jacobian column by column, the objective's row apart. -/
theorem evaluateDense_eq_ok {target written : Buffers R nx ng (nx * ng)}
    {before after : Scratch R σ nx ng nx}
    (run : evaluateDense problem scheme? x target before = (.ok objective, written, after)) :
    (Sampling.jacobian problem scheme? x).run before = (.ok (), after) ∧
      objective = after.rows.get 0 ∧ written.g = after.rows.tail ∧
      ∀ column : Fin nx, written.df.get column = (after.jacobian.get column).get 0 ∧
        ∀ row : Fin ng,
          written.dg.get (flatIndex row column) = (after.jacobian.get column).get row.succ := by
  rw [evaluateDense] at run
  split at run
  case h_1 => cases run
  case h_2 formed =>
    cases run
    refine ⟨formed, rfl, rfl, fun column => ⟨by simp, fun row => ?_⟩⟩
    rw [get_flatten_flatIndex]
    simp [Nat.add_comm 1]

/-- A sparse evaluation hands out the gradient, and for every entry the compressed column of its
colour over the divisor of its variable. -/
theorem evaluateSparse_eq_ok {entries : Entries ng nx} {coloring : Coloring nx}
    {target written : Buffers R nx ng entries.pairs.length}
    {before after : Scratch R σ nx ng coloring.count}
    (run : evaluateSparse problem scheme? entries coloring x target before =
      (.ok objective, written, after)) :
    ∃ divisors, (Sampling.compressed problem scheme? coloring x).run
        { before with gradient := target.df } = (.ok divisors, after) ∧
      objective = after.rows.get 0 ∧ written.g = after.rows.tail ∧ written.df = after.gradient ∧
      ∀ (k : Fin entries.pairs.length) (row : Fin ng) (column : Fin nx),
        entries.pairs.get k = (row, column) →
          ∀ inside : coloring.colors.get column < coloring.count,
            written.dg.get k =
              (after.jacobian.get ⟨coloring.colors.get column, inside⟩).get row.succ /
                divisors.get column := by
  rw [evaluateSparse] at run
  split at run
  case h_1 => cases run
  case h_2 divisors _ formed =>
    cases run
    refine ⟨divisors, formed, rfl, rfl, rfl, fun k row column entry inside => ?_⟩
    exact Coloring.get_decompressRows _ _ entry inside

namespace Differentiator

/-- Without supplied derivatives, derivatives are formed in the layout of the differentiator. -/
theorem evaluate_of_ne_supplied {differentiator : Differentiator R σ}
    (notSupplied : differentiator.method ≠ .supplied) (x : Vector R differentiator.dims.nx)
    (target : differentiator.Target) (memory : differentiator.Memory) :
    differentiator.evaluate x target true memory =
      evaluateLayout differentiator.problem differentiator.method.scheme? x differentiator.layout
        target memory := by
  rw [evaluate, if_neg notSupplied, if_pos rfl]

end Differentiator

end NonlinearProgram
