import NonlinearProgram.Proofs.Arith.One
import NonlinearProgram.Proofs.Differentiation.Build
import NonlinearProgram.Proofs.Differentiation.Delivery
import NonlinearProgram.Proofs.Pattern.FirstFit
import NonlinearProgram.Proofs.Problem.Dependence
import NonlinearProgram.Proofs.Setup

/-!
# Which results are finite

An evaluation that succeeds has found its samples finite, tangents included, and likewise the
derivatives that a problem supplies. Objective and constraints are therefore finite, and so are
derivatives that are supplied or read off a sweep. Difference quotients are formed after the last
check. All that is known of one is that its difference is taken between finite values, and on a
steep function the quotient overflows without a failure.
-/

namespace NonlinearProgram

open Sampling

variable {R σ : Type} [Arith R] {nx ng : Nat}

/-- Variable that a constraint derivative is taken in. -/
def Layout.column : (layout : Layout nx ng) → Fin layout.length → Fin nx
  | dense, k => ⟨k / ng, Nat.div_lt_of_lt_mul (Nat.mul_comm nx ng ▸ k.isLt)⟩
  | sparse entries _, k => (entries.pairs.get k).2

/-- Every position of a dense layout is that of a row and the column it belongs to. -/
theorem Layout.exists_flatIndex (k : Fin (nx * ng)) :
    ∃ row, flatIndex row (column (.dense : Layout nx ng) k) = k := by
  have some : 0 < ng := Nat.pos_of_mul_pos_left (Nat.zero_lt_of_lt k.isLt)
  refine ⟨⟨k % ng, Nat.mod_lt _ some⟩, Fin.ext ?_⟩
  exact Nat.div_add_mod' k ng

theorem finite_of_rows {rows : Vector R (ng + 1)} (finite : ∀ row, Arith.isFinite (rows.get row)) :
    Arith.isFinite (rows.get 0) ∧
      ∀ row : Fin ng, Arith.isFinite ((rows.tail : Vector R ng).get row) := by
  refine ⟨finite 0, fun row => ?_⟩
  have entry := finite row.succ
  simpa [Nat.add_comm 1] using entry

variable [Precision R]

/-- What is delivered as a derivative in a variable at `x`: a finite value or, where differences are
taken, the quotient of one by its divisor. -/
def IsDelivered (scheme? : Option Scheme) (x value : R) : Prop :=
  match scheme? with
  | none => Arith.isFinite value
  | some scheme => ∃ raw, scheme.IsFiniteDifference raw ∧ value = raw / scheme.divisor x

/-- Values are finite, and derivatives as far as they are not quotients of differences. -/
structure IsFiniteOutcome (layout : Layout nx ng) (gradient? jacobian? : Option Scheme)
    (x : Vector R nx) (objective : R) (written : Buffers R nx ng layout.length) : Prop where
  objective : Arith.isFinite objective
  constraints : ∀ row, Arith.isFinite (written.g.get row)
  gradient : ∀ column, IsDelivered gradient? (x.get column) (written.df.get column)
  jacobian : ∀ k, IsDelivered jacobian? (x.get (layout.column k)) (written.dg.get k)

section Evaluations

variable {problem : Problem R σ} {scheme? : Option Scheme} {x : Vector R nx} {objective : R}

/-- A dense evaluation has finite rows, and delivers quotients of differences or finite tangents. -/
theorem evaluateDense_finite {target written : Buffers R nx ng (nx * ng)}
    {before after : Scratch R σ nx ng nx}
    (run : evaluateDense problem scheme? x target before = (.ok objective, written, after)) :
    IsFiniteOutcome .dense scheme? scheme? x objective written := by
  obtain ⟨formed, rfl, values, derivatives⟩ := evaluateDense_eq_ok run
  have delivered : (∀ row, Arith.isFinite (after.rows.get row)) ∧ ∀ column row,
      IsDelivered scheme? (x.get column) ((after.jacobian.get column).get row) := by
    cases scheme? with
    | none =>
        have swept : Swept problem x (fun column => [column]) after := sweeps_ok formed
        refine ⟨swept.finite, fun column row => ?_⟩
        obtain ⟨rows, isSweep, tangents⟩ := swept.tangents column
        rw [tangents]
        simpa [IsDelivered] using isSweep.finite_tangent row
    | some scheme =>
        obtain ⟨_, finite, columns⟩ := differenceJacobian_ok formed
        refine ⟨finite, fun column row => ?_⟩
        obtain ⟨raw, taken, quotients⟩ := columns column
        rw [quotients]
        exact ⟨raw.get row, taken.finite finite row, by simp⟩
  obtain ⟨finite, entries⟩ := delivered
  refine ⟨(finite_of_rows finite).1, ?_, ?_, ?_⟩
  · rw [values]
    exact (finite_of_rows finite).2
  · intro column
    rw [(derivatives column).1]
    exact entries column 0
  · intro k
    obtain ⟨row, position⟩ := Layout.exists_flatIndex k
    have entry := (derivatives (Layout.column .dense k)).2 row
    have delivered := entries (Layout.column .dense k) row.succ
    rw [← entry, position] at delivered
    exact delivered

/-- A sparse evaluation has finite rows. Its gradient is formed by differences whatever the method,
and the tangents of a sweep are divided by one. -/
theorem evaluateSparse_finite [LawfulOne R] {entries : Entries ng nx} {coloring : Coloring nx}
    (colored : ∀ column : Fin nx, coloring.colors.get column < coloring.count)
    {target written : Buffers R nx ng entries.pairs.length}
    {before after : Scratch R σ nx ng coloring.count}
    (run : evaluateSparse problem scheme? entries coloring x target before =
      (.ok objective, written, after)) :
    IsFiniteOutcome (.sparse entries coloring) (some (scheme?.getD .forward)) scheme? x objective
      written := by
  obtain ⟨divisors, formed, rfl, values, gradient, derivatives⟩ := evaluateSparse_eq_ok run
  have delivered : (∀ row, Arith.isFinite (after.rows.get row)) ∧
      HasGradient problem x (scheme?.getD .forward) after ∧
      ∀ (column : Fin nx) (row : Fin (ng + 1)), IsDelivered scheme? (x.get column)
        ((after.jacobian.get ⟨_, colored column⟩).get row / divisors.get column) := by
    cases scheme? with
    | none =>
        obtain ⟨swept, hasGradient, rfl⟩ := compressed_sweeps_ok formed
        refine ⟨swept.finite, hasGradient, fun column row => ?_⟩
        obtain ⟨rows, isSweep, tangents⟩ := swept.tangents ⟨_, colored column⟩
        have kept := LawfulOne.isFinite_div_one (isSweep.finite_tangent row)
        rw [tangents]
        simpa [IsDelivered] using kept
    | some scheme =>
        obtain ⟨_, finite, hasGradient, taken, isDivisor⟩ := compressed_differences_ok formed
        refine ⟨finite, hasGradient, fun column row => ?_⟩
        rw [isDivisor column (colored column)]
        exact ⟨_, (taken ⟨_, colored column⟩).finite finite row, rfl⟩
  obtain ⟨finite, hasGradient, quotients⟩ := delivered
  refine ⟨(finite_of_rows finite).1, ?_, ?_, ?_⟩
  · rw [values]
    exact (finite_of_rows finite).2
  · intro column
    obtain ⟨raw, taken, quotient⟩ := hasGradient column
    rw [gradient, quotient]
    exact ⟨raw.get 0, taken.finite finite 0, rfl⟩
  · intro k
    have delivered := quotients (entries.pairs.get k).2 (entries.pairs.get k).1.succ
    rw [← derivatives k _ _ rfl (colored _)] at delivered
    exact delivered

omit [Precision R] in
/-- Whatever a problem supplies is checked. -/
theorem evaluateSupplied_finite {groups nj : Nat} {target written : Buffers R nx ng nj}
    {before after : Scratch R σ nx ng groups}
    (run : evaluateSupplied problem x target true before = (.ok objective, written, after)) :
    Arith.isFinite objective ∧ (∀ row, Arith.isFinite (written.g.get row)) ∧
      (∀ column, Arith.isFinite (written.df.get column)) ∧
      ∀ k, Arith.isFinite (written.dg.get k) := by
  obtain ⟨checked, result⟩ := Prod.mk.inj run
  obtain ⟨rfl, _⟩ := Prod.mk.inj result
  obtain ⟨given, _, checked⟩ := bind_eq_ok.1 checked
  obtain ⟨_, gradient, checked⟩ := bind_eq_ok.1 checked
  obtain ⟨_, jacobian, checked⟩ := bind_eq_ok.1 checked
  obtain ⟨_, value, checked⟩ := bind_eq_ok.1 checked
  obtain ⟨_, constraints, returned⟩ := bind_eq_ok.1 checked
  obtain rfl := Except.ok.inj returned
  exact ⟨requireFinite_eq_ok.1 value 0, requireFinite_eq_ok.1 constraints,
    requireFinite_eq_ok.1 gradient, requireFinite_eq_ok.1 jacobian⟩

end Evaluations

/-! ## Differentiators -/

namespace Differentiator

/-- Scheme of the differences that the objective gradient is formed by, if it is. With a sparse
layout it is, unless derivatives are supplied. -/
def gradientScheme? (differentiator : Differentiator R σ) : Option Scheme :=
  if differentiator.method = .supplied then none
  else if differentiator.layout.isDense then differentiator.method.scheme?
  else some (differentiator.method.scheme?.getD .forward)

/-- An evaluation with derivatives that succeeds has a finite objective and finite constraints, and
derivatives that are finite unless they are formed by differences. One that is so formed is the
quotient of a difference of finite values by the step taken. -/
theorem evaluate_isFiniteOutcome [LawfulOne R] {problem : Problem R σ} {pattern : Pattern}
    {method : Method} {differentiator : Differentiator R σ}
    (built : build problem pattern method = .ok differentiator)
    {x : Vector R differentiator.dims.nx} {target written : differentiator.Target}
    {memory after : differentiator.Memory} {objective : R}
    (run : differentiator.evaluate x target true memory = (.ok objective, written, after)) :
    IsFiniteOutcome differentiator.layout differentiator.gradientScheme?
      differentiator.method.scheme? x objective written := by
  by_cases supplied : differentiator.method = .supplied
  · rw [evaluate, if_pos supplied] at run
    obtain ⟨value, constraints, gradient, jacobian⟩ := evaluateSupplied_finite run
    rw [gradientScheme?, if_pos supplied, supplied]
    exact ⟨value, constraints, gradient, jacobian⟩
  · rw [evaluate_of_ne_supplied supplied] at run
    rw [gradientScheme?, if_neg supplied]
    rcases cases_of_build built with ⟨nx, ng, rfl, rfl⟩ | ⟨nrows, ncols, entries, rfl, rfl⟩
    · exact evaluateDense_finite run
    · have fit := Coloring.greedy_firstFit entries.pairs
      exact evaluateSparse_finite fit.color_lt run

/-- One variable and one constraint, which rises so steeply that its derivative overflows. The
derivative is supplied as well. -/
def steep : Problem Double Unit :=
  (Formulas.ofExprs (.var 0) [.binary .mul (.binary .mul (.var 0) (.constant 1e308)) (.constant 1e5)]
    (some ([.constant 1], [.binary .mul (.constant 1e308) (.constant 1e5)]))).toProblem

theorem steep_forwardDifference_isOk :
    ((onDense steep 1 1 .forwardDifference).evaluate #v[0.0] ⟨#v[7.0], #v[7.0], #v[7.0]⟩ true
      (.fresh ())).1.isOk := by
  decide +kernel

theorem evaluate_isFiniteOutcome_steep :
    build steep (.dense 1 2) .forwardDifference = .ok (onDense steep 1 1 .forwardDifference) ∧
      ∃ objective written after,
        (onDense steep 1 1 .forwardDifference).evaluate #v[0.0] ⟨#v[7.0], #v[7.0], #v[7.0]⟩ true
            (.fresh ()) = (.ok objective, written, after) ∧
          IsFiniteOutcome .dense (some .forward) (some .forward) #v[0.0] objective written := by
  have built : build steep (.dense 1 2) .forwardDifference =
      .ok (onDense steep 1 1 .forwardDifference) := rfl
  refine ⟨built, ?_⟩
  have isOk := steep_forwardDifference_isOk
  rcases run : (onDense steep 1 1 .forwardDifference).evaluate #v[0.0] ⟨#v[7.0], #v[7.0], #v[7.0]⟩ true
    (.fresh ()) with ⟨_ | objective, written, after⟩
  · rw [run] at isOk
    cases isOk
  · exact ⟨objective, written, after, rfl, evaluate_isFiniteOutcome built run⟩

/-- By differences the infinite derivative is delivered; as a supplied one it is a failure. -/
theorem steep_derivative_delivered :
    let difference := (onDense steep 1 1 .forwardDifference).evaluate #v[0.0] ⟨#v[7.0], #v[7.0], #v[7.0]⟩
      true (.fresh ())
    let supplied := (onDense steep 1 1 .supplied).evaluate #v[0.0] ⟨#v[7.0], #v[7.0], #v[7.0]⟩ true
      (.fresh ())
    build steep (.dense 1 2) .forwardDifference = .ok (onDense steep 1 1 .forwardDifference) ∧
      Arith.isFinite (0.0 : Double) ∧ difference.1.isOk ∧
      Arith.isFinite (difference.2.1.dg.get ⟨0, by decide⟩) = false ∧ supplied.1.isOk = false := by
  refine ⟨rfl, ?_⟩
  decide +kernel

end Differentiator

end NonlinearProgram
