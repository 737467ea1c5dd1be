import NonlinearProgram.Arith.Double
import NonlinearProgram.Problem.Expr
import NonlinearProgram.Pattern.Entries
import NonlinearProgram.Proofs.Differentiation.Sampling

/-!
# What function rows depend on

`RespectsEntries` says that a problem keeps to a list of declared entries: its objective is decided
by the point, and each constraint by those variables for which an entry is declared. The value of an
expression is decided by the variables that occur in it, so a problem of expressions keeps to its
entries as soon as it has an expression for every constraint and no undeclared variable occurs
there.
-/

namespace NonlinearProgram

variable {R σ T : Type} {nx ng : Nat}

/-- The objective is determined by the point, and each constraint by those variables for which it
has an entry, whatever buffer and state the problem is called with. -/
structure RespectsEntries (pairs : List (Fin ng × Fin nx))
    (evaluate : Vector T nx → Vector T ng → StateM σ (Evaluation T ng)) : Prop where
  objective : ∀ {point rows rows'}, IsSample (evaluate point) rows →
    IsSample (evaluate point) rows' → rows.get 0 = rows'.get 0
  constraint : ∀ {point point' rows rows'} (row : Fin ng),
    (∀ column : Fin nx, (row, column) ∈ pairs → point.get column = point'.get column) →
    IsSample (evaluate point) rows → IsSample (evaluate point') rows' →
      rows.get row.succ = rows'.get row.succ

/-- Samples at one point agree. -/
theorem RespectsEntries.rows_eq {pairs : List (Fin ng × Fin nx)}
    {evaluate : Vector T nx → Vector T ng → StateM σ (Evaluation T ng)}
    (respects : RespectsEntries pairs evaluate) {point : Vector T nx}
    {rows rows' : Vector T (ng + 1)} (sample : IsSample (evaluate point) rows)
    (sample' : IsSample (evaluate point) rows') : rows = rows' := by
  ext row inside
  cases row with
  | zero => exact respects.objective sample sample'
  | succ row =>
      exact respects.constraint ⟨row, Nat.lt_of_succ_lt_succ inside⟩ (fun _ _ => rfl) sample sample'

/-! ## Expressions -/

/-- Variables that occur in an expression. -/
def Expr.indices : Expr R → List Nat
  | constant _ | undefined _ => []
  | var index => [index]
  | binary _ left right => left.indices ++ right.indices
  | unary _ argument | power argument _ | pow argument _ => argument.indices
  | ifLess left right first second =>
      left.indices ++ right.indices ++ first.indices ++ second.indices

/-- The value of an expression is decided by the variables that occur in it. -/
theorem Expr.evaluate_congr [Arith R] [Scalar R T] {point point' : Vector T nx} (expr : Expr R)
    (same : ∀ index ∈ expr.indices, point[index]? = point'[index]?) :
    expr.evaluate point = expr.evaluate point' := by
  induction expr with
  | constant | undefined => rfl
  | var index => simp only [evaluate, coordinate, same index (List.mem_singleton_self index)]
  | binary _ left right ihLeft ihRight =>
      simp only [indices, List.forall_mem_append] at same
      simp only [evaluate, ihLeft same.1, ihRight same.2]
  | unary _ argument ih | power argument _ ih | pow argument _ ih =>
      simp only [evaluate, ih same]
  | ifLess left right first second ihLeft ihRight ihFirst ihSecond =>
      simp only [indices, List.forall_mem_append] at same
      rcases same with ⟨⟨⟨sameLeft, sameRight⟩, sameFirst⟩, sameSecond⟩
      simp only [evaluate, ihLeft sameLeft, ihRight sameRight, ihFirst sameFirst,
        ihSecond sameSecond]

/-! ## Problems of expressions -/

/-- A buffer that has been filled holds the values in their places and is unchanged before them. -/
theorem fillFrom_ok {values : List (Except EvaluationFailure T)} {position : Nat}
    {buffer filled : Vector T ng} (run : fillFrom values position buffer = (.ok (), filled)) :
    (∀ index (inside : index < ng), index < position → filled[index] = buffer[index]) ∧
      ∀ index (inside : index < ng), position ≤ index →
        ∀ value ∈ values[index - position]?, value = .ok filled[index] := by
  induction values generalizing position buffer with
  | nil =>
      cases run
      simp
  | cons first rest ih =>
      rw [fillFrom] at run
      split at run
      case isFalse outside =>
        cases run
        exact ⟨fun _ _ _ => rfl, fun index inside _ => by omega⟩
      case isTrue inside =>
        cases first with
        | error => cases run
        | ok value =>
            rcases ih run with ⟨before, after⟩
            constructor
            · intro index inside' below
              rw [before index inside' (by omega), Vector.getElem_set_ne _ _ (by omega)]
            · intro index inside' above
              rcases Nat.eq_or_lt_of_le above with rfl | later
              · -- The place that was written first lies before those that follow.
                rw [before position inside' (by omega)]
                simp
              · rcases Nat.exists_eq_add_of_lt later with ⟨gap, rfl⟩
                have shifted := after (position + gap + 1) inside' (by omega)
                simpa [show position + gap + 1 - position = gap + 1 by omega,
                  show position + gap + 1 - (position + 1) = gap by omega] using shifted

/-- The rows of a problem of expressions are the values of the expressions. -/
theorem Formulas.isSample_ofExprs [Elementary R] [Scalar R T] {objective : Expr R}
    {constraints : List (Expr R)} {derivatives : Option (List (Expr R) × List (Expr R))}
    {point : Vector T nx} {rows : Vector T (ng + 1)}
    (sample : IsSample (fun buffer => (pure ((Formulas.ofExprs objective constraints
      derivatives).evaluate point buffer) : StateM σ (Evaluation T ng))) rows) :
    objective.evaluate point = .ok (rows.get 0) ∧
      ∀ (row : Fin ng) (inside : row < constraints.length),
        constraints[row].evaluate point = .ok (rows.get row.succ) := by
  rcases sample with ⟨buffer, state, value, filled, _, evaluated, rfl⟩
  have evaluated := (Prod.mk.inj evaluated).1
  simp only [Formulas.evaluate, Formulas.ofExprs] at evaluated
  split at evaluated
  case h_2 => cases congrArg Evaluation.outcome evaluated
  case h_1 written run =>
    rcases Evaluation.mk.inj evaluated with ⟨outcome, rfl⟩
    rcases fillFrom_ok run with ⟨_, places⟩
    refine ⟨by simpa using outcome, ?_⟩
    intro row inside
    have placed := places row row.isLt (Nat.zero_le _) (constraints[row].evaluate point)
    simpa [inside] using placed

/-- A problem of expressions keeps to a list of entries if no constraint lacks an expression and no
variable occurs in one without an entry. -/
theorem Formulas.respectsEntries_ofExprs [Elementary R] [Scalar R T] {objective : Expr R}
    {constraints : List (Expr R)} {derivatives : Option (List (Expr R) × List (Expr R))}
    {pairs : List (Fin ng × Fin nx)} (enough : ng ≤ constraints.length)
    (declared : ∀ (row : Fin ng) (column : Fin nx),
      column.val ∈ constraints[row].indices → (row, column) ∈ pairs) :
    RespectsEntries pairs (fun point buffer => (pure ((Formulas.ofExprs objective constraints
      derivatives).evaluate point buffer) : StateM σ (Evaluation T ng))) where
  objective sample sample' := by
    have value := (isSample_ofExprs sample).1
    have value' := (isSample_ofExprs sample').1
    exact Except.ok.inj (value.symm.trans value')
  constraint {point point' rows rows'} row same sample sample' := by
    have inside : row < constraints.length := Nat.lt_of_lt_of_le row.isLt enough
    have value := (isSample_ofExprs sample).2 row inside
    have value' := (isSample_ofExprs sample').2 row inside
    have congruent : constraints[row].evaluate point = constraints[row].evaluate point' := by
      refine Expr.evaluate_congr _ ?_
      intro index occurs
      by_cases named : index < nx
      · have agree := same ⟨index, named⟩ (declared row ⟨index, named⟩ occurs)
        simpa [named] using agree
      · simp [named]
    exact Except.ok.inj (value.symm.trans (congruent.trans value'))

/-! ## A problem of three variables -/

/-- Two constraints: one is the square of the first variable, the other the product of the two that
follow. Derivatives are supplied in the order of `squareAndProductEntries`. -/
def squareAndProduct : Problem Double Unit :=
  (Formulas.ofExprs (.binary .add (.var 0) (.binary .mul (.var 1) (.var 2)))
    [.binary .mul (.var 0) (.var 0), .binary .mul (.var 1) (.var 2)]
    (some ([.constant 1, .var 2, .var 1],
      [.var 1, .binary .add (.var 0) (.var 0), .var 2]))).toProblem

/-- The entries of the square and the product, not in the order of a matrix. -/
def squareAndProductEntries : Entries 2 3 := ⟨[(1, 2), (0, 0), (1, 1)], by decide⟩

end NonlinearProgram
