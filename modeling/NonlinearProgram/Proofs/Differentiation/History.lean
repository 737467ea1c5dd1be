import NonlinearProgram.Proofs.Differentiation.Agreement
import NonlinearProgram.Proofs.Differentiation.Settled

/-!
# Evaluations do not depend on earlier ones

A differentiator keeps its buffers from one evaluation to the next, and a failure leaves them half
written. Nothing of this can be seen: an evaluation reads no buffer that it has not written before,
on any path, so that the caller gets what a new differentiator gives.

The buffers are followed by what each computation settles. A joint perturbation settles differences
and divisors, a pass of a loop its column, and a whole loop all columns, as every variable has a
colour. What is delivered is made of these; the gradient of a sparse layout stands in the caller's
own buffer.
-/

namespace NonlinearProgram

open Scratch

variable {R σ : Type} {nx ng nj groups : Nat}

namespace Sampling

/-! ## Single writes -/

section Writes

variable {needed : Set (Part nx groups)}

/-- The divisors of some variables. -/
def divisorParts (columns : List (Fin nx)) : Set (Part nx groups) :=
  {part | ∃ column ∈ columns, part = .divisor column}

theorem settles_setDivisors (columns : List (Fin nx)) (divisor : Fin nx → R) :
    Settles needed (divisorParts columns)
      (setDivisors columns divisor : Sampling R σ nx ng groups Unit) := by
  apply Settles.modify
  · rintro left right _ _ ⟨column, member, rfl⟩
    change (alter columns left.divisors _).get column = (alter columns right.divisors _).get column
    rw [get_alter, get_alter, if_pos member, if_pos member]
  · intro scratch part outside
    cases part
    case divisor column =>
      change (alter columns scratch.divisors _).get column = scratch.divisors.get column
      rw [get_alter, if_neg fun member => outside ⟨column, member, rfl⟩]
    all_goals exact rfl

theorem settles_setRaw {value : Scratch R σ nx ng groups → Vector R (ng + 1)}
    (same : ∀ {left right}, AgreeOn needed left right → value left = value right) :
    Settles needed {.raw} (modify fun scratch => { scratch with raw := value scratch }) := by
  apply Settles.modify
  · rintro left right agree _ rfl
    exact same agree
  · intro scratch part outside
    cases part
    case raw => exact absurd rfl outside
    all_goals exact rfl

theorem settles_setRows {value : Scratch R σ nx ng groups → Vector R (ng + 1)}
    (same : ∀ {left right}, AgreeOn needed left right → value left = value right) :
    Settles needed {.rows} (modify fun scratch => { scratch with rows := value scratch }) := by
  apply Settles.modify
  · rintro left right agree _ rfl
    exact same agree
  · intro scratch part outside
    cases part
    case rows => exact absurd rfl outside
    all_goals exact rfl

theorem settles_setSweep (group : Fin groups) {value : Scratch R σ nx ng groups → Vector R (ng + 1)}
    (same : ∀ {left right}, AgreeOn needed left right → value left = value right) :
    Settles needed {.sweep group} (modify fun scratch =>
      { scratch with jacobian := scratch.jacobian.set group (value scratch) group.isLt }) := by
  apply Settles.modify
  · rintro left right agree _ rfl
    change (left.jacobian.set group (value left) group.isLt).get group =
      (right.jacobian.set group (value right) group.isLt).get group
    rw [get_set, get_set, if_pos rfl, if_pos rfl]
    exact same agree
  · intro scratch part outside
    cases part
    case sweep other =>
      change (scratch.jacobian.set group (value scratch) group.isLt).get other =
        scratch.jacobian.get other
      rw [get_set, if_neg]
      rintro rfl
      exact outside rfl
    all_goals exact rfl

/-- The gradient is written entry by entry, so it has to be the same before. -/
theorem settles_setGradient (column : Fin nx) {value : Scratch R σ nx ng groups → R}
    (gradient : .gradient ∈ needed)
    (same : ∀ {left right}, AgreeOn needed left right → value left = value right) :
    Settles needed {.gradient} (modify fun scratch =>
      { scratch with gradient := scratch.gradient.set column (value scratch) column.isLt }) := by
  apply Settles.modify
  · rintro left right agree _ rfl
    have before : left.gradient = right.gradient := agree _ gradient
    change left.gradient.set column (value left) column.isLt =
      right.gradient.set column (value right) column.isLt
    rw [before, same agree]
  · intro scratch part outside
    cases part
    case gradient => exact absurd rfl outside
    all_goals exact rfl

/-- What a joint perturbation leaves: its differences, and the divisors of its variables. -/
def jointParts (columns : List (Fin nx)) : Set (Part nx groups) :=
  {.raw} ∪ divisorParts columns

/-- After the perturbation of one variable its quotients are the same. -/
theorem joint_same {column : Fin nx} {left right : Scratch R σ nx ng groups}
    (agree : AgreeOn (needed ∪ jointParts [column]) left right) :
    left.raw = right.raw ∧ left.divisors.get column = right.divisors.get column := by
  constructor
  · exact agree .raw (.inr (.inl rfl))
  · exact agree (.divisor column) (.inr (.inr ⟨column, List.mem_singleton_self column, rfl⟩))

end Writes

/-! ## Differences -/

section Differences

variable [Arith R] [Precision R] {problem : Problem R σ} {needed : Set (Part nx groups)}
variable {scheme : Scheme} {x : Vector R nx} {base : Vector R (ng + 1)}

theorem settles_jointDifference (determined : problem.IsDetermined nx ng nj)
    (columns : List (Fin nx)) :
    Settles needed (jointParts columns)
      (jointDifference problem x columns scheme base : Sampling R σ nx ng groups Unit) := by
  cases scheme with
  | forward =>
      refine Settles.mono ((settles_setDivisors columns _).bind fun _ =>
        (settles_samplePlus determined _).bind fun _ => settles_setRaw ?_) subset_rfl ?_
      · intro left right agree
        have plus : left.plus = right.plus := agree .plus (.inr rfl)
        rw [plus]
      · rintro part (isRaw | isDivisor)
        · exact .inr (.inr isRaw)
        · exact .inl isDivisor
  | central =>
      refine Settles.mono ((settles_samplePlus determined _).bind fun _ =>
        (settles_sampleMinus determined _).bind fun _ =>
        (settles_setDivisors columns _).bind fun _ => settles_setRaw ?_) subset_rfl ?_
      · intro left right agree
        have plus : left.plus = right.plus := agree .plus (.inl (.inl (.inr rfl)))
        have minus : left.minus = right.minus := agree .minus (.inl (.inr rfl))
        rw [plus, minus]
      · rintro part (isRaw | isDivisor)
        · exact .inr (.inr (.inr isRaw))
        · exact .inr (.inr (.inl isDivisor))
  | complexStep =>
      refine Settles.mono ((settles_setDivisors columns _).bind fun _ =>
        (settles_sampleComplex determined _).bind fun _ => settles_setRaw ?_) subset_rfl ?_
      · intro left right agree
        have rows : left.complexRows = right.complexRows := agree .complexRows (.inr rfl)
        rw [rows]
      · rintro part (isRaw | isDivisor)
        · exact .inr (.inr isRaw)
        · exact .inl isDivisor

/-- What an evaluation with derivatives delivers: the function rows and all sweeps. -/
def resultParts : Set (Part nx groups) := {part | part = .rows ∨ ∃ group, part = .sweep group}

theorem settles_differenceJacobian {needed : Set (Part nx nx)}
    (determined : problem.IsDetermined nx ng nj) :
    Settles needed resultParts
      (differenceJacobian problem scheme x : Sampling R σ nx ng nx Unit) := by
  refine Settles.mono ((settles_sampleRows determined x).bind fun _ => Settles.get_bind ?_
    fun scratch => Settles.forM fun column _ =>
      (settles_jointDifference determined [column]).bind fun _ => settles_setSweep column ?_)
    subset_rfl ?_
  · intro left right agree
    have rows : left.rows = right.rows := agree .rows (.inr rfl)
    simp only [rows]
  · intro left right agree
    obtain ⟨raw, divisor⟩ := joint_same agree
    rw [raw, divisor]
  · rintro part (isRows | ⟨column, isSweep⟩)
    · exact .inl isRows
    · exact .inr ⟨column, List.mem_finRange column, .inr isSweep⟩

theorem settles_differenceGradient (determined : problem.IsDetermined nx ng nj)
    (gradient : .gradient ∈ needed) :
    Settles needed ∅
      (differenceGradient problem scheme x base : Sampling R σ nx ng groups Unit) := by
  refine Settles.mono (Settles.forM fun column _ =>
    (settles_jointDifference determined [column]).bind fun _ =>
      settles_setGradient column (.inl gradient) ?_) subset_rfl ?_
  · intro left right agree
    obtain ⟨raw, divisor⟩ := joint_same agree
    rw [raw, divisor]
  · exact Set.empty_subset _

theorem settles_differenceCompressed {coloring : Coloring nx}
    {needed : Set (Part nx coloring.count)} (determined : problem.IsDetermined nx ng nj) :
    Settles needed {part | ∃ color : Fin coloring.count,
        part = .sweep color ∨ part ∈ divisorParts (coloring.columns color)}
      (differenceCompressed problem scheme coloring x base :
        Sampling R σ nx ng coloring.count Unit) := by
  refine Settles.mono (Settles.forM fun color _ =>
      (settles_jointDifference determined (coloring.columns color)).bind fun _ =>
        settles_setSweep color ?_) subset_rfl ?_
  · intro left right agree
    exact agree .raw (.inr (.inl rfl))
  · rintro part ⟨color, isSweep | isDivisor⟩
    · exact ⟨color, List.mem_finRange color, .inr isSweep⟩
    · exact ⟨color, List.mem_finRange color, .inl (.inr isDivisor)⟩

end Differences

/-! ## Sweeps -/

section Sweeps

variable [Arith R] {problem : Problem R σ} {needed : Set (Part nx groups)} {x : Vector R nx}

/-- With at least one sweep the rows are those of the last one. -/
theorem settles_sweepGroups (determined : problem.IsDetermined nx ng nj)
    (columns : Fin groups → List (Fin nx)) (some : groups ≠ 0) :
    Settles needed resultParts
      (sweepGroups problem x columns : Sampling R σ nx ng groups Unit) := by
  let first : Fin groups := ⟨0, Nat.pos_of_ne_zero some⟩
  refine Settles.mono (Settles.bind (Settles.forM fun group _ =>
      (settles_sampleDual determined (seeded x (columns group))).bind fun _ =>
        settles_setSweep group ?_) fun _ => settles_setRows ?_) subset_rfl ?_
  · intro left right agree
    have rows : left.dualRows = right.dualRows := agree .dualRows (.inr rfl)
    rw [rows]
  · intro left right agree
    have rows : left.dualRows = right.dualRows :=
      agree .dualRows (.inr ⟨first, List.mem_finRange first, .inl rfl⟩)
    rw [rows]
  · rintro part (isRows | ⟨group, isSweep⟩)
    · exact .inr isRows
    · exact .inl ⟨group, List.mem_finRange group, .inr isSweep⟩

/-- Without a variable to seed there is no sweep, and the rows are sampled. -/
theorem settles_sweeps (determined : problem.IsDetermined nx ng nj)
    (columns : Fin groups → List (Fin nx)) :
    Settles needed resultParts (if groups = 0 then sampleRows problem x
      else sweepGroups problem x columns : Sampling R σ nx ng groups Unit) := by
  split
  case isTrue none =>
    refine (settles_sampleRows determined x).mono subset_rfl ?_
    rintro part (isRows | ⟨group, _⟩)
    · exact isRows
    · exact absurd group.isLt (by omega)
  case isFalse some => exact settles_sweepGroups determined columns some

end Sweeps

section Results

variable [Arith R] [Precision R] {problem : Problem R σ} {x : Vector R nx}

theorem settles_jacobian (determined : problem.IsDetermined nx ng nj) (scheme? : Option Scheme) :
    Settles ∅ resultParts (jacobian problem scheme? x : Sampling R σ nx ng nx Unit) := by
  cases scheme? with
  | none => exact settles_sweeps determined fun column => [column]
  | some scheme => exact settles_differenceJacobian determined

theorem settles_compressed (determined : problem.IsDetermined nx ng nj) (scheme? : Option Scheme)
    {coloring : Coloring nx}
    (colored : ∀ column : Fin nx, coloring.colors.get column < coloring.count) :
    Settles {.gradient} resultParts (compressed problem scheme? coloring x :
      Sampling R σ nx ng coloring.count (Vector R nx)) := by
  cases scheme? with
  | none =>
      refine Settles.mono ((settles_sweeps determined fun color => coloring.columns color).bind
        fun _ => Settles.get_bind ?_ fun scratch =>
          (settles_differenceGradient determined (.inl rfl)).bind fun _ => Settles.pure _)
        subset_rfl ?_
      · intro left right agree
        have rows : left.rows = right.rows := agree .rows (.inr (.inl rfl))
        simp only [rows]
      · exact Set.subset_union_left
  | some scheme =>
      refine Settles.mono ((settles_sampleRows determined x).bind fun _ => Settles.get_bind ?_
        fun scratch => (settles_differenceGradient determined (.inl rfl)).bind fun _ =>
          (settles_differenceCompressed determined).bind fun _ => Settles.get_bind ?_ fun scratch =>
            Settles.pure _) subset_rfl ?_
      · intro left right agree
        have rows : left.rows = right.rows := agree .rows (.inr rfl)
        simp only [rows]
      · intro left right agree
        have divisors : left.divisors = right.divisors := by
          apply agree.divisors_eq
          intro column
          let color : Fin coloring.count := ⟨coloring.colors.get column, colored column⟩
          exact .inr ⟨color, .inr ⟨column, (coloring.mem_columns color.isLt column).2 rfl, rfl⟩⟩
        rw [divisors]
      · rintro part (isRows | ⟨color, isSweep⟩)
        · exact .inl isRows
        · exact .inr (.inr (.inl ⟨color, .inl isSweep⟩))

end Results

end Sampling

/-! ## Evaluations -/

/-- Two evaluations give their callers the same result and leave the same in the buffers they were
lent, whatever they keep. -/
def SameAnswer {α β γ : Type} (left right : α × β × γ) : Prop :=
  left.1 = right.1 ∧ left.2.1 = right.2.1

/-- Every variable belongs to one of the sweeps of a layout. -/
def Layout.IsCovered : Layout nx ng → Prop
  | .dense => True
  | .sparse _ coloring => ∀ column : Fin nx, coloring.colors.get column < coloring.count

section Evaluations

open Sampling

variable [Arith R] {problem : Problem R σ}

theorem evaluateValues_same (determined : problem.IsDetermined nx ng nj) (x : Vector R nx)
    (target : Buffers R nx ng nj) (memory memory' : Scratch R σ nx ng groups) :
    SameAnswer (evaluateValues problem x target memory)
      (evaluateValues problem x target memory') := by
  have settles : Settles ∅ {.rows} (sampleRows problem x : Sampling R σ nx ng groups Unit) :=
    settles_sampleRows determined x
  have start : AgreeOn ∅ memory memory' := nofun
  rw [evaluateValues, evaluateValues]
  obtain ⟨_, _, _, ran, ran', _⟩ | ⟨_, left, right, ran, ran', agree⟩ :=
    settles.ends subset_rfl start
  · rw [ran, ran']
    exact ⟨rfl, rfl⟩
  · have rows : left.rows = right.rows := agree .rows (.inr rfl)
    rw [ran, ran']
    simp only [rows]
    exact ⟨rfl, rfl⟩

theorem evaluateSupplied_same (determined : problem.IsDetermined nx ng nj) (x : Vector R nx)
    (target : Buffers R nx ng nj) (needDerivatives : Bool)
    (memory memory' : Scratch R σ nx ng groups) :
    SameAnswer (evaluateSupplied problem x target needDerivatives memory)
      (evaluateSupplied problem x target needDerivatives memory') := by
  unfold evaluateSupplied
  cases needDerivatives with
  | true =>
      have same := determined.supplied x target memory.state memory'.state
      generalize problem.evaluateWithDerivatives x target memory.state = ran at same ⊢
      generalize problem.evaluateWithDerivatives x target memory'.state = ran' at same ⊢
      rcases ran with ⟨answer, _⟩
      rcases ran' with ⟨answer', _⟩
      obtain rfl : answer = answer' := same
      exact ⟨rfl, rfl⟩
  | false =>
      obtain ⟨effect, has⟩ := determined.real x
      have same := (has target.g memory.state).trans (has target.g memory'.state).symm
      generalize problem.real x target.g memory.state = ran at same ⊢
      generalize problem.real x target.g memory'.state = ran' at same ⊢
      rcases ran with ⟨evaluation, _⟩
      rcases ran' with ⟨evaluation', _⟩
      obtain rfl : evaluation = evaluation' := same
      exact ⟨rfl, rfl⟩

variable [Precision R]

theorem evaluateDense_same (determined : problem.IsDetermined nx ng nj) (scheme? : Option Scheme)
    (x : Vector R nx) (target : Buffers R nx ng (nx * ng)) (memory memory' : Scratch R σ nx ng nx) :
    SameAnswer (evaluateDense problem scheme? x target memory)
      (evaluateDense problem scheme? x target memory') := by
  have start : AgreeOn ∅ memory memory' := nofun
  rw [evaluateDense, evaluateDense]
  obtain ⟨_, _, _, ran, ran', _⟩ | ⟨_, left, right, ran, ran', agree⟩ :=
    (settles_jacobian determined scheme?).ends subset_rfl start
  · rw [ran, ran']
    exact ⟨rfl, rfl⟩
  · have rows : left.rows = right.rows := agree .rows (.inr (.inl rfl))
    have jacobian : left.jacobian = right.jacobian :=
      agree.jacobian_eq fun column => .inr (.inr ⟨column, rfl⟩)
    rw [ran, ran']
    simp only [rows, jacobian]
    exact ⟨rfl, rfl⟩

theorem evaluateSparse_same (determined : problem.IsDetermined nx ng nj) (scheme? : Option Scheme)
    {entries : Entries ng nx} {coloring : Coloring nx}
    (colored : ∀ column : Fin nx, coloring.colors.get column < coloring.count) (x : Vector R nx)
    (target : Buffers R nx ng entries.pairs.length)
    (memory memory' : Scratch R σ nx ng coloring.count) :
    SameAnswer (evaluateSparse problem scheme? entries coloring x target memory)
      (evaluateSparse problem scheme? entries coloring x target memory') := by
  -- The gradient is written into the caller's buffer, so it is known from the start.
  have start : AgreeOn {.gradient} { memory with gradient := target.df }
      { memory' with gradient := target.df } := by
    rintro _ rfl
    rfl
  rw [evaluateSparse, evaluateSparse]
  obtain ⟨_, left, right, ran, ran', agree⟩ | ⟨_, left, right, ran, ran', agree⟩ :=
    (settles_compressed determined scheme? colored).ends subset_rfl start
  · have gradient : left.gradient = right.gradient := agree .gradient rfl
    rw [ran, ran']
    simp only [gradient]
    exact ⟨rfl, rfl⟩
  · have rows : left.rows = right.rows := agree .rows (.inr (.inl rfl))
    have gradient : left.gradient = right.gradient := agree .gradient (.inl rfl)
    have jacobian : left.jacobian = right.jacobian :=
      agree.jacobian_eq fun color => .inr (.inr ⟨color, rfl⟩)
    rw [ran, ran']
    simp only [rows, gradient, jacobian]
    exact ⟨rfl, rfl⟩

theorem evaluateLayout_same (determined : problem.IsDetermined nx ng nj) (scheme? : Option Scheme)
    (x : Vector R nx) {layout : Layout nx ng} (covered : layout.IsCovered)
    (target : Buffers R nx ng layout.length) (memory memory' : Scratch R σ nx ng layout.sweeps) :
    SameAnswer (evaluateLayout problem scheme? x layout target memory)
      (evaluateLayout problem scheme? x layout target memory') := by
  cases layout with
  | dense => exact evaluateDense_same determined scheme? x target memory memory'
  | sparse entries coloring =>
      exact evaluateSparse_same determined scheme? covered x target memory memory'

end Evaluations

/-! ## Differentiators -/

namespace Differentiator

/-- The sweeps of a differentiator that is built cover all variables. -/
theorem isCovered_of_build {problem : Problem R σ} {pattern : Pattern} {method : Method}
    {differentiator : Differentiator R σ}
    (built : build problem pattern method = .ok differentiator) :
    differentiator.layout.IsCovered := by
  rcases cases_of_build built with ⟨_, _, _, rfl⟩ | ⟨_, _, entries, _, rfl⟩
  · trivial
  · exact (Coloring.greedy_firstFit entries.pairs).color_lt

variable [Arith R] [Precision R]

/-- What an evaluation answers does not depend on what the buffers held before. -/
theorem evaluate_same {differentiator : Differentiator R σ}
    (covered : differentiator.layout.IsCovered)
    (determined : differentiator.problem.IsDetermined differentiator.dims.nx differentiator.dims.ng
      differentiator.layout.length)
    (x : Vector R differentiator.dims.nx) (target : differentiator.Target) (needDerivatives : Bool)
    (memory memory' : differentiator.Memory) :
    SameAnswer (differentiator.evaluate x target needDerivatives memory)
      (differentiator.evaluate x target needDerivatives memory') := by
  rw [evaluate, evaluate]
  split
  case isTrue => exact evaluateSupplied_same determined x target needDerivatives memory memory'
  case isFalse =>
    cases needDerivatives with
    | true => exact evaluateLayout_same determined _ x covered target memory memory'
    | false => exact evaluateValues_same determined x target memory memory'

/-- One call of a differentiator. -/
structure Request (differentiator : Differentiator R σ) where
  x : Vector R differentiator.dims.nx
  target : differentiator.Target
  needDerivatives : Bool

/-- What comes of a call: its result, the buffers it was lent, and what is kept for later. -/
def answer (differentiator : Differentiator R σ) (memory : differentiator.Memory)
    (call : differentiator.Request) :
    Except EvaluationFailure R × differentiator.Target × differentiator.Memory :=
  differentiator.evaluate call.x call.target call.needDerivatives memory

/-- What a differentiator keeps after some calls, each of which may have failed. -/
def memoryAfter (differentiator : Differentiator R σ) (memory : differentiator.Memory)
    (calls : List differentiator.Request) : differentiator.Memory :=
  calls.foldl (fun memory call => (differentiator.answer memory call).2.2) memory

/-- A differentiator that has been used, whatever for and whether it succeeded, answers like one
that is new. -/
theorem answer_memoryAfter {problem : Problem R σ} {pattern : Pattern} {method : Method}
    {differentiator : Differentiator R σ}
    (built : build problem pattern method = .ok differentiator)
    (determined : problem.IsDetermined differentiator.dims.nx differentiator.dims.ng
      differentiator.layout.length)
    (calls : List differentiator.Request) (state state' : σ) (call : differentiator.Request) :
    let used := differentiator.answer (differentiator.memoryAfter (.fresh state) calls) call
    let fresh := differentiator.answer (.fresh state') call
    used.1 = fresh.1 ∧ used.2.1 = fresh.2.1 := by
  have same : differentiator.problem = problem := problem_of_build built
  rw [← same] at determined
  exact evaluate_same (isCovered_of_build built) determined call.x call.target call.needDerivatives
    _ _

theorem isDetermined_squareAndProduct {nj : Nat} : squareAndProduct.IsDetermined 3 2 nj :=
  Formulas.isDetermined _ (fun _ => by simp [Formulas.ofExprs])

/-- Derivatives at a point where the square overflows. -/
def overflowCall : (onSparse squareAndProduct squareAndProductEntries .centralDifference).Request :=
  ⟨#v[1e200, 2.0, 3.0], ⟨.replicate 2 0, .replicate 3 0, .replicate 3 0⟩, true⟩

/-- Derivatives at a point where nothing overflows. -/
def ordinaryCall : (onSparse squareAndProduct squareAndProductEntries .centralDifference).Request :=
  ⟨#v[1.0, 2.0, 3.0], ⟨.replicate 2 1, .replicate 3 1, .replicate 3 1⟩, true⟩

theorem squareAndProduct_overflow_isOk_eq_false :
    ((onSparse squareAndProduct squareAndProductEntries .centralDifference).evaluate
      #v[1e200, 2.0, 3.0] ⟨.replicate 2 0, .replicate 3 0, .replicate 3 0⟩ true
      (.fresh ())).1.isOk = false := by
  have colored := greedy_squareAndProductEntries
  unfold onSparse
  generalize Coloring.greedy squareAndProductEntries.pairs = coloring at colored
  subst colored
  decide +kernel

theorem answer_after_overflow :
    let differentiator := onSparse squareAndProduct squareAndProductEntries .centralDifference
    let memory := differentiator.memoryAfter (.fresh ()) [ordinaryCall, overflowCall]
    let used := differentiator.answer memory ordinaryCall
    let fresh := differentiator.answer (.fresh ()) ordinaryCall
    build squareAndProduct (.sparse 2 3 squareAndProductEntries) .centralDifference =
        .ok differentiator ∧
      squareAndProduct.IsDetermined 3 2 3 ∧
      (differentiator.answer (.fresh ()) overflowCall).1.isOk = false ∧
      fresh.1.isOk ∧ used.1 = fresh.1 ∧ used.2.1 = fresh.2.1 := by
  have built : build squareAndProduct (.sparse 2 3 squareAndProductEntries) .centralDifference =
      .ok (onSparse squareAndProduct squareAndProductEntries .centralDifference) :=
    build_eq_ok.2 ⟨by decide, rfl⟩
  exact ⟨built, isDetermined_squareAndProduct, squareAndProduct_overflow_isOk_eq_false,
    squareAndProduct_sparse_isOk,
    answer_memoryAfter built isDetermined_squareAndProduct [ordinaryCall, overflowCall] () ()
      ordinaryCall⟩

end Differentiator

end NonlinearProgram
