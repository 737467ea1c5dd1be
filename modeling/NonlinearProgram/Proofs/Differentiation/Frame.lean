import NonlinearProgram.Proofs.Differentiation.Delivery
import NonlinearProgram.Proofs.Differentiation.History

/-!
# What an evaluation leaves alone

A computation on the buffers `Keeps` a part of them if this is at the end as it was at the
beginning, whether the computation succeeds or fails. Sequences and loops keep what their steps
keep, at whatever sample they stop.

Values alone never touch derivatives. A failed evaluation hands back the constraint values and
derivatives it was given. Only the gradient of a sparse layout is written on the way: it is formed
between the opening, which gives the function rows, and the closing, which perturbs variables by
colour. So a failure leaves new entries for the variables that were done by then, and the old ones
for the others: `Sampling.FailsAfter`.
-/

namespace NonlinearProgram

variable {R σ : Type} {nx ng groups : Nat}

namespace Sampling

/-! ## Parts of the buffers -/

section Parts

variable {α β γ : Type} {view : Scratch R σ nx ng groups → γ}

/-- However a computation ends, a part of the buffers is as it was. -/
def Keeps (view : Scratch R σ nx ng groups → γ) (computation : Sampling R σ nx ng groups α) :
    Prop :=
  ∀ before, view (computation.run before).2 = view before

namespace Keeps

theorem of_run {computation : Sampling R σ nx ng groups α} (keeps : Keeps view computation)
    {before after : Scratch R σ nx ng groups} {outcome : Except EvaluationFailure α}
    (run : computation.run before = (outcome, after)) : view after = view before := by
  have kept := keeps before
  rwa [run] at kept

theorem of_modify {change : Scratch R σ nx ng groups → Scratch R σ nx ng groups}
    (apart : ∀ scratch, view (change scratch) = view scratch) :
    Keeps view (modify change : Sampling R σ nx ng groups PUnit) :=
  apart

theorem bind {first : Sampling R σ nx ng groups α} {next : α → Sampling R σ nx ng groups β}
    (keeps : Keeps view first) (nextKeeps : ∀ value, Keeps view (next value)) :
    Keeps view (first >>= next) := by
  intro before
  rw [run_bind]
  have kept := keeps before
  rcases ran : first.run before with ⟨failure | value, between⟩ <;> rw [ran] at kept
  · exact kept
  · exact (nextKeeps value between).trans kept

theorem forM {ι : Type} {items : List ι} {body : ι → Sampling R σ nx ng groups PUnit}
    (pass : ∀ item, Keeps view (body item)) : Keeps view (items.forM body) := by
  induction items with
  | nil => exact fun _ => rfl
  | cons item rest ih => exact (pass item).bind fun _ => ih

end Keeps

theorem sample_keeps {T : Type} {isFinite : T → Bool}
    {evaluate : Vector T ng → StateM σ (Evaluation T ng)}
    {buffer : Scratch R σ nx ng groups → Vector T (ng + 1)}
    {store : Scratch R σ nx ng groups → Vector T (ng + 1) → Scratch R σ nx ng groups}
    (apart : ∀ scratch rows state, view { store scratch rows with state } = view scratch) :
    Keeps view (sample isFinite evaluate buffer store) :=
  fun before => apart before _ _

end Parts

/-! ## The gradient of a sparse layout -/

variable [Arith R] [Precision R]

section Gradient

variable {problem : Problem R σ} {scheme : Scheme} {x : Vector R nx} {base : Vector R (ng + 1)}

/-- One variable's pass of the loop that forms the gradient. -/
def differenceEntry (problem : Problem R σ) (scheme : Scheme) (x : Vector R nx)
    (base : Vector R (ng + 1)) (column : Fin nx) : Sampling R σ nx ng groups PUnit := do
  jointDifference problem x [column] scheme base
  modify fun scratch =>
    let quotient := scratch.raw.get objectiveRow / scratch.divisors.get column
    { scratch with gradient := scratch.gradient.set column quotient column.isLt }

theorem differenceGradient_eq_forM :
    (differenceGradient problem scheme x base : Sampling R σ nx ng groups Unit) =
      (List.finRange nx).forM (differenceEntry problem scheme x base) := rfl

/-- The objective's quotient in one variable, where the function rows at the point are `base`. -/
def IsGradientEntry (problem : Problem R σ) (scheme : Scheme) (x : Vector R nx)
    (base : Vector R (ng + 1)) (column : Fin nx) (entry : R) : Prop :=
  ∃ raw, IsTakenDifference problem x [column] scheme base raw ∧
    entry = raw.get objectiveRow / scheme.divisor (x.get column)

/-- Passes that are complete have formed the entries of their variables and no others. -/
theorem differenceEntries_ok {columns : List (Fin nx)} {before after : Scratch R σ nx ng groups}
    (run : (columns.forM (differenceEntry problem scheme x base)).run before = (.ok ⟨⟩, after))
    (column : Fin nx) :
    (column ∈ columns → IsGradientEntry problem scheme x base column (after.gradient.get column)) ∧
      (column ∉ columns → after.gradient.get column = before.gradient.get column) := by
  refine forM_ok_induction (fun done scratch =>
    (column ∈ done → IsGradientEntry problem scheme x base column (scratch.gradient.get column)) ∧
      (column ∉ done → scratch.gradient.get column = before.gradient.get column))
    ⟨fun member => absurd member List.not_mem_nil, fun _ => rfl⟩ ?_ run
  intro done item _ between after earlier pass
  obtain ⟨_, differenced, joint, rfl⟩ := run_bind_modify_eq_ok.1 pass
  obtain ⟨taken, _, _, gradient, _⟩ := jointDifference_ok joint
  rw [get_set]
  by_cases same : item = column
  · obtain rfl := same
    rw [if_pos rfl]
    exact ⟨fun _ => ⟨differenced.raw, taken, by rw [jointDifference_divisor joint]⟩,
      fun other => absurd (by simp) other⟩
  · rw [if_neg same, gradient]
    refine ⟨fun member => earlier.1 ?_, fun other => earlier.2 ?_⟩
    · simpa [Ne.symm same] using member
    · simpa [Ne.symm same] using other

/-- A perturbation leaves the function rows and the gradient alone, however it ends. -/
theorem jointDifference_keeps (columns : List (Fin nx)) :
    Keeps (fun scratch => (scratch.rows, scratch.gradient))
      (jointDifference problem x columns scheme base : Sampling R σ nx ng groups Unit) := by
  cases scheme with
  | forward =>
      refine Keeps.bind (.of_modify fun _ => rfl) fun _ => .bind ?_ fun _ => .of_modify fun _ => rfl
      exact sample_keeps fun _ _ _ => rfl
  | central =>
      refine Keeps.bind (sample_keeps fun _ _ _ => rfl) fun _ => .bind ?_ fun _ => .bind ?_ fun _ =>
        .of_modify fun _ => rfl
      · exact sample_keeps fun _ _ _ => rfl
      · exact .of_modify fun _ => rfl
  | complexStep =>
      refine Keeps.bind (.of_modify fun _ => rfl) fun _ => .bind ?_ fun _ => .of_modify fun _ => rfl
      exact sample_keeps fun _ _ _ => rfl

theorem differenceEntry_keeps (column : Fin nx) :
    Keeps Scratch.rows
      (differenceEntry problem scheme x base column : Sampling R σ nx ng groups PUnit) := by
  refine .bind (fun before => ?_) fun _ => .of_modify fun _ => rfl
  exact (Prod.mk.inj (jointDifference_keeps [column] before)).1

/-- A pass that fails has not come to its entry. -/
theorem differenceEntry_eq_error {failure : EvaluationFailure} {column : Fin nx}
    {before after : Scratch R σ nx ng groups}
    (run : (differenceEntry problem scheme x base column).run before = (.error failure, after)) :
    after.rows = before.rows ∧ after.gradient = before.gradient := by
  rcases run_bind_eq_error.1 run with fails | ⟨_, _, _, run⟩
  · exact Prod.mk.inj ((jointDifference_keeps [column]).of_run fails)
  · cases run

theorem mem_take_finRange {count : Nat} {column : Fin nx} :
    column ∈ (List.finRange nx).take count ↔ column.val < count := by
  rw [List.mem_take_iff_getElem]
  simp only [List.length_finRange, List.getElem_finRange]
  constructor
  · rintro ⟨index, inside, rfl⟩
    exact Nat.lt_of_lt_of_le inside (Nat.min_le_left ..)
  · intro below
    exact ⟨column, Nat.lt_min.2 ⟨below, column.isLt⟩, rfl⟩

/-- The gradient fails in the pass of a variable, those before it being complete. -/
theorem differenceGradient_eq_error {failure : EvaluationFailure}
    {before after : Scratch R σ nx ng groups}
    (run : (differenceGradient problem scheme x base).run before = (.error failure, after)) :
    ∃ (column : Fin nx) (between : Scratch R σ nx ng groups),
      (((List.finRange nx).take column).forM (differenceEntry problem scheme x base)).run before =
          (.ok ⟨⟩, between) ∧
        (differenceEntry problem scheme x base column).run between = (.error failure, after) := by
  rw [differenceGradient_eq_forM] at run
  obtain ⟨index, inside, between, completes, fails⟩ := forM_eq_error run
  rw [List.getElem_finRange] at fails
  exact ⟨_, between, completes, fails⟩

end Gradient

/-! ## Stages of a sparse evaluation -/

section Stages

variable {problem : Problem R σ} {scheme? : Option Scheme} {coloring : Coloring nx}
variable {x : Vector R nx}

/-- What comes before the gradient: the function rows at the point, or the sweeps. -/
def opening (problem : Problem R σ) (scheme? : Option Scheme) (coloring : Coloring nx)
    (x : Vector R nx) : Sampling R σ nx ng coloring.count Unit :=
  if scheme?.isSome then sampleRows problem x else sweepCompressed problem coloring x

/-- What comes after the gradient: the perturbations by colour, if there have been no sweeps. -/
def closing (problem : Problem R σ) (scheme? : Option Scheme) (coloring : Coloring nx)
    (x : Vector R nx) (base : Vector R (ng + 1)) : Sampling R σ nx ng coloring.count Unit :=
  match scheme? with
  | some scheme => differenceCompressed problem scheme coloring x base
  | none => pure ()

/-- Scheme of the gradient: with sweeps, forward differences. -/
abbrev gradientScheme (scheme? : Option Scheme) : Scheme := scheme?.getD .forward

/-- Where an evaluation fails, and for how many variables the gradient is formed by then: none in
the opening, those before the variable whose perturbation fails, all in the closing. -/
inductive FailsAfter (problem : Problem R σ) (scheme? : Option Scheme) (coloring : Coloring nx)
    (x : Vector R nx) (failure : EvaluationFailure)
    (before after : Scratch R σ nx ng coloring.count) : Nat → Prop where
  | opening (fails : (opening problem scheme? coloring x).run before = (.error failure, after)) :
      FailsAfter problem scheme? coloring x failure before after 0
  | gradient (column : Fin nx) {opened between : Scratch R σ nx ng coloring.count}
      (opens : (opening problem scheme? coloring x).run before = (.ok (), opened))
      (completes : (((List.finRange nx).take column).forM
        (differenceEntry problem (gradientScheme scheme?) x opened.rows)).run opened =
          (.ok ⟨⟩, between))
      (fails : (differenceEntry problem (gradientScheme scheme?) x opened.rows column).run between =
        (.error failure, after)) :
      FailsAfter problem scheme? coloring x failure before after column
  | closing {opened formed : Scratch R σ nx ng coloring.count}
      (opens : (opening problem scheme? coloring x).run before = (.ok (), opened))
      (completes : (differenceGradient problem (gradientScheme scheme?) x opened.rows).run opened =
        (.ok ⟨⟩, formed))
      (fails : (closing problem scheme? coloring x opened.rows).run formed =
        (.error failure, after)) :
      FailsAfter problem scheme? coloring x failure before after nx

variable {failure : EvaluationFailure} {before after : Scratch R σ nx ng coloring.count}

/-- An evaluation that fails does so in one of its stages. -/
theorem exists_failsAfter
    (run : (compressed problem scheme? coloring x).run before = (.error failure, after)) :
    ∃ done, FailsAfter problem scheme? coloring x failure before after done := by
  cases scheme? with
  | some scheme =>
      simp only [compressed, run_bind_eq_error, run_get_eq_ok, run_get_ne_error, run_pure_ne_error,
        false_or, and_false, exists_false, or_false] at run
      rcases run with fails | ⟨_, opened, opens, _, _, ⟨rfl, rfl⟩, run⟩
      · exact ⟨0, .opening fails⟩
      rcases run with fails | ⟨_, formed, completes, fails⟩
      · obtain ⟨column, between, completes, fails⟩ := differenceGradient_eq_error fails
        exact ⟨column, .gradient column opens completes fails⟩
      · exact ⟨nx, .closing opens completes fails⟩
  | none =>
      simp only [compressed, run_bind_eq_error, run_get_eq_ok, run_get_ne_error, run_pure_ne_error,
        false_or, and_false, exists_false, or_false] at run
      rcases run with fails | ⟨_, opened, opens, _, _, ⟨rfl, rfl⟩, fails⟩
      · exact ⟨0, .opening fails⟩
      · obtain ⟨column, between, completes, fails⟩ := differenceGradient_eq_error fails
        exact ⟨column, .gradient column opens completes fails⟩

omit [Precision R] in
theorem opening_keeps :
    Keeps Scratch.gradient
      (opening problem scheme? coloring x : Sampling R σ nx ng coloring.count Unit) := by
  rw [opening]
  split
  case isTrue => exact sample_keeps fun _ _ _ => rfl
  case isFalse =>
    rw [sweepCompressed]
    split
    case isTrue => exact sample_keeps fun _ _ _ => rfl
    case isFalse =>
      refine .bind (.forM fun group => .bind ?_ fun _ => .of_modify fun _ => rfl) fun _ =>
        .of_modify fun _ => rfl
      exact sample_keeps fun _ _ _ => rfl

theorem closing_keeps (base : Vector R (ng + 1)) :
    Keeps (fun scratch => (scratch.rows, scratch.gradient))
      (closing problem scheme? coloring x base : Sampling R σ nx ng coloring.count Unit) := by
  cases scheme? with
  | some scheme =>
      exact .forM fun color => (jointDifference_keeps _).bind fun _ => .of_modify fun _ => rfl
  | none => exact fun _ => rfl

/-- The gradient consists of new entries for the variables that are done, and of the old ones. -/
def IsPartialGradient (problem : Problem R σ) (scheme : Scheme) (x : Vector R nx)
    (base : Vector R (ng + 1)) (done : Nat) (old gradient : Vector R nx) : Prop :=
  ∀ column : Fin nx,
    if column < done then IsGradientEntry problem scheme x base column (gradient.get column)
    else gradient.get column = old.get column

theorem FailsAfter.isPartialGradient {done : Nat}
    (fails : FailsAfter problem scheme? coloring x failure before after done) :
    IsPartialGradient problem (gradientScheme scheme?) x after.rows done before.gradient
      after.gradient := by
  cases fails with
  | opening fails =>
      intro column
      rw [if_neg (Nat.not_lt_zero _), opening_keeps.of_run fails]
  | gradient last opens completes fails =>
      obtain ⟨rows, gradient⟩ := differenceEntry_eq_error fails
      have rows' := (Keeps.forM differenceEntry_keeps).of_run completes
      rw [rows, rows', gradient, ← opening_keeps.of_run opens]
      intro column
      have formed := differenceEntries_ok completes column
      rw [mem_take_finRange] at formed
      split
      case isTrue earlier => exact formed.1 earlier
      case isFalse later => exact formed.2 later
  | closing opens completes fails =>
      obtain ⟨rows, gradient⟩ := Prod.mk.inj ((closing_keeps _).of_run fails)
      rw [differenceGradient_eq_forM] at completes
      have rows' := (Keeps.forM differenceEntry_keeps).of_run completes
      rw [rows, rows', gradient]
      intro column
      rw [if_pos column.isLt]
      exact (differenceEntries_ok completes column).1 (List.mem_finRange column)

end Stages

end Sampling

/-! ## Evaluations -/

open Sampling

section Evaluations

variable [Arith R] {problem : Problem R σ} {x : Vector R nx}

/-- Values alone leave derivatives as they are, and a failure leaves everything. -/
theorem evaluateValues_frame {nj : Nat} (target : Buffers R nx ng nj)
    (memory : Scratch R σ nx ng groups) :
    let evaluated := evaluateValues problem x target memory
    (evaluated.2.1.df = target.df ∧ evaluated.2.1.dg = target.dg) ∧
      ∀ failure, evaluated.1 = .error failure → evaluated.2.1 = target := by
  rw [evaluateValues]
  rcases (sampleRows problem x).run memory with ⟨failure | value, after⟩
  · exact ⟨⟨rfl, rfl⟩, fun _ _ => rfl⟩
  · refine ⟨⟨rfl, rfl⟩, ?_⟩
    intro _ fails
    cases fails

variable [Precision R] {scheme? : Option Scheme} {failure : EvaluationFailure}

theorem evaluateDense_eq_error {target written : Buffers R nx ng (nx * ng)}
    {before after : Scratch R σ nx ng nx}
    (run : evaluateDense problem scheme? x target before = (.error failure, written, after)) :
    written = target := by
  rw [evaluateDense] at run
  split at run
  case h_1 => exact (Prod.mk.inj (Prod.mk.inj run).2).1.symm
  case h_2 => cases run

theorem evaluateSparse_eq_error {entries : Entries ng nx} {coloring : Coloring nx}
    {target written : Buffers R nx ng entries.pairs.length}
    {before after : Scratch R σ nx ng coloring.count}
    (run : evaluateSparse problem scheme? entries coloring x target before =
      (.error failure, written, after)) :
    (compressed problem scheme? coloring x).run { before with gradient := target.df } =
        (.error failure, after) ∧
      written = { target with df := after.gradient } := by
  rw [evaluateSparse] at run
  split at run
  case h_1 fails =>
    cases run
    exact ⟨fails, rfl⟩
  case h_2 => cases run

/-- What is left of the gradient when derivatives fail: all of it in a dense layout, and in a sparse
one the entries of the variables that were not done. -/
def Layout.IsGradientAfterFailure (problem : Problem R σ) (scheme? : Option Scheme)
    (x : Vector R nx) (failure : EvaluationFailure) : (layout : Layout nx ng) →
      (before after : Scratch R σ nx ng layout.sweeps) → (old gradient : Vector R nx) → Prop
  | .dense, _, _, old, gradient => gradient = old
  | .sparse _ coloring, before, after, old, gradient =>
      ∃ done, FailsAfter problem scheme? coloring x failure { before with gradient := old } after
          done ∧
        IsPartialGradient problem (gradientScheme scheme?) x after.rows done old gradient

theorem evaluateLayout_eq_error {layout : Layout nx ng}
    {target written : Buffers R nx ng layout.length}
    {before after : Scratch R σ nx ng layout.sweeps}
    (run : evaluateLayout problem scheme? x layout target before =
      (.error failure, written, after)) :
    written.g = target.g ∧ written.dg = target.dg ∧
      layout.IsGradientAfterFailure problem scheme? x failure before after target.df
        written.df := by
  cases layout with
  | dense =>
      obtain rfl := evaluateDense_eq_error run
      exact ⟨rfl, rfl, rfl⟩
  | sparse entries coloring =>
      obtain ⟨formed, rfl⟩ := evaluateSparse_eq_error run
      obtain ⟨done, fails⟩ := exists_failsAfter formed
      exact ⟨rfl, rfl, done, fails, fails.isPartialGradient⟩

namespace Differentiator

theorem evaluate_values_of_ne_supplied {differentiator : Differentiator R σ}
    (unsupplied : differentiator.method ≠ .supplied) (x : Vector R differentiator.dims.nx)
    (target : differentiator.Target) (memory : differentiator.Memory) :
    differentiator.evaluate x target false memory =
      evaluateValues differentiator.problem x target memory := by
  rw [evaluate, if_neg unsupplied, if_neg Bool.false_ne_true]

/-- Values alone leave derivatives as they are, by whatever method. -/
theorem evaluate_values_derivatives (differentiator : Differentiator R σ)
    (x : Vector R differentiator.dims.nx) (target : differentiator.Target)
    (memory : differentiator.Memory) :
    (differentiator.evaluate x target false memory).2.1.df = target.df ∧
      (differentiator.evaluate x target false memory).2.1.dg = target.dg := by
  by_cases supplied : differentiator.method = .supplied
  · rw [evaluate, if_pos supplied]
    exact ⟨rfl, rfl⟩
  · rw [evaluate_values_of_ne_supplied supplied]
    exact (evaluateValues_frame target memory).1

/-- Values alone never touch derivatives. A failure leaves the constraint values and derivatives as
they were, unless they are supplied; of the gradient it leaves what was not yet formed. -/
theorem evaluate_frame (differentiator : Differentiator R σ)
    (x : Vector R differentiator.dims.nx) (target : differentiator.Target) (needDerivatives : Bool)
    (memory : differentiator.Memory) :
    let evaluated := differentiator.evaluate x target needDerivatives memory
    (needDerivatives = false →
        evaluated.2.1.df = target.df ∧ evaluated.2.1.dg = target.dg) ∧
      (differentiator.method ≠ .supplied → ∀ failure, evaluated.1 = .error failure →
        evaluated.2.1.g = target.g ∧ evaluated.2.1.dg = target.dg ∧
          (needDerivatives = true →
            differentiator.layout.IsGradientAfterFailure differentiator.problem
              differentiator.method.scheme? x failure memory evaluated.2.2 target.df
              evaluated.2.1.df)) := by
  intro evaluated
  refine ⟨?_, fun unsupplied failure fails => ?_⟩
  · rintro rfl
    exact differentiator.evaluate_values_derivatives x target memory
  · cases needDerivatives with
    | false =>
        have values : evaluated = evaluateValues differentiator.problem x target memory :=
          evaluate_values_of_ne_supplied unsupplied x target memory
        rw [values] at fails ⊢
        rw [(evaluateValues_frame target memory).2 failure fails]
        exact ⟨rfl, rfl, nofun⟩
    | true =>
        have run : evaluateLayout differentiator.problem differentiator.method.scheme? x
            differentiator.layout target memory = (.error failure, evaluated.2) := by
          rw [← evaluate_of_ne_supplied unsupplied, ← fails]
        obtain ⟨g, dg, df⟩ := evaluateLayout_eq_error run
        exact ⟨g, dg, fun _ => df⟩

/-- Derivatives at a point where a step in the second variable overflows. -/
def interruptedCall :
    (onSparse squareAndProduct squareAndProductEntries .centralDifference).Request :=
  ⟨#v[1.0, 1.79769e308, 1.0], ⟨.replicate 2 7.0, .replicate 3 7.0, .replicate 3 7.0⟩, true⟩

/-- The step in the first variable does not overflow, so its entry is new. -/
theorem answer_interruptedCall :
    let differentiator := onSparse squareAndProduct squareAndProductEntries .centralDifference
    let answered := differentiator.answer (.fresh ()) interruptedCall
    answered.1.isOk = false ∧ answered.2.1.df.toList == [0.0, 7.0, 7.0] := by
  have colored := greedy_squareAndProductEntries
  -- Sorting the columns does not reduce, so the colouring is put in by hand.
  unfold answer interruptedCall onSparse
  generalize Coloring.greedy squareAndProductEntries.pairs = coloring at colored
  subst colored
  decide +kernel

theorem evaluate_frame_interruptedCall :
    let differentiator := onSparse squareAndProduct squareAndProductEntries .centralDifference
    let answered := differentiator.answer (.fresh ()) interruptedCall
    answered.1.isOk = false ∧ answered.2.1.g = interruptedCall.target.g ∧
      answered.2.1.dg = interruptedCall.target.dg := by
  intro differentiator answered
  have isError : answered.1.isOk = false := answer_interruptedCall.1
  have evaluated : answered = differentiator.evaluate interruptedCall.x interruptedCall.target true
      (.fresh ()) := rfl
  refine ⟨isError, ?_⟩
  rcases outcome : answered.1 with failure | objective
  · have frame := differentiator.evaluate_frame interruptedCall.x interruptedCall.target true
      (.fresh ())
    rw [evaluated] at outcome ⊢
    obtain ⟨g, dg, _⟩ := frame.2 nofun failure outcome
    exact ⟨g, dg⟩
  · rw [outcome] at isError
    cases isError

end Differentiator

end Evaluations

end NonlinearProgram
