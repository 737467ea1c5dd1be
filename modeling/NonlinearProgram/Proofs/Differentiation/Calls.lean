import NonlinearProgram.Proofs.Differentiation.Agreement
import NonlinearProgram.Proofs.Differentiation.Build
import NonlinearProgram.Proofs.Differentiation.Sampling
import NonlinearProgram.Proofs.Pattern.FirstFit

/-!
# How often an evaluation calls the problem

A problem that keeps a tally is charged for each call when it is made, whatever comes of it. A
computation `Makes` some calls if it raises the tally by these when it succeeds, and by no more of
any kind when it fails. The calls of a sequence add up, and those of a loop are those of a pass
times the number of passes, so that the calls of an evaluation are known before it begins:
`Method.calls`.
-/

namespace NonlinearProgram

/-! ## Tallies -/

attribute [ext] Tally

namespace Tally

instance : Add Tally where
  add left right :=
    ⟨left.real + right.real, left.dual + right.dual, left.complex + right.complex,
      left.derivatives + right.derivatives⟩

instance : HMul Nat Tally Tally where
  hMul count calls :=
    ⟨count * calls.real, count * calls.dual, count * calls.complex, count * calls.derivatives⟩

instance : LE Tally where
  le left right :=
    left.real ≤ right.real ∧ left.dual ≤ right.dual ∧ left.complex ≤ right.complex ∧
      left.derivatives ≤ right.derivatives

theorem add_def (left right : Tally) :
    left + right =
      ⟨left.real + right.real, left.dual + right.dual, left.complex + right.complex,
        left.derivatives + right.derivatives⟩ := rfl

theorem mul_def (count : Nat) (calls : Tally) :
    count * calls =
      ⟨count * calls.real, count * calls.dual, count * calls.complex,
        count * calls.derivatives⟩ := rfl

theorem le_def (left right : Tally) :
    left ≤ right ↔ left.real ≤ right.real ∧ left.dual ≤ right.dual ∧
      left.complex ≤ right.complex ∧ left.derivatives ≤ right.derivatives := Iff.rfl

theorem add_none (tally : Tally) : tally + {} = tally := rfl

theorem add_assoc (first second third : Tally) :
    first + second + third = first + (second + third) := by
  simp only [add_def, Nat.add_assoc]

theorem none_mul (calls : Tally) : 0 * calls = {} := by simp [mul_def]

theorem succ_mul (count : Nat) (calls : Tally) : (count + 1) * calls = calls + count * calls := by
  simp only [mul_def, add_def, Nat.add_mul, Nat.one_mul, Nat.add_comm]

theorem le_refl (tally : Tally) : tally ≤ tally := by simp [le_def]

theorem le_trans {first second third : Tally} (below : first ≤ second) (below' : second ≤ third) :
    first ≤ third := by
  rw [le_def] at *
  omega

theorem le_add (tally calls : Tally) : tally ≤ tally + calls := by simp [le_def, add_def]

/-- A tally is raised by some calls or, when they end in a failure, by no more of any kind. -/
structure IsRaised (before after calls : Tally) (succeeds : Bool) : Prop where
  within : after ≤ before + calls
  exactly : succeeds → after = before + calls

namespace IsRaised

variable {before between after calls calls' : Tally} {succeeds : Bool}

theorem of_eq (raised : after = before + calls) : IsRaised before after calls succeeds :=
  ⟨raised ▸ le_refl _, fun _ => raised⟩

theorem none (tally : Tally) : IsRaised tally tally {} succeeds := of_eq (add_none tally).symm

theorem trans (first : IsRaised before between calls true)
    (second : IsRaised between after calls' succeeds) :
    IsRaised before after (calls + calls') succeeds := by
  obtain ⟨within, exactly⟩ := second
  rw [first.exactly rfl, add_assoc] at within exactly
  exact ⟨within, exactly⟩

/-- After a failure nothing more is called. -/
theorem stop (first : IsRaised before between calls succeeds) (calls' : Tally) :
    IsRaised before between (calls + calls') false := by
  refine ⟨le_trans first.within ?_, nofun⟩
  rw [← add_assoc]
  exact le_add _ _

end IsRaised

end Tally

/-! ## Computations -/

namespace Sampling

open Tally

variable {R σ α β : Type} {nx ng groups : Nat} {calls calls' : Tally}

/-- A computation on the buffers of a problem with a tally makes some calls. -/
def Makes (computation : Sampling R (σ × Tally) nx ng groups α) (calls : Tally) : Prop :=
  ∀ before, IsRaised before.state.2 (computation.run before).2.state.2 calls
    (computation.run before).1.isOk

namespace Makes

theorem of_pure (value : α) : Makes (pure value : Sampling R (σ × Tally) nx ng groups α) {} :=
  fun before => .none before.state.2

/-- A change that leaves the state of the problem alone calls nothing. -/
theorem of_modify
    {change : Scratch R (σ × Tally) nx ng groups → Scratch R (σ × Tally) nx ng groups}
    (keeps : ∀ scratch, (change scratch).state = scratch.state) :
    Makes (modify change : Sampling R (σ × Tally) nx ng groups PUnit) {} := by
  intro before
  change IsRaised before.state.2 (change before).state.2 {} true
  rw [keeps]
  exact .none before.state.2

theorem bind {first : Sampling R (σ × Tally) nx ng groups α}
    {next : α → Sampling R (σ × Tally) nx ng groups β} (makes : Makes first calls)
    (nextMakes : ∀ value, Makes (next value) calls') : Makes (first >>= next) (calls + calls') := by
  intro before
  have raised := makes before
  rw [run_bind]
  rcases ran : first.run before with ⟨failure | value, between⟩
  · rw [ran] at raised
    exact raised.stop calls'
  · rw [ran] at raised
    exact raised.trans (nextMakes value between)

/-- What follows without a call changes nothing in the count. -/
theorem bind_free {first : Sampling R (σ × Tally) nx ng groups α}
    {next : α → Sampling R (σ × Tally) nx ng groups β} (makes : Makes first calls)
    (free : ∀ value, Makes (next value) {}) : Makes (first >>= next) calls := by
  rw [← add_none calls]
  exact makes.bind free

theorem bind_modify {first : Sampling R (σ × Tally) nx ng groups α}
    {change : Scratch R (σ × Tally) nx ng groups → Scratch R (σ × Tally) nx ng groups}
    (makes : Makes first calls) (keeps : ∀ scratch, (change scratch).state = scratch.state) :
    Makes (first >>= fun _ => (modify change : Sampling R (σ × Tally) nx ng groups PUnit)) calls :=
  makes.bind_free fun _ => of_modify keeps

theorem get_bind {next : Scratch R (σ × Tally) nx ng groups → Sampling R (σ × Tally) nx ng groups α}
    (makes : ∀ scratch, Makes (next scratch) calls) :
    Makes ((get : Sampling R (σ × Tally) nx ng groups _) >>= next) calls :=
  fun before => makes before before

/-- A loop makes the calls of its passes. -/
theorem forM {ι : Type} {items : List ι} {body : ι → Sampling R (σ × Tally) nx ng groups PUnit}
    (pass : ∀ item, Makes (body item) calls) :
    Makes (items.forM body) (items.length * calls) := by
  induction items with
  | nil =>
      rw [List.length_nil, none_mul]
      exact of_pure _
  | cons item rest ih =>
      rw [List.length_cons, succ_mul]
      exact (pass item).bind fun _ => ih

theorem forM_finRange {count : Nat}
    {body : Fin count → Sampling R (σ × Tally) nx ng groups PUnit}
    (pass : ∀ index, Makes (body index) calls) :
    Makes ((List.finRange count).forM body) (count * calls) := by
  have loop : Makes ((List.finRange count).forM body) ((List.finRange count).length * calls) :=
    forM pass
  rwa [List.length_finRange] at loop

end Makes

/-- A sample is one call, whatever comes of it. -/
theorem sample_makes {T : Type} {isFinite : T → Bool}
    {evaluate : Vector T ng → StateM (σ × Tally) (Evaluation T ng)}
    {buffer : Scratch R (σ × Tally) nx ng groups → Vector T (ng + 1)}
    {store : Scratch R (σ × Tally) nx ng groups → Vector T (ng + 1) →
      Scratch R (σ × Tally) nx ng groups}
    (counted : ∀ constraints state, (evaluate constraints state).2.2 = state.2 + calls) :
    Makes (sample isFinite evaluate buffer store) calls := by
  intro before
  have state : (evaluateRows isFinite evaluate (buffer before) before.state).2 =
      (evaluate (buffer before).tail before.state).2 := by
    simp only [evaluateRows, bind, StateT.bind]
    rcases evaluate (buffer before).tail before.state with ⟨⟨_ | _, _⟩, _⟩ <;> rfl
  rw [run_sample]
  refine .of_eq ?_
  change (evaluateRows isFinite evaluate (buffer before) before.state).2.2 = _
  rw [state, counted]

section Problem

variable [Arith R] (problem : Problem R σ)

theorem sampleRows_makes (x : Vector R nx) :
    Makes (sampleRows problem.counted x : Sampling R (σ × Tally) nx ng groups Unit)
      { real := 1 } :=
  sample_makes fun _ _ => rfl

theorem samplePlus_makes (x : Vector R nx) :
    Makes (samplePlus problem.counted x : Sampling R (σ × Tally) nx ng groups Unit)
      { real := 1 } :=
  sample_makes fun _ _ => rfl

theorem sampleMinus_makes (x : Vector R nx) :
    Makes (sampleMinus problem.counted x : Sampling R (σ × Tally) nx ng groups Unit)
      { real := 1 } :=
  sample_makes fun _ _ => rfl

theorem sampleComplex_makes (x : Vector (Complex R) nx) :
    Makes (sampleComplex problem.counted x : Sampling R (σ × Tally) nx ng groups Unit)
      { complex := 1 } :=
  sample_makes fun _ _ => rfl

theorem sampleDual_makes (x : Vector (Dual R) nx) :
    Makes (sampleDual problem.counted x : Sampling R (σ × Tally) nx ng groups Unit)
      { dual := 1 } :=
  sample_makes fun _ _ => rfl

end Problem

end Sampling

/-! ## Differences and sweeps -/

/-- Calls of a number of perturbations. -/
def Scheme.calls (scheme : Scheme) (perturbations : Nat) : Tally :=
  match scheme with
  | forward | central => { real := perturbations * scheme.samplesPerStep }
  | .complexStep => { complex := perturbations * scheme.samplesPerStep }

theorem Scheme.mul_calls_one (scheme : Scheme) (perturbations : Nat) :
    perturbations * scheme.calls 1 = scheme.calls perturbations := by
  cases scheme <;> simp [calls, Tally.mul_def]

theorem Scheme.calls_add (scheme : Scheme) (perturbations perturbations' : Nat) :
    scheme.calls perturbations + scheme.calls perturbations' =
      scheme.calls (perturbations + perturbations') := by
  cases scheme <;> simp [calls, Tally.add_def, Nat.add_mul]

namespace Sampling

open Tally

variable {R σ : Type} {nx ng groups : Nat}

theorem setDivisors_makes (columns : List (Fin nx)) (divisor : Fin nx → R) :
    Makes (setDivisors columns divisor : Sampling R (σ × Tally) nx ng groups Unit) {} :=
  .of_modify fun _ => rfl

variable [Arith R] (problem : Problem R σ)

section Differences

variable [Precision R] (scheme : Scheme) (x : Vector R nx) (base : Vector R (ng + 1))

/-- Variables that are perturbed together are one perturbation. -/
theorem jointDifference_makes (columns : List (Fin nx)) :
    Makes (jointDifference problem.counted x columns scheme base :
      Sampling R (σ × Tally) nx ng groups Unit) (scheme.calls 1) := by
  cases scheme with
  | forward =>
      have calls : ({} : Tally) + { real := 1 } = Scheme.forward.calls 1 := rfl
      rw [← calls, jointDifference]
      refine (setDivisors_makes columns _).bind fun _ => .bind_modify ?_ fun _ => rfl
      exact samplePlus_makes problem _
  | central =>
      have calls : ({ real := 1 } : Tally) + ({ real := 1 } + {}) = Scheme.central.calls 1 := rfl
      rw [← calls, jointDifference]
      refine (samplePlus_makes problem _).bind fun _ => (sampleMinus_makes problem _).bind fun _ =>
        .bind_modify ?_ fun _ => rfl
      exact setDivisors_makes columns _
  | complexStep =>
      have calls : ({} : Tally) + { complex := 1 } = Scheme.complexStep.calls 1 := rfl
      rw [← calls, jointDifference]
      refine (setDivisors_makes columns _).bind fun _ => .bind_modify ?_ fun _ => rfl
      exact sampleComplex_makes problem _

theorem differenceJacobian_makes :
    Makes (differenceJacobian problem.counted scheme x : Sampling R (σ × Tally) nx ng nx Unit)
      ({ real := 1 } + scheme.calls nx) := by
  rw [← Scheme.mul_calls_one]
  refine (sampleRows_makes problem x).bind fun _ => .get_bind fun before => ?_
  refine .forM_finRange fun _ => ?_
  exact (jointDifference_makes problem scheme x before.rows _).bind_modify fun _ => rfl

theorem differenceGradient_makes :
    Makes (differenceGradient problem.counted scheme x base :
      Sampling R (σ × Tally) nx ng groups Unit) (scheme.calls nx) := by
  rw [← Scheme.mul_calls_one]
  refine .forM_finRange fun column => ?_
  exact (jointDifference_makes problem scheme x base [column]).bind_modify fun _ => rfl

theorem differenceCompressed_makes (coloring : Coloring nx) :
    Makes (differenceCompressed problem.counted scheme coloring x base :
      Sampling R (σ × Tally) nx ng coloring.count Unit) (scheme.calls coloring.count) := by
  rw [← Scheme.mul_calls_one]
  refine .forM_finRange fun color => ?_
  exact (jointDifference_makes problem scheme x base (coloring.columns color)).bind_modify
    fun _ => rfl

end Differences

/-- Sweeps are dual calls, one for each group; without any there is a real call. -/
theorem sweeps_makes (x : Vector R nx) (columns : Fin groups → List (Fin nx)) :
    Makes (if groups = 0 then sampleRows problem.counted x
      else sweepGroups problem.counted x columns : Sampling R (σ × Tally) nx ng groups Unit)
      (if groups = 0 then { real := 1 } else { dual := groups }) := by
  split
  case isTrue => exact sampleRows_makes problem x
  case isFalse =>
    have loop : groups * ({ dual := 1 } : Tally) = { dual := groups } := by simp [mul_def]
    rw [← loop]
    refine Makes.bind_modify (.forM_finRange fun group => ?_) fun _ => rfl
    exact (sampleDual_makes problem (seeded x (columns group))).bind_modify fun _ => rfl

variable [Precision R]

theorem compressed_differences_makes (scheme : Scheme) (coloring : Coloring nx) (x : Vector R nx) :
    Makes (compressed problem.counted (some scheme) coloring x :
      Sampling R (σ × Tally) nx ng coloring.count (Vector R nx))
      ({ real := 1 } + scheme.calls (nx + coloring.count)) := by
  rw [← Scheme.calls_add]
  refine (sampleRows_makes problem x).bind fun _ => .get_bind fun sampled => ?_
  refine (differenceGradient_makes problem scheme x sampled.rows).bind fun _ => ?_
  refine (differenceCompressed_makes problem scheme x sampled.rows coloring).bind_free fun _ => ?_
  exact .get_bind fun formed => .of_pure formed.divisors

theorem compressed_sweeps_makes (coloring : Coloring nx) (x : Vector R nx) :
    Makes (compressed problem.counted none coloring x :
      Sampling R (σ × Tally) nx ng coloring.count (Vector R nx))
      ((if coloring.count = 0 then { real := 1 } else { dual := coloring.count }) +
        Scheme.forward.calls nx) := by
  refine (sweeps_makes problem x fun color => coloring.columns color).bind fun _ => ?_
  refine .get_bind fun swept => ?_
  exact (differenceGradient_makes problem .forward x swept.rows).bind_free fun _ => .of_pure _

end Sampling

/-! ## Evaluations -/

/-- Calls of an evaluation of a problem with a pattern. Values alone take one call, and supplied
derivatives one that gives both. Differences perturb each variable and, with a sparse pattern, each
colour as well, after a call at the point itself. Sweeps are dual calls, one for each variable or
colour; with a sparse pattern each variable is perturbed besides for the gradient. -/
def Method.calls (method : Method) (pattern : Pattern) (needDerivatives : Bool) : Tally :=
  let nx := pattern.ncols
  let colors := pattern.coloring.count
  if !needDerivatives then { real := 1 }
  else if method = .supplied then { derivatives := 1 }
  else
    match method.scheme? with
    | some scheme => { real := 1 } + scheme.calls (if pattern.isDense then nx else nx + colors)
    | none =>
        if nx = 0 then { real := 1 }
        else if pattern.isDense then { dual := nx }
        else { dual := colors, real := nx }

/-- Without variables there are no colours, and one call that stands in for the sweeps is all. -/
theorem sweepCalls_eq {nx colors : Nat} (none : colors = 0 ↔ nx = 0) :
    (if colors = 0 then { real := 1 } else { dual := colors }) + Scheme.forward.calls nx =
      if nx = 0 then ({ real := 1 } : Tally) else { dual := colors, real := nx } := by
  by_cases empty : nx = 0
  · rw [if_pos (none.2 empty), if_pos empty, empty]
    rfl
  · rw [if_neg (mt none.1 empty), if_neg empty]
    simp [Scheme.calls, Tally.add_def, Scheme.samplesPerStep]

section Evaluations

open Sampling Tally

variable {R σ : Type} {nx ng groups nj : Nat} [Arith R] (problem : Problem R σ)

/-- An evaluation makes some calls, whatever buffers it is lent. -/
def EvaluationMakes {τ : Type}
    (evaluate : Scratch R (σ × Tally) nx ng groups →
      Except EvaluationFailure R × τ × Scratch R (σ × Tally) nx ng groups) (calls : Tally) : Prop :=
  ∀ before, IsRaised before.state.2 (evaluate before).2.2.state.2 calls (evaluate before).1.isOk

theorem evaluateValues_makes (x : Vector R nx) (target : Buffers R nx ng nj) :
    EvaluationMakes
      (fun before : Scratch R (σ × Tally) nx ng groups =>
        evaluateValues problem.counted x target before)
      { real := 1 } := by
  intro before
  have raised := sampleRows_makes problem x before
  simp only [evaluateValues]
  rcases ran : (sampleRows problem.counted x).run before with ⟨failure | _, after⟩ <;>
    rwa [ran] at raised

omit [Arith R] in
theorem evaluateWithDerivatives_counted (supplies : problem.hasDerivatives) (x : Vector R nx)
    (buffers : Buffers R nx ng nj) (state : σ × Tally) :
    (problem.counted.evaluateWithDerivatives x buffers state).2.2 =
      state.2 + { derivatives := 1 } := by
  rcases problem with ⟨_, _, _, _ | derivatives⟩
  · cases supplies
  · rfl

/-- Whether what is supplied passes the checks makes no difference to the count. -/
theorem evaluateSupplied_makes (supplies : problem.hasDerivatives) (x : Vector R nx)
    (target : Buffers R nx ng nj) (needDerivatives : Bool) :
    EvaluationMakes
      (fun before : Scratch R (σ × Tally) nx ng groups =>
        evaluateSupplied problem.counted x target needDerivatives before)
      (if needDerivatives then { derivatives := 1 } else { real := 1 }) := by
  intro before
  refine .of_eq ?_
  cases needDerivatives with
  | false => rfl
  | true => exact evaluateWithDerivatives_counted problem supplies x target before.state

variable [Precision R]

theorem evaluateDense_makes {scheme? : Option Scheme} {x : Vector R nx} {calls : Tally}
    (makes : Makes (Sampling.jacobian problem.counted scheme? x :
      Sampling R (σ × Tally) nx ng nx Unit) calls) (target : Buffers R nx ng (nx * ng)) :
    EvaluationMakes (evaluateDense problem.counted scheme? x target) calls := by
  intro before
  have raised := makes before
  rw [evaluateDense]
  rcases ran : (Sampling.jacobian problem.counted scheme? x).run before with
    ⟨failure | _, after⟩ <;> rwa [ran] at raised

theorem evaluateSparse_makes {scheme? : Option Scheme} {entries : Entries ng nx}
    {coloring : Coloring nx} {x : Vector R nx} {calls : Tally}
    (makes : Makes (Sampling.compressed problem.counted scheme? coloring x :
      Sampling R (σ × Tally) nx ng coloring.count (Vector R nx)) calls)
    (target : Buffers R nx ng entries.pairs.length) :
    EvaluationMakes (evaluateSparse problem.counted scheme? entries coloring x target) calls := by
  intro before
  have raised := makes { before with gradient := target.df }
  rw [evaluateSparse]
  rcases ran : (Sampling.compressed problem.counted scheme? coloring x).run
    { before with gradient := target.df } with ⟨failure | _, after⟩ <;> rwa [ran] at raised

end Evaluations

namespace Differentiator

section Layouts

variable {R σ : Type} [Arith R] [Precision R] (problem : Problem R σ) {nx ng : Nat}
variable {method : Method} (x : Vector R nx)

theorem evaluateDense_calls (unsupplied : method ≠ .supplied)
    (target : Buffers R nx ng (nx * ng)) :
    EvaluationMakes (evaluateDense problem.counted method.scheme? x target)
      (method.calls (.dense nx (ng + 1)) true) := by
  apply evaluateDense_makes
  simp only [Method.calls, Bool.not_true, Bool.false_eq_true, if_false, if_neg unsupplied]
  cases method.scheme? with
  | some scheme => exact Sampling.differenceJacobian_makes problem scheme x
  | none => exact Sampling.sweeps_makes problem x fun column => [column]

theorem evaluateSparse_calls (unsupplied : method ≠ .supplied) (entries : Entries ng nx)
    (target : Buffers R nx ng entries.pairs.length) :
    EvaluationMakes
      (evaluateSparse problem.counted method.scheme? entries (.greedy entries.pairs) x target)
      (method.calls (.sparse ng nx entries) true) := by
  apply evaluateSparse_makes
  simp only [Method.calls, Bool.not_true, Bool.false_eq_true, if_false, if_neg unsupplied]
  cases method.scheme? with
  | some scheme => exact Sampling.compressed_differences_makes problem scheme _ x
  | none =>
      have sweeps : Sampling.Makes (Sampling.compressed problem.counted none _ x :
          Sampling R (σ × Tally) nx ng _ (Vector R nx)) _ :=
        Sampling.compressed_sweeps_makes problem (.greedy entries.pairs) x
      rw [sweepCalls_eq (Coloring.greedy_firstFit entries.pairs).count_eq_zero_iff] at sweeps
      exact sweeps

end Layouts

variable {R σ : Type} [Arith R] [Precision R]

/-- Supplied derivatives are called for in one call, by whatever differentiator. -/
theorem evaluate_makes_of_supplied {problem : Problem R σ}
    {differentiator : Differentiator R (σ × Tally)}
    (counts : differentiator.problem = problem.counted)
    (supplied : differentiator.method = .supplied) (supplies : problem.hasDerivatives)
    (x : Vector R differentiator.dims.nx) (target : differentiator.Target)
    (needDerivatives : Bool) (pattern : Pattern) :
    EvaluationMakes (differentiator.evaluate x target needDerivatives)
      (Method.supplied.calls pattern needDerivatives) := by
  have calls : Method.supplied.calls pattern needDerivatives =
      if needDerivatives then { derivatives := 1 } else { real := 1 } := by
    cases needDerivatives <;> rfl
  intro before
  rw [evaluate, if_pos supplied, counts, calls]
  exact evaluateSupplied_makes problem supplies x target needDerivatives before

/-- What a differentiator calls is known from its method and its pattern. -/
theorem evaluate_makes {problem : Problem R σ} {pattern : Pattern} {method : Method}
    {differentiator : Differentiator R (σ × Tally)}
    (built : build problem.counted pattern method = .ok differentiator)
    (x : Vector R differentiator.dims.nx) (target : differentiator.Target)
    (needDerivatives : Bool) :
    EvaluationMakes (differentiator.evaluate x target needDerivatives)
      (method.calls pattern needDerivatives) := by
  have counts := problem_of_build built
  have sameMethod := method_of_build built
  by_cases supplied : method = .supplied
  · have supplies : problem.hasDerivatives := by
      have kept := (build_eq_ok.1 built).1 supplied
      rwa [Problem.hasDerivatives, Problem.counted, Option.isSome_map] at kept
    rw [supplied] at sameMethod ⊢
    exact evaluate_makes_of_supplied counts sameMethod supplies x target needDerivatives pattern
  cases needDerivatives with
  | false =>
      intro before
      rw [evaluate, sameMethod, if_neg supplied, if_neg Bool.false_ne_true, counts]
      exact evaluateValues_makes problem x target before
  | true =>
      intro before
      rw [evaluate, sameMethod, if_neg supplied, if_pos rfl]
      rcases cases_of_build built with ⟨nx, ng, rfl, rfl⟩ | ⟨nrows, ncols, entries, rfl, rfl⟩
      · exact evaluateDense_calls problem x supplied target before
      · exact evaluateSparse_calls problem x supplied entries target before

/-- An evaluation that succeeds makes the calls that its method and pattern ask for, and one that
fails makes no more of any kind. There are no more colours than variables, and none only without
variables. -/
theorem evaluate_calls {problem : Problem R σ} {pattern : Pattern} {method : Method}
    {differentiator : Differentiator R (σ × Tally)}
    (built : build problem.counted pattern method = .ok differentiator)
    (x : Vector R differentiator.dims.nx) (target : differentiator.Target) (needDerivatives : Bool)
    (memory : differentiator.Memory) :
    let evaluated := differentiator.evaluate x target needDerivatives memory
    let calls := method.calls pattern needDerivatives
    (evaluated.1.isOk → evaluated.2.2.state.2 = memory.state.2 + calls) ∧
      evaluated.2.2.state.2 ≤ memory.state.2 + calls ∧
      (pattern.coloring.count = 0 ↔ pattern.ncols = 0) ∧
      pattern.coloring.count ≤ pattern.ncols := by
  have raised := evaluate_makes built x target needDerivatives memory
  have fit := Coloring.greedy_firstFit pattern.entries.pairs
  exact ⟨raised.exactly, raised.within, fit.count_eq_zero_iff, fit.count_le⟩

theorem squareAndProduct_tallied_isOk :
    ((onSparse squareAndProduct.counted squareAndProductEntries .centralDifference).evaluate
      #v[1.0, 2.0, 3.0] ⟨.replicate 2 0, .replicate 3 0, .replicate 3 0⟩ true
      (.fresh ((), {}))).1.isOk := by
  have colored := greedy_squareAndProductEntries
  -- Sorting the columns does not reduce, so the colouring is put in by hand.
  unfold onSparse
  generalize Coloring.greedy squareAndProductEntries.pairs = coloring at colored
  subst colored
  decide +kernel

theorem evaluate_calls_squareAndProduct :
    let differentiator := onSparse squareAndProduct.counted squareAndProductEntries
      .centralDifference
    let evaluated := differentiator.evaluate #v[1.0, 2.0, 3.0]
      ⟨.replicate 2 0, .replicate 3 0, .replicate 3 0⟩ true (.fresh ((), {}))
    evaluated.1.isOk ∧ evaluated.2.2.state.2 = { real := 11 } := by
  intro differentiator evaluated
  have built : build squareAndProduct.counted (.sparse 2 3 squareAndProductEntries)
      .centralDifference = .ok differentiator := build_eq_ok.2 ⟨nofun, rfl⟩
  have isOk : evaluated.1.isOk := squareAndProduct_tallied_isOk
  have calls : Method.centralDifference.calls (.sparse 2 3 squareAndProductEntries) true =
      { real := 11 } := by
    have colors : (Pattern.sparse 2 3 squareAndProductEntries).coloring.count = 2 :=
      congrArg Coloring.count greedy_squareAndProductEntries
    rw [Method.calls, colors]
    rfl
  refine ⟨isOk, ?_⟩
  rw [(evaluate_calls built #v[1.0, 2.0, 3.0] _ true (.fresh ((), {}))).1 isOk, calls]
  rfl

end Differentiator

end NonlinearProgram
