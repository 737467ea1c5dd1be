import NonlinearProgram.Proofs.Differentiation.Difference
import NonlinearProgram.Proofs.Differentiation.Requests
import NonlinearProgram.Proofs.Problem.Dependence
import NonlinearProgram.Proofs.Problem.Effects
import NonlinearProgram.Proofs.Setup

/-!
# Difference quotients of a function

A problem that is decided by its point computes a function of it, `Problem.Computes`. Its difference
Jacobian is described here by this function alone: the entries are the difference quotients of the
function, and the failure is that of the first point at which the function has no finite value. The
buffers, which all columns share, do not appear.
-/

namespace NonlinearProgram

variable {R σ T : Type} {nx ng groups : Nat}

/-- Function rows of an evaluation that succeeds. -/
def Evaluation.rows (evaluation : Evaluation T ng) :
    Except EvaluationFailure (Vector T (ng + 1)) :=
  evaluation.outcome.map fun objective => functionRows objective evaluation.constraints

/-- Function rows as a function of a real or of a complex point. -/
structure RowFunction (R : Type) (nx ng : Nat) where
  /-- Function rows at a real point, or why there are none. -/
  real : Vector R nx → Except EvaluationFailure (Vector R (ng + 1))
  /-- Function rows at a complex point, or why there are none. -/
  complex : Vector (Complex R) nx → Except EvaluationFailure (Vector (Complex R) (ng + 1))

/-- A problem is decided by its point and writes all its rows, whatever buffer and state it is
called with. -/
structure Problem.Computes (problem : Problem R σ) (F : RowFunction R nx ng) : Prop where
  real : ∀ x buffer state, (problem.real x buffer state).1.rows = F.real x
  complex : ∀ x buffer state, (problem.complex x buffer state).1.rows = F.complex x

theorem HasEffect.rows_eq {evaluate : Vector T ng → StateM σ (Evaluation T ng)}
    {effect : Effect T ng} (has : HasEffect evaluate effect) (buffer buffer' : Vector T ng)
    (state state' : σ) : (evaluate buffer state).1.rows = (evaluate buffer' state').1.rows := by
  rw [has, has, Evaluation.rows, Evaluation.rows]
  apply map_congr
  intro objective succeeds
  have isOk : effect.outcome.isOk := by rw [show effect.outcome = _ from succeeds]; rfl
  rw [overwrite_eq_of_complete (effect.complete isOk) buffer buffer']

/-- A problem that is determined by its arguments computes a function. -/
theorem Problem.IsDetermined.exists_computes {problem : Problem R σ} {nj : Nat}
    (determined : problem.IsDetermined nx ng nj) (zero : R) (state : σ) :
    ∃ F : RowFunction R nx ng, problem.Computes F := by
  let zeros : Vector R ng := .replicate ng zero
  refine ⟨⟨fun x => (problem.real x zeros state).1.rows,
    fun z => (problem.complex z (.replicate ng ⟨zero, zero⟩) state).1.rows⟩, ?_, ?_⟩
  · intro x buffer state'
    obtain ⟨effect, has⟩ := determined.real x
    exact has.rows_eq buffer zeros state' state
  · intro z buffer state'
    obtain ⟨effect, has⟩ := determined.complex z
    exact has.rows_eq buffer _ state' state

/-- A sample is a value of the function. -/
theorem IsSample.eq_ok {evaluate : Vector T ng → StateM σ (Evaluation T ng)}
    {known : Except EvaluationFailure (Vector T (ng + 1))}
    (computes : ∀ buffer state, (evaluate buffer state).1.rows = known) {rows : Vector T (ng + 1)}
    (sample : IsSample evaluate rows) : known = .ok rows := by
  obtain ⟨buffer, state, objective, constraints, state', evaluated, rfl⟩ := sample
  rw [← computes buffer state, evaluated]
  rfl

theorem isSample_of_rows {evaluate : Vector T ng → StateM σ (Evaluation T ng)}
    {buffer : Vector T ng} {state : σ} {rows : Vector T (ng + 1)}
    (evaluated : (evaluate buffer state).1.rows = .ok rows) : IsSample evaluate rows := by
  rcases ran : evaluate buffer state with ⟨⟨failure | objective, constraints⟩, state'⟩
  · rw [ran] at evaluated
    cases evaluated
  · rw [ran] at evaluated
    exact ⟨buffer, state, objective, constraints, state', ran, (Except.ok.inj evaluated).symm⟩

variable [Arith R]

/-! ## The outcome -/

/-- How an evaluation ends that gives some rows: they all have to be finite. -/
def checkRows (isFinite : T → Bool) (rows : Except EvaluationFailure (Vector T (ng + 1))) :
    Except EvaluationFailure Unit :=
  rows.bind (requireFinite isFinite .function)

theorem outcome_evaluateRows (isFinite : T → Bool)
    (evaluate : Vector T ng → StateM σ (Evaluation T ng)) (buffer : Vector T (ng + 1)) (state : σ) :
    (evaluateRows isFinite evaluate buffer state).1.1 =
      checkRows isFinite (evaluate buffer.tail state).1.rows := by
  simp only [evaluateRows, bind, StateT.bind]
  rcases evaluate buffer.tail state with ⟨⟨_ | objective, constraints⟩, state'⟩
  · rfl
  · rfl

/-- How the evaluation ends that a request asks for. -/
def RowFunction.check (F : RowFunction R nx ng) : SampleRequest R nx → Except EvaluationFailure Unit
  | .rows x | .plus x | .minus x => checkRows Arith.isFinite (F.real x)
  | .complex z => checkRows Complex.isFinite (F.complex z)

namespace Sampling

variable {α β : Type}

/-- A computation ends as given, whatever is in the buffers. -/
def EndsAs (computation : Sampling R σ nx ng groups α) (ending : Except EvaluationFailure Unit) :
    Prop :=
  ∀ before, (computation.run before).1.map (fun _ => ()) = ending

namespace EndsAs

omit [Arith R]

variable {first : Sampling R σ nx ng groups α} {ending ending' : Except EvaluationFailure Unit}

theorem bind {next : α → Sampling R σ nx ng groups β} (ends : first.EndsAs ending)
    (endsToo : ∀ value, (next value).EndsAs ending') :
    (first >>= next).EndsAs (ending >>= fun _ => ending') := by
  intro before
  rw [run_bind, ← ends before]
  rcases first.run before with ⟨failure | value, between⟩
  · rfl
  · exact endsToo value between

theorem get_bind {next : Scratch R σ nx ng groups → Sampling R σ nx ng groups α}
    (ends : ∀ given, (next given).EndsAs ending) :
    ((get : Sampling R σ nx ng groups _) >>= next).EndsAs ending :=
  fun before => ends before before

theorem modify_bind {next : PUnit → Sampling R σ nx ng groups α}
    {change : Scratch R σ nx ng groups → Scratch R σ nx ng groups}
    (ends : (next ⟨⟩).EndsAs ending) :
    ((modify change : Sampling R σ nx ng groups PUnit) >>= next).EndsAs ending :=
  fun before => ends (change before)

theorem bind_modify {first : Sampling R σ nx ng groups PUnit} (ends : first.EndsAs ending)
    {change : Scratch R σ nx ng groups → Scratch R σ nx ng groups} :
    (first >>= fun _ => (modify change : Sampling R σ nx ng groups PUnit)).EndsAs ending := by
  intro before
  rw [run_bind, ← ends before]
  rcases first.run before with ⟨failure | value, between⟩
  · rfl
  · rfl

/-- A loop ends as the first check of its passes does that fails. -/
theorem forM {ι κ : Type} {items : List ι} {body : ι → Sampling R σ nx ng groups PUnit}
    {check : κ → Except EvaluationFailure Unit} {checked : ι → List κ}
    (ends : ∀ item, (body item).EndsAs ((checked item).forM check)) :
    (items.forM body).EndsAs ((items.flatMap checked).forM check) := by
  induction items with
  | nil => exact fun _ => rfl
  | cons item rest ih =>
      rw [List.flatMap_cons, List.forM_eq_forM, List.forM_eq_forM, List.forM_cons, List.forM_append]
      exact (ends item).bind fun _ => ih

end EndsAs

variable {problem : Problem R σ} {F : RowFunction R nx ng} (computes : problem.Computes F)

include computes

theorem take_endsAs (request : SampleRequest R nx) :
    (request.take problem : Sampling R σ nx ng groups Unit).EndsAs (F.check request) := by
  intro before
  have outcome {T : Type} {isFinite : T → Bool}
      {evaluate : Vector T ng → StateM σ (Evaluation T ng)}
      {known : Except EvaluationFailure (Vector T (ng + 1))}
      (same : ∀ buffer state, (evaluate buffer state).1.rows = known)
      (buffer : Vector T (ng + 1)) :
      (evaluateRows isFinite evaluate buffer before.state).1.1.map (fun _ => ()) =
        checkRows isFinite known := by
    rw [outcome_evaluateRows, same]
    cases checkRows isFinite known <;> rfl
  cases request with
  | rows x => exact outcome (computes.real x) before.rows
  | plus x => exact outcome (computes.real x) before.plus
  | minus x => exact outcome (computes.real x) before.minus
  | complex z => exact outcome (computes.complex z) before.complexRows

/-- Requests can be served if the function has finite values at all of them. -/
theorem evaluates_iff {requests : List (SampleRequest R nx)} {state : σ} :
    problem.Evaluates ng requests state ↔ ∀ request ∈ requests, F.check request = .ok () := by
  have ends : (requests.forM (·.take problem) : Sampling R σ nx ng nx Unit).EndsAs
      ((requests.flatMap fun request => [request]).forM F.check) := by
    apply EndsAs.forM
    intro request
    rw [List.forM_eq_forM, List.forM_cons, List.forM_nil, bind_pure_unit]
    exact take_endsAs computes request
  rw [List.flatMap_singleton'] at ends
  rw [Problem.Evaluates, ← forM_eq_ok, ← ends (.fresh state)]
  rcases ((requests.forM (·.take problem)).run (.fresh state)).1 with failure | _
  · exact iff_of_false Bool.false_ne_true (by simp [Except.map])
  · exact iff_of_true rfl rfl

variable [Precision R]

theorem jointDifference_endsAs (x : Vector R nx) (columns : List (Fin nx)) (scheme : Scheme)
    (base : Vector R (ng + 1)) :
    (jointDifference problem x columns scheme base : Sampling R σ nx ng groups Unit).EndsAs
      ((scheme.differenceRequests x columns).forM F.check) := by
  cases scheme <;>
    simp only [Scheme.differenceRequests, List.forM_eq_forM, List.forM_cons, List.forM_nil,
      bind_pure_unit]
  case forward =>
    apply EndsAs.modify_bind
    apply EndsAs.bind_modify
    exact take_endsAs computes (.plus _)
  case central =>
    -- Both samples are taken before anything else is written.
    rw [jointDifference]
    simp only [← bind_assoc]
    apply EndsAs.bind_modify
    apply EndsAs.bind_modify
    exact (take_endsAs computes (.plus _)).bind fun _ => take_endsAs computes (.minus _)
  case complexStep =>
    apply EndsAs.modify_bind
    apply EndsAs.bind_modify
    exact take_endsAs computes (.complex _)

/-- A difference Jacobian ends as the first evaluation does that fails. -/
theorem differenceJacobian_endsAs (scheme : Scheme) (x : Vector R nx) :
    (differenceJacobian problem scheme x : Sampling R σ nx ng nx Unit).EndsAs
      ((scheme.jacobianRequests x).forM F.check) := by
  rw [Scheme.jacobianRequests, List.forM_eq_forM, List.forM_cons]
  apply (take_endsAs computes (.rows x)).bind
  intro _
  apply EndsAs.get_bind
  intro given
  apply EndsAs.forM
  intro column
  apply EndsAs.bind_modify
  exact jointDifference_endsAs computes x [column] scheme _

end Sampling

/-! ## The quotients -/

variable [Precision R]

theorem alter_singleton {T : Type} (column : Fin nx) (values : Vector T nx)
    (change : Fin nx → T → T) :
    alter [column] values change =
      values.set column (change column (values.get column)) column.isLt := by
  apply ext_get
  intro other
  rw [get_alter, get_set]
  simp only [List.mem_singleton]
  by_cases here : column = other
  · rw [if_pos here.symm, if_pos here, here]
  · rw [if_neg (Ne.symm here), if_neg here]

/-- Difference quotients of the function rows in one variable, the others held fixed. -/
def RowFunction.quotient (F : RowFunction R nx ng) (scheme : Scheme) (x : Vector R nx)
    (column : Fin nx) (row : Fin (ng + 1)) : Except EvaluationFailure R :=
  let value := x.get column
  let step := scheme.step value
  match scheme with
  | .forward => do
      let plus ← F.real (x.set column (value + step) column.isLt)
      let base ← F.real x
      return (plus.get row - base.get row) / ((value + step) - value)
  | .central => do
      let plus ← F.real (x.set column (value + step) column.isLt)
      let minus ← F.real (x.set column (value - step) column.isLt)
      return (plus.get row - minus.get row) / ((value + step) - (value - step))
  | .complexStep => do
      let rows ← F.complex ((x.map Complex.ofReal).set column ⟨value, step⟩ column.isLt)
      return (rows.get row).im / step

theorem quotient_of_isJointDifference {problem : Problem R σ} {F : RowFunction R nx ng}
    (computes : problem.Computes F) {scheme : Scheme} {x : Vector R nx} {column : Fin nx}
    {base raw : Vector R (ng + 1)} (known : F.real x = .ok base)
    (joint : IsJointDifference problem x [column] scheme base raw) (row : Fin (ng + 1)) :
    F.quotient scheme x column row = .ok (raw.get row / scheme.divisor (x.get column)) := by
  cases scheme with
  | forward =>
      obtain ⟨plus, sample, rfl⟩ := joint
      rw [alter_singleton] at sample
      have value := sample.eq_ok (computes.real _)
      have entry : (plus.zipWith (· - ·) base).get row = plus.get row - base.get row := by simp
      rw [entry]
      simp only [RowFunction.quotient, value, known]
      rfl
  | central =>
      obtain ⟨plus, minus, samplePlus, sampleMinus, rfl⟩ := joint
      rw [alter_singleton] at samplePlus sampleMinus
      have value := samplePlus.eq_ok (computes.real _)
      have value' := sampleMinus.eq_ok (computes.real _)
      have entry : (plus.zipWith (· - ·) minus).get row = plus.get row - minus.get row := by simp
      rw [entry]
      simp only [RowFunction.quotient, value, value']
      rfl
  | complexStep =>
      obtain ⟨rows, sample, rfl⟩ := joint
      rw [alter_singleton] at sample
      have value := sample.eq_ok (computes.complex _)
      have real : ((x.map Complex.ofReal).get column).re = x.get column := by
        simp [Complex.ofReal]
      have entry : (rows.map Complex.im).get row = (rows.get row).im := by simp
      rw [real] at value
      rw [entry]
      simp only [RowFunction.quotient, Scheme.step, value]
      rfl

/-- A difference Jacobian that is formed holds the difference quotients of the function. -/
theorem quotient_of_differenceJacobian {problem : Problem R σ} {F : RowFunction R nx ng}
    (computes : problem.Computes F) {scheme : Scheme} {x : Vector R nx}
    {before after : Scratch R σ nx ng nx}
    (run : (Sampling.differenceJacobian problem scheme x).run before = (.ok (), after)) :
    F.real x = .ok after.rows ∧
      ∀ column row, F.quotient scheme x column row = .ok ((after.jacobian.get column).get row) := by
  obtain ⟨sample, _, columns⟩ := Sampling.differenceJacobian_ok run
  have known := sample.eq_ok (computes.real x)
  refine ⟨known, fun column row => ?_⟩
  obtain ⟨raw, taken, entries⟩ := columns column
  rw [quotient_of_isJointDifference computes known taken.joint row, entries]
  simp

/-- A difference Jacobian of a problem that computes a function is formed, whatever the buffers
held before, if and only if the function is defined and finite at every point asked for. Then its
rows are those at the point and its entries the difference quotients of the function; otherwise the
failure is that of the first point asked for at which there is one. -/
theorem differenceJacobian_eq_quotient {problem : Problem R σ} {F : RowFunction R nx ng}
    (computes : problem.Computes F) (scheme : Scheme) (x : Vector R nx)
    (before : Scratch R σ nx ng nx) :
    let run := (Sampling.differenceJacobian problem scheme x).run before
    let requests := scheme.jacobianRequests x
    (run.1 = .ok () ↔ ∀ request ∈ requests, F.check request = .ok ()) ∧
      (run.1 = .ok () → F.real x = .ok run.2.rows ∧
        ∀ column row, F.quotient scheme x column row =
          .ok ((run.2.jacobian.get column).get row)) ∧
      ∀ failure, run.1 = .error failure ↔
        ∃ earlier request later, requests = earlier ++ request :: later ∧
          (∀ other ∈ earlier, F.check other = .ok ()) ∧ F.check request = .error failure := by
  intro run requests
  have ends : run.1 = requests.forM F.check := by
    rw [← Sampling.differenceJacobian_endsAs computes scheme x before]
    cases run.1 <;> rfl
  refine ⟨by rw [ends, forM_eq_ok], fun formed => ?_, fun failure => by rw [ends, forM_eq_error]⟩
  exact quotient_of_differenceJacobian computes (Prod.ext formed rfl)

/-- The square and the product by central differences. -/
theorem differenceJacobian_eq_squareAndProduct :
    let x : Vector Double 3 := #v[1.0, 2.0, 3.0]
    ∃ F : RowFunction Double 3 2, squareAndProduct.Computes F ∧ ∃ after,
      (Sampling.differenceJacobian squareAndProduct .central x).run (.fresh ()) = (.ok (), after) ∧
        F.real x = .ok after.rows ∧ ∀ column row,
          F.quotient .central x column row = .ok ((after.jacobian.get column).get row) := by
  intro x
  have determined : squareAndProduct.IsDetermined 3 2 0 :=
    Formulas.isDetermined _ fun _ => by simp [Formulas.ofExprs]
  obtain ⟨F, computes⟩ := determined.exists_computes 0 ()
  have described := differenceJacobian_eq_quotient computes .central x (.fresh ())
  have isOk : ((Sampling.differenceJacobian squareAndProduct .central x :
      Sampling Double Unit 3 2 3 Unit).run (.fresh ())).1.isOk := by decide +kernel
  rcases ran : (Sampling.differenceJacobian squareAndProduct .central x).run (.fresh ()) with
    ⟨failure | _, after⟩
  · rw [ran] at isOk
    cases isOk
  · rw [ran] at described
    exact ⟨F, computes, after, rfl, described.2.1 rfl⟩

end NonlinearProgram
