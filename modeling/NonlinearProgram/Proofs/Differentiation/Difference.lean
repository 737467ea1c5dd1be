import NonlinearProgram.Differentiation.Difference
import NonlinearProgram.Proofs.Differentiation.Sampling
import NonlinearProgram.Proofs.Pattern.FirstFit

/-!
# What difference quotients are made of

A joint perturbation that succeeds leaves undivided differences of samples at the perturbed points,
`IsJointDifference`, and for every perturbed variable the step that was taken, `Scheme.divisor`. The
samples were found finite, so the differences are taken between finite values. The gradient, the
Jacobian and the compressed Jacobian are described by this, whatever the buffers held before.
-/

namespace NonlinearProgram

variable {R σ : Type} [Arith R] {nx ng groups : Nat}

theorem get_alter {T : Type} (columns : List (Fin nx)) (values : Vector T nx)
    (change : Fin nx → T → T) (column : Fin nx) :
    (alter columns values change).get column =
      if column ∈ columns then change column (values.get column) else values.get column := by
  simp [alter]

variable [Precision R]

/-- The step that is taken for a variable at `x`. -/
def Scheme.divisor (scheme : Scheme) (x : R) : R :=
  match scheme with
  | forward => (x + forward.step x) - x
  | central => (x + central.step x) - (x - central.step x)
  | .complexStep => NonlinearProgram.complexStep

/-- `raw` holds the undivided differences of the function rows that a joint perturbation of some
variables gives; `base` holds the function rows at `x`. -/
def IsJointDifference (problem : Problem R σ) (x : Vector R nx) (columns : List (Fin nx)) :
    Scheme → Vector R (ng + 1) → Vector R (ng + 1) → Prop
  | .forward, base, raw => ∃ plus,
      IsSample (problem.real (alter columns x fun _ value => value + Scheme.forward.step value))
        plus ∧
      raw = plus.zipWith (· - ·) base
  | .central, _, raw => ∃ plus minus,
      IsSample (problem.real (alter columns x fun _ value => value + Scheme.central.step value))
        plus ∧
      IsSample (problem.real (alter columns x fun _ value => value - Scheme.central.step value))
        minus ∧
      raw = plus.zipWith (· - ·) minus
  | .complexStep, _, raw => ∃ rows,
      IsSample (problem.complex
        (alter columns (x.map Complex.ofReal) fun _ value => ⟨value.re, complexStep⟩)) rows ∧
      raw = rows.map Complex.im

/-- `entries` holds the difference quotients of the function rows in one variable. -/
def IsQuotientColumn (problem : Problem R σ) (scheme : Scheme) (x : Vector R nx)
    (base : Vector R (ng + 1)) (column : Fin nx) (entries : Vector R (ng + 1)) : Prop :=
  ∃ raw, IsJointDifference problem x [column] scheme base raw ∧
    entries = raw.map (· / scheme.divisor (x.get column))

/-- A difference of finite values, or the imaginary part of one. -/
def Scheme.IsFiniteDifference (scheme : Scheme) (raw : R) : Prop :=
  match scheme with
  | forward | central =>
      ∃ left right, Arith.isFinite left ∧ Arith.isFinite right ∧ raw = left - right
  | .complexStep => Arith.isFinite raw

/-- Undivided differences that a joint perturbation has left, where all samples are finite. -/
structure IsTakenDifference (problem : Problem R σ) (x : Vector R nx) (columns : List (Fin nx))
    (scheme : Scheme) (base raw : Vector R (ng + 1)) : Prop where
  joint : IsJointDifference problem x columns scheme base raw
  finite : (∀ row, Arith.isFinite (base.get row)) → ∀ row, scheme.IsFiniteDifference (raw.get row)

namespace Sampling

variable {problem : Problem R σ} {scheme : Scheme} {x : Vector R nx} {base : Vector R (ng + 1)}

/-- A joint perturbation that succeeds leaves its differences and divisors. -/
theorem jointDifference_ok {columns : List (Fin nx)} {before after : Scratch R σ nx ng groups}
    {value : Unit}
    (run : (jointDifference problem x columns scheme base).run before = (.ok value, after)) :
    IsTakenDifference problem x columns scheme base after.raw ∧
      after.divisors =
        alter columns before.divisors (fun column _ => scheme.divisor (x.get column)) ∧
      after.rows = before.rows ∧ after.gradient = before.gradient ∧
      after.jacobian = before.jacobian := by
  cases scheme with
  | forward =>
      simp only [jointDifference, setDivisors, samplePlus, run_bind_eq_ok, run_modify_eq_ok] at run
      rcases run with ⟨_, _, rfl, _, _, sampled, rfl⟩
      rcases sample_finite sampled with ⟨plus, state, isSample, finite, rfl⟩
      refine ⟨⟨⟨plus, isSample, rfl⟩, ?_⟩, ?_, rfl, rfl, rfl⟩
      · intro finiteBase row
        exact ⟨plus.get row, base.get row, finite row, finiteBase row, by simp⟩
      · ext column inside
        simp +contextual [alter, Scheme.divisor]
  | central =>
      simp only [jointDifference, setDivisors, samplePlus, sampleMinus, run_bind_eq_ok,
        run_modify_eq_ok] at run
      rcases run with ⟨_, _, sampledPlus, _, _, sampledMinus, _, _, rfl, rfl⟩
      rcases sample_finite sampledPlus with ⟨plus, _, isPlus, finitePlus, rfl⟩
      rcases sample_finite sampledMinus with ⟨minus, _, isMinus, finiteMinus, rfl⟩
      refine ⟨⟨⟨plus, minus, isPlus, isMinus, rfl⟩, ?_⟩, rfl, rfl, rfl, rfl⟩
      intro _ row
      exact ⟨plus.get row, minus.get row, finitePlus row, finiteMinus row, by simp⟩
  | complexStep =>
      simp only [jointDifference, setDivisors, sampleComplex, run_bind_eq_ok, run_modify_eq_ok]
        at run
      rcases run with ⟨_, _, rfl, _, _, sampled, rfl⟩
      rcases sample_finite sampled with ⟨rows, _, isSample, finite, rfl⟩
      refine ⟨⟨⟨rows, isSample, rfl⟩, ?_⟩, rfl, rfl, rfl, rfl⟩
      intro _ row
      have parts : Arith.isFinite (rows.get row).re = true ∧
          Arith.isFinite (rows.get row).im = true := by
        simpa [Complex.isFinite] using finite row
      simpa [Scheme.IsFiniteDifference] using parts.2

/-! ## Loops over variables and colours -/

/-- One variable's difference, once it has been taken, stands beside its divisor. -/
theorem jointDifference_divisor {column : Fin nx} {before after : Scratch R σ nx ng groups}
    {value : Unit}
    (run : (jointDifference problem x [column] scheme base).run before = (.ok value, after)) :
    after.divisors.get column = scheme.divisor (x.get column) := by
  rw [(jointDifference_ok run).2.1, get_alter, if_pos (List.mem_singleton_self column)]

/-- A Jacobian that is formed consists of the quotients in one variable at a time. -/
theorem differenceJacobian_ok {before after : Scratch R σ nx ng nx} {value : Unit}
    (run : (differenceJacobian problem scheme x).run before = (.ok value, after)) :
    IsSample (problem.real x) after.rows ∧ (∀ row, Arith.isFinite (after.rows.get row)) ∧
      ∀ column : Fin nx, ∃ raw, IsTakenDifference problem x [column] scheme after.rows raw ∧
        after.jacobian.get column = raw.map (· / scheme.divisor (x.get column)) := by
  simp only [differenceJacobian, run_bind_eq_ok, run_get_eq_ok] at run
  obtain ⟨_, _, rowsRun, _, sampled, ⟨rfl, rfl⟩, loop⟩ := run
  have rows : after.rows = sampled.rows := by
    refine forM_preserves Scratch.rows ?_ loop
    intro column before after pass
    obtain ⟨_, differenced, joint, rfl⟩ := run_bind_modify_eq_ok.1 pass
    exact (jointDifference_ok joint).2.2.1
  have columns : ∀ column : Fin nx, ∃ raw,
      IsTakenDifference problem x [column] scheme sampled.rows raw ∧
        after.jacobian.get column = raw.map (· / scheme.divisor (x.get column)) := by
    refine forM_finRange_ok (fun column scratch => ∃ raw,
      IsTakenDifference problem x [column] scheme sampled.rows raw ∧
        scratch.jacobian.get column = raw.map (· / scheme.divisor (x.get column))) ?_ ?_ loop
    · intro column before after pass
      obtain ⟨_, differenced, joint, rfl⟩ := run_bind_modify_eq_ok.1 pass
      refine ⟨differenced.raw, (jointDifference_ok joint).1, ?_⟩
      rw [get_set, if_pos rfl, jointDifference_divisor joint]
    · intro column other before after different earlier pass
      obtain ⟨_, differenced, joint, rfl⟩ := run_bind_modify_eq_ok.1 pass
      rw [get_set, if_neg different, (jointDifference_ok joint).2.2.2.2]
      exact earlier
  obtain ⟨_, _, isSample, finite, rfl⟩ := sample_finite rowsRun
  rw [rows]
  exact ⟨isSample, finite, columns⟩

/-- The gradient that is formed consists of the objective's quotients in one variable at a time;
rows and columns of derivatives are not touched. -/
theorem differenceGradient_ok {before after : Scratch R σ nx ng groups} {value : PUnit}
    (run : (differenceGradient problem scheme x base).run before = (.ok value, after)) :
    after.rows = before.rows ∧ after.jacobian = before.jacobian ∧
      ∀ column : Fin nx, ∃ raw, IsTakenDifference problem x [column] scheme base raw ∧
        after.gradient.get column = raw.get 0 / scheme.divisor (x.get column) := by
  have others : (after.rows, after.jacobian) = (before.rows, before.jacobian) := by
    refine forM_preserves (fun scratch => (scratch.rows, scratch.jacobian)) ?_ run
    intro column before after pass
    obtain ⟨_, differenced, joint, rfl⟩ := run_bind_modify_eq_ok.1 pass
    obtain ⟨_, _, rows, _, jacobian⟩ := jointDifference_ok joint
    exact Prod.ext rows jacobian
  obtain ⟨rows, jacobian⟩ := Prod.mk.inj others
  refine ⟨rows, jacobian, ?_⟩
  refine forM_finRange_ok (fun column scratch => ∃ raw,
    IsTakenDifference problem x [column] scheme base raw ∧
      scratch.gradient.get column = raw.get 0 / scheme.divisor (x.get column)) ?_ ?_ run
  · intro column before after pass
    obtain ⟨_, differenced, joint, rfl⟩ := run_bind_modify_eq_ok.1 pass
    refine ⟨differenced.raw, (jointDifference_ok joint).1, ?_⟩
    rw [get_set, if_pos rfl, jointDifference_divisor joint]
  · intro column other before after different earlier pass
    obtain ⟨_, differenced, joint, rfl⟩ := run_bind_modify_eq_ok.1 pass
    rw [get_set, if_neg different, (jointDifference_ok joint).2.2.2.1]
    exact earlier

/-- Every compressed column that is formed holds the differences of its colour, and every variable
with a colour has its own divisor beside them. -/
theorem differenceCompressed_ok {coloring : Coloring nx}
    {before after : Scratch R σ nx ng coloring.count} {value : PUnit}
    (run : (differenceCompressed problem scheme coloring x base).run before = (.ok value, after)) :
    after.rows = before.rows ∧ after.gradient = before.gradient ∧
      (∀ color : Fin coloring.count,
        IsTakenDifference problem x (coloring.columns color) scheme base
          (after.jacobian.get color)) ∧
      ∀ column : Fin nx, coloring.colors.get column < coloring.count →
        after.divisors.get column = scheme.divisor (x.get column) := by
  have others : (after.rows, after.gradient) = (before.rows, before.gradient) := by
    refine forM_preserves (fun scratch => (scratch.rows, scratch.gradient)) ?_ run
    intro color before after pass
    obtain ⟨_, differenced, joint, rfl⟩ := run_bind_modify_eq_ok.1 pass
    obtain ⟨_, _, rows, gradient, _⟩ := jointDifference_ok joint
    exact Prod.ext rows gradient
  obtain ⟨rows, gradient⟩ := Prod.mk.inj others
  refine ⟨rows, gradient, ?_, ?_⟩
  · refine forM_finRange_ok (fun color scratch =>
      IsTakenDifference problem x (coloring.columns color) scheme base
        (scratch.jacobian.get color)) ?_ ?_ run
    · intro color before after pass
      obtain ⟨_, differenced, joint, rfl⟩ := run_bind_modify_eq_ok.1 pass
      rw [get_set, if_pos rfl]
      exact (jointDifference_ok joint).1
    · intro color other before after different earlier pass
      obtain ⟨_, differenced, joint, rfl⟩ := run_bind_modify_eq_ok.1 pass
      rw [get_set, if_neg different, (jointDifference_ok joint).2.2.2.2]
      exact earlier
  · intro column inside
    refine forM_finRange_ok (fun color scratch => ∀ column ∈ coloring.columns color,
      scratch.divisors.get column = scheme.divisor (x.get column)) ?_ ?_ run
      ⟨coloring.colors.get column, inside⟩ column ((coloring.mem_columns inside column).2 rfl)
    · intro color before after pass column inColor
      obtain ⟨_, differenced, joint, rfl⟩ := run_bind_modify_eq_ok.1 pass
      change differenced.divisors.get column = _
      rw [(jointDifference_ok joint).2.1, get_alter, if_pos inColor]
    · intro color other before after _ earlier pass column inOther
      obtain ⟨_, differenced, joint, rfl⟩ := run_bind_modify_eq_ok.1 pass
      change differenced.divisors.get column = _
      rw [(jointDifference_ok joint).2.1, get_alter]
      split
      case isTrue => rfl
      case isFalse => exact earlier column inOther

end Sampling

end NonlinearProgram
