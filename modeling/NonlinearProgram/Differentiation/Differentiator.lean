import NonlinearProgram.Differentiation.Difference
import NonlinearProgram.Differentiation.Sweep
import NonlinearProgram.Pattern.Basic

/-!
# Differentiators

A differentiator joins a problem, a layout of its derivatives and a method, and offers one entry
point: values at a point, with derivatives if they are needed.

* With a dense layout the whole Jacobian of the function rows is formed, one variable at a time. The
  constraint part is delivered column by column.
* With a sparse layout the constraint Jacobian is compressed by a colouring and delivered in
  declared order. The objective gradient is always formed by differences, one variable at a time.
* Supplied derivatives are passed through in either layout.

The caller's buffers are written when an evaluation succeeds. Two writes happen before that:
supplied derivatives go straight into the buffers, and the gradient of a sparse layout is written
entry by entry.
-/

namespace NonlinearProgram

/-- Layout of the constraint derivatives of a problem with given sizes. -/
inductive Layout (nx ng : Nat) where
  | dense
  /-- Declared entries, with a colouring that separates their columns. -/
  | sparse (entries : Entries ng nx) (coloring : Coloring nx)

namespace Layout

variable {nx ng : Nat}

def length : Layout nx ng → Nat
  | dense => nx * ng
  | sparse entries _ => entries.pairs.length

/-- Number of sweeps that cover all columns. -/
def sweeps : Layout nx ng → Nat
  | dense => nx
  | sparse _ coloring => coloring.count

def isDense : Layout nx ng → Bool
  | dense => true
  | sparse .. => false

def pattern : Layout nx ng → Pattern
  | dense => .dense nx (ng + 1)
  | sparse entries _ => .sparse ng nx entries

end Layout

/-- A problem together with the way its derivatives are obtained. -/
structure Differentiator (R σ : Type) where
  dims : Dimensions
  problem : Problem R σ
  layout : Layout dims.nx dims.ng
  method : Method

namespace Differentiator

variable {R σ : Type}

/-- Differentiator of a problem for a pattern, if the pattern has an objective row and the problem
supplies the derivatives that the method relies on. -/
def build (problem : Problem R σ) (pattern : Pattern) (method : Method) :
    Except SetupError (Differentiator R σ) := do
  let dims ← pattern.dimensions
  if method = .supplied ∧ !problem.hasDerivatives then
    throw (.methodUnavailable method)
  match pattern with
  | .dense nx _ => return { dims := ⟨nx, dims.ng⟩, problem, layout := .dense, method }
  | .sparse nrows ncols entries =>
      return { dims := ⟨ncols, nrows⟩, problem, layout := .sparse entries (.greedy entries.pairs)
               method }

abbrev pattern (differentiator : Differentiator R σ) : Pattern := differentiator.layout.pattern

/-- Buffers of the caller of a differentiator. -/
abbrev Target (differentiator : Differentiator R σ) : Type :=
  Buffers R differentiator.dims.nx differentiator.dims.ng differentiator.layout.length

/-- Buffers a differentiator keeps between evaluations. -/
abbrev Memory (differentiator : Differentiator R σ) : Type :=
  Scratch R σ differentiator.dims.nx differentiator.dims.ng differentiator.layout.sweeps

end Differentiator

section Evaluation

variable {R σ : Type} [Arith R] [Precision R] {nx ng : Nat}

/-- Values alone, the caller's derivatives left as they are. -/
def evaluateValues {groups nj : Nat} (problem : Problem R σ) (x : Vector R nx)
    (target : Buffers R nx ng nj) (scratch : Scratch R σ nx ng groups) :
    Except EvaluationFailure R × Buffers R nx ng nj × Scratch R σ nx ng groups :=
  match (Sampling.sampleRows problem x).run scratch with
  | (.error failure, scratch) => (.error failure, target, scratch)
  | (.ok _, scratch) =>
      (.ok (scratch.rows.get objectiveRow), { target with g := scratch.rows.tail }, scratch)

/-- Values and supplied derivatives, checked in the order gradient, Jacobian, objective,
constraints. -/
def evaluateSupplied {groups nj : Nat} (problem : Problem R σ) (x : Vector R nx)
    (target : Buffers R nx ng nj) (needDerivatives : Bool) (scratch : Scratch R σ nx ng groups) :
    Except EvaluationFailure R × Buffers R nx ng nj × Scratch R σ nx ng groups :=
  let ((outcome, target), state) :=
    if needDerivatives then problem.evaluateWithDerivatives x target scratch.state
    else
      let (evaluation, state) := problem.real x target.g scratch.state
      ((evaluation.outcome, { target with g := evaluation.constraints }), state)
  let checked := do
    let objective ← outcome
    if needDerivatives then
      requireFinite Arith.isFinite .gradient target.df
      requireFinite Arith.isFinite .jacobian target.dg
    requireFinite Arith.isFinite .objective (.singleton objective)
    requireFinite Arith.isFinite .constraint target.g
    return objective
  (checked, target, { scratch with state })

def Sampling.jacobian (problem : Problem R σ) (scheme? : Option Scheme) (x : Vector R nx) :
    Sampling R σ nx ng nx Unit :=
  match scheme? with
  | some scheme => differenceJacobian problem scheme x
  | none => sweepJacobian problem x

def evaluateDense (problem : Problem R σ) (scheme? : Option Scheme) (x : Vector R nx)
    (target : Buffers R nx ng (nx * ng)) (scratch : Scratch R σ nx ng nx) :
    Except EvaluationFailure R × Buffers R nx ng (nx * ng) × Scratch R σ nx ng nx :=
  match (Sampling.jacobian problem scheme? x).run scratch with
  | (.error failure, scratch) => (.error failure, target, scratch)
  | (.ok _, scratch) =>
      (.ok (scratch.rows.get objectiveRow),
        { g := scratch.rows.tail
          df := scratch.jacobian.map (·.get objectiveRow)
          dg := (scratch.jacobian.map fun column => (column.tail : Vector R ng)).flatten },
        scratch)

/-- Objective gradient and compressed constraint derivatives by the given method; gives the divisor
of each variable. Differences sample the rows first and compress last. Sweeps come first, and the
gradient is then formed by forward differences. -/
def Sampling.compressed (problem : Problem R σ) (scheme? : Option Scheme) (coloring : Coloring nx)
    (x : Vector R nx) : Sampling R σ nx ng coloring.count (Vector R nx) := do
  match scheme? with
  | some scheme =>
      sampleRows problem x
      let base := (← get).rows
      differenceGradient problem scheme x base
      differenceCompressed problem scheme coloring x base
      return (← get).divisors
  | none =>
      sweepCompressed problem coloring x
      differenceGradient problem .forward x (← get).rows
      return .replicate nx 1

/-- Constraint derivatives read off compressed columns of all function rows. -/
def Coloring.decompressRows (coloring : Coloring nx) (pairs : List (Fin ng × Fin nx))
    (compressed : Vector (Vector R (ng + 1)) coloring.count) (divisors : Vector R nx) :
    Vector R pairs.length :=
  ⟨(coloring.decompress pairs
      (fun row color => (compressed[color]?.bind (·[row]?)).getD 0) 1
      fun column => divisors.get column).toArray, by simp [Coloring.decompress]⟩

/-- Values and derivatives in declared order. The gradient is written as it is formed. -/
def evaluateSparse (problem : Problem R σ) (scheme? : Option Scheme) (entries : Entries ng nx)
    (coloring : Coloring nx) (x : Vector R nx) (target : Buffers R nx ng entries.pairs.length)
    (scratch : Scratch R σ nx ng coloring.count) :
    Except EvaluationFailure R × Buffers R nx ng entries.pairs.length ×
      Scratch R σ nx ng coloring.count :=
  match (Sampling.compressed problem scheme? coloring x).run
      { scratch with gradient := target.df } with
  | (.error failure, scratch) => (.error failure, { target with df := scratch.gradient }, scratch)
  | (.ok divisors, scratch) =>
      (.ok (scratch.rows.get objectiveRow),
        { g := scratch.rows.tail
          df := scratch.gradient
          dg := coloring.decompressRows entries.pairs scratch.jacobian divisors },
        scratch)

/-- Values and derivatives in a layout, by a method other than supplied derivatives. -/
def evaluateLayout (problem : Problem R σ) (scheme? : Option Scheme) (x : Vector R nx) :
    (layout : Layout nx ng) → Buffers R nx ng layout.length → Scratch R σ nx ng layout.sweeps →
      Except EvaluationFailure R × Buffers R nx ng layout.length × Scratch R σ nx ng layout.sweeps
  | .dense, target, scratch => evaluateDense problem scheme? x target scratch
  | .sparse entries coloring, target, scratch =>
      evaluateSparse problem scheme? entries coloring x target scratch

/-- Objective at a point. The buffers receive the constraint values and, if needed, the
derivatives. A failure concerns this point alone: the differentiator stays usable. -/
def Differentiator.evaluate (differentiator : Differentiator R σ)
    (x : Vector R differentiator.dims.nx) (target : differentiator.Target)
    (needDerivatives : Bool) (memory : differentiator.Memory) :
    Except EvaluationFailure R × differentiator.Target × differentiator.Memory :=
  if differentiator.method = .supplied then
    evaluateSupplied differentiator.problem x target needDerivatives memory
  else if needDerivatives then
    evaluateLayout differentiator.problem differentiator.method.scheme? x differentiator.layout
      target memory
  else evaluateValues differentiator.problem x target memory

end Evaluation

end NonlinearProgram
