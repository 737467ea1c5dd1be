import NonlinearProgram.Problem.Basic

/-!
# Sampling a problem

Derivatives are formed from samples: evaluations of all function rows, the objective in row zero and
the constraints after it, at a perturbed or seeded point. Each sample is taken into a buffer that is
kept from one evaluation to the next, because a problem need not write every constraint value it is
asked for. `Scratch` holds these buffers together with the state of the problem.

A sample fails if the problem does, or if a row is not finite. A failure keeps what has been
written.
-/

namespace NonlinearProgram

variable {R σ : Type} {nx ng groups : Nat}

/-- Buffers of an evaluation, one column of `jacobian` for each of `groups` sweeps. -/
structure Scratch (R σ : Type) (nx ng groups : Nat) where
  state : σ
  rows : Vector R (ng + 1)
  plus : Vector R (ng + 1)
  minus : Vector R (ng + 1)
  complexRows : Vector (Complex R) (ng + 1)
  dualRows : Vector (Dual R) (ng + 1)
  /-- Differences of function rows, before division. -/
  raw : Vector R (ng + 1)
  /-- Divisor of the difference taken for each variable. -/
  divisors : Vector R nx
  gradient : Vector R nx
  /-- Columns of derivatives of the function rows. -/
  jacobian : Vector (Vector R (ng + 1)) groups

def Scratch.fresh [Arith R] (state : σ) : Scratch R σ nx ng groups where
  state
  rows := .replicate _ 0
  plus := .replicate _ 0
  minus := .replicate _ 0
  complexRows := .replicate _ (.ofReal 0)
  dualRows := .replicate _ (.ofReal 0)
  raw := .replicate _ 0
  divisors := .replicate _ 1
  gradient := .replicate _ 0
  jacobian := .replicate _ (.replicate _ 0)

/-- A computation on the buffers that may fail, and keeps what it wrote. -/
abbrev Sampling (R σ : Type) (nx ng groups : Nat) (α : Type) :=
  ExceptT EvaluationFailure (StateM (Scratch R σ nx ng groups)) α

/-- Names the first value that is not finite. -/
def requireFinite {T : Type} {n : Nat} (isFinite : T → Bool) (quantity : Quantity)
    (values : Vector T n) : Except EvaluationFailure Unit :=
  match values.toList.findIdx? fun value => !isFinite value with
  | some index => .error (.nonFinite quantity index)
  | none => .ok ()

/-- Row of the objective among the function rows. -/
abbrev objectiveRow : Fin (ng + 1) := 0

/-- Function rows of an objective and constraint values. -/
def functionRows {T : Type} (objective : T) (constraints : Vector T ng) : Vector T (ng + 1) :=
  (#v[objective] ++ constraints).cast (Nat.add_comm 1 ng)

@[simp] theorem getElem_functionRows_zero {T : Type} (objective : T) (constraints : Vector T ng) :
    (functionRows objective constraints)[0] = objective := by
  simp [functionRows]

@[simp] theorem getElem_functionRows_succ {T : Type} (objective : T) (constraints : Vector T ng)
    (row : Nat) (inside : row + 1 < ng + 1) :
    (functionRows objective constraints)[row + 1] = constraints[row] := by
  simp [functionRows]

/-- Evaluates all function rows into a buffer. The objective's row keeps its value when the problem
fails. -/
def evaluateRows {T : Type} (isFinite : T → Bool)
    (evaluate : Vector T ng → StateM σ (Evaluation T ng)) (rows : Vector T (ng + 1)) :
    StateM σ (Except EvaluationFailure Unit × Vector T (ng + 1)) := do
  let evaluation ← evaluate rows.tail
  match evaluation.outcome with
  | .ok objective =>
      let rows := functionRows objective evaluation.constraints
      return (requireFinite isFinite .function rows, rows)
  | .error failure =>
      return (.error failure, functionRows (rows.get objectiveRow) evaluation.constraints)

namespace Sampling

/-- Takes a sample into one of the buffers. -/
def sample {T : Type} (isFinite : T → Bool) (evaluate : Vector T ng → StateM σ (Evaluation T ng))
    (buffer : Scratch R σ nx ng groups → Vector T (ng + 1))
    (store : Scratch R σ nx ng groups → Vector T (ng + 1) → Scratch R σ nx ng groups) :
    Sampling R σ nx ng groups Unit :=
  ExceptT.mk fun scratch =>
    let ((outcome, rows), state) := evaluateRows isFinite evaluate (buffer scratch) scratch.state
    (outcome, { store scratch rows with state })

variable [Arith R] (problem : Problem R σ)

/-- Function rows at the current point. -/
def sampleRows (x : Vector R nx) : Sampling R σ nx ng groups Unit :=
  sample Arith.isFinite (problem.real x) Scratch.rows fun scratch rows => { scratch with rows }

/-- Function rows after a step forward. -/
def samplePlus (x : Vector R nx) : Sampling R σ nx ng groups Unit :=
  sample Arith.isFinite (problem.real x) Scratch.plus fun scratch plus => { scratch with plus }

/-- Function rows after a step backward. -/
def sampleMinus (x : Vector R nx) : Sampling R σ nx ng groups Unit :=
  sample Arith.isFinite (problem.real x) Scratch.minus fun scratch minus => { scratch with minus }

/-- Function rows after an imaginary step. -/
def sampleComplex (x : Vector (Complex R) nx) : Sampling R σ nx ng groups Unit :=
  sample Complex.isFinite (problem.complex x) Scratch.complexRows
    fun scratch complexRows => { scratch with complexRows }

/-- Function rows with tangents. -/
def sampleDual (x : Vector (Dual R) nx) : Sampling R σ nx ng groups Unit :=
  sample Dual.isFinite (problem.dual x) Scratch.dualRows
    fun scratch dualRows => { scratch with dualRows }

end Sampling

end NonlinearProgram
