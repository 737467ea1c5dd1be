import NonlinearProgram.AugmentedLagrangian.Program

/-!
# Evaluations within a solve

The solver sees the problem through a callback that fills two buffers. A call counts as defined when
the callback does not object and what it was asked for is finite; only then are the buffers read,
the linear part added, and a new point formed. Function values and Jacobian of a point always stem
from one call.
-/

namespace NonlinearProgram.AugmentedLagrangian

abbrev Columns (R : Type) (n nf : Nat) := Vector (Vector R nf) n

/-- A point with the function values and derivatives there. -/
structure Point (R : Type) (n nf : Nat) where
  x : Vector R n
  f : Vector R nf
  jacobian : Columns R n nf

/-- The buffers lent to the callback, and the callback's own state. -/
structure Evaluator (R τ : Type) (nf neg : Nat) where
  f : Vector R nf
  g : Vector R neg
  /-- Status of the next call: one on the first call, then zero. -/
  status : Int
  calls : Nat
  state : τ

inductive Evaluated (α : Type) where
  | defined (value : α)
  | undefined
  | stop

variable {R : Type} [Arith R] {τ : Type} {n nf neg : Nat}

def Evaluator.fresh (state : τ) : Evaluator R τ nf neg where
  f := .replicate nf 0
  g := .replicate neg 0
  status := 1
  calls := 0
  state

def allFinite {n : Nat} (values : Vector R n) : Bool := values.all Arith.isFinite

/-- The verdict on a reply: the status comes first, then the values, then the derivatives. -/
def verdict (needDerivatives : Bool) (reply : Reply R nf neg) : Evaluated Unit :=
  if reply.status ≤ -2 then .stop
  else if reply.status = -1 then .undefined
  else if !allFinite reply.f then .undefined
  else if needDerivatives && !allFinite reply.g then .undefined
  else .defined ()

def Evaluator.call (evaluator : Evaluator R τ nf neg) (callback : Callback R τ n nf neg)
    (x : Vector R n) (needDerivatives : Bool) : Evaluated Unit × Evaluator R τ nf neg :=
  let request : Request R n := ⟨evaluator.status, x, 1, if needDerivatives then 1 else 0⟩
  let (reply, state) := callback request evaluator.f evaluator.g evaluator.state
  (verdict needDerivatives reply,
    { f := reply.f, g := reply.g, status := 0, calls := evaluator.calls + 1, state })

/-- Notifies the callback of the end of the solve. Its answer is ignored. -/
def Evaluator.finish (evaluator : Evaluator R τ nf neg) (callback : Callback R τ n nf neg)
    (x : Vector R n) : Evaluator R τ nf neg :=
  let (reply, state) := callback ⟨2, x, 0, 0⟩ evaluator.f evaluator.g evaluator.state
  { evaluator with f := reply.f, g := reply.g, state }

/-- Function values with the linear part added, term by term. -/
def assembleValues (linear : List (Fin nf × Fin n × R)) (x : Vector R n) (f : Vector R nf) :
    Vector R nf :=
  linear.foldl (fun f (row, column, a) => f.set row (f.get row + a * x.get column) row.isLt) f

def addEntry (columns : Columns R n nf) (row : Fin nf) (column : Fin n) (value : R) :
    Columns R n nf :=
  let entries := columns.get column
  columns.set column (entries.set row (entries.get row + value) row.isLt) column.isLt

/-- Jacobian of the nonlinear derivatives and the linear part. Entries at one position add up. -/
def assembleJacobian (program : Program R n nf neg) (g : Vector R neg) : Columns R n nf :=
  let zero : Columns R n nf := .replicate n (.replicate nf 0)
  let nonlinear := (program.entries.zip g).toList.foldl
    (fun columns ((row, column), value) => addEntry columns row column value) zero
  program.linear.foldl (fun columns (row, column, a) => addEntry columns row column a) nonlinear

def Evaluator.values (evaluator : Evaluator R τ nf neg) (callback : Callback R τ n nf neg)
    (program : Program R n nf neg) (x : Vector R n) :
    Evaluated (Vector R nf) × Evaluator R τ nf neg :=
  match evaluator.call callback x false with
  | (.defined _, evaluator) => (.defined (assembleValues program.linear x evaluator.f), evaluator)
  | (.undefined, evaluator) => (.undefined, evaluator)
  | (.stop, evaluator) => (.stop, evaluator)

def Evaluator.point (evaluator : Evaluator R τ nf neg) (callback : Callback R τ n nf neg)
    (program : Program R n nf neg) (x : Vector R n) :
    Evaluated (Point R n nf) × Evaluator R τ nf neg :=
  match evaluator.call callback x true with
  | (.defined _, evaluator) =>
      (.defined
        { x
          f := assembleValues program.linear x evaluator.f
          jacobian := assembleJacobian program evaluator.g },
        evaluator)
  | (.undefined, evaluator) => (.undefined, evaluator)
  | (.stop, evaluator) => (.stop, evaluator)

end NonlinearProgram.AugmentedLagrangian
