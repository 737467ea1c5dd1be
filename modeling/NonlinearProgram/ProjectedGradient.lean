import NonlinearProgram.Backend

/-!
# Projected gradient steps

A solver that takes a fixed number of gradient steps of fixed length, each projected onto the bounds
of the variables. It ignores the constraints, and so serves to show what a backend has to offer. It
can be told to fail, or to return more entries than the problem has.
-/

namespace NonlinearProgram

structure ProjectedGradient (R : Type) where
  step : R
  iterations : Nat
  extraX : Nat := 0
  extraG : Nat := 0
  /-- Reason for which the solver does not run. -/
  failure? : Option String := none

namespace ProjectedGradient

variable {R σ : Type} [Arith R] [Precision R]

def move (step value slope : R) (lower upper : Option R) : R :=
  Arith.clamp (value - step * slope) (lower.getD (-Arith.infinity)) (upper.getD Arith.infinity)

/-- Takes a number of steps. Gives the last point with objective and constraints of the point before
it. -/
def descend (solver : ProjectedGradient R) (d : Differentiator R σ) (bounds : Bounds R) :
    Nat → Vector R d.dims.nx → R → d.Target → d.Memory →
      Except String (Vector R d.dims.nx × R × d.Target) × d.Memory
  | 0, x, f, target, memory => (.ok (x, f, target), memory)
  | steps + 1, x, _, target, memory =>
    match d.evaluate x target true memory with
    | (.error failure, _, memory) => (.error failure.message, memory)
    | (.ok f, target, memory) =>
      let x := Vector.ofFn fun j : Fin d.dims.nx =>
        move solver.step (x.get j) (target.df.get j) bounds.xLower[j.val]? bounds.xUpper[j.val]?
      descend solver d bounds steps x f target memory

def solve (d : Differentiator R σ) (x0 : Vector R d.dims.nx) (bounds : Bounds R)
    (solver : ProjectedGradient R) (memory : d.Memory) :
    Except String (DirectOutcome R) × ProjectedGradient R × d.Memory :=
  match solver.failure? with
  | some reason => (.error reason, solver, memory)
  | none =>
    let target : d.Target := { g := .replicate _ 0, df := .replicate _ 0, dg := .replicate _ 0 }
    match descend solver d bounds solver.iterations x0 0 target memory with
    | (.error reason, memory) => (.error reason, solver, memory)
    | (.ok (x, objective, target), memory) =>
        (.ok
          { x := x.toArray ++ Array.replicate solver.extraX 0
            objective
            constraints := target.g.toArray ++ Array.replicate solver.extraG 0
            status := .feasiblePoint },
          solver, memory)

instance : DirectSolver R (ProjectedGradient R) where
  name _ := "projected-gradient"
  solve := solve

end ProjectedGradient

end NonlinearProgram
