import NonlinearProgram.Differentiation.Differentiator
import NonlinearProgram.Solver.Engine

/-!
# Relays

A relay answers the requests of a solver with a differentiator. Function values come as the
objective followed by the constraints. Derivatives come in the order of `Pattern.solverPositions`: a
dense layout column by column over all function rows, a sparse one as the objective gradient
followed by the declared entries.

A failed evaluation leaves the solver's buffers alone and asks it to back off. The relay counts what
becomes of the requests.
-/

namespace NonlinearProgram

structure RelayStats where
  evaluations : Nat := 0
  /-- Of those, requests for derivatives. -/
  derivativeEvaluations : Nat := 0
  failures : Nat := 0
  /-- Notifications of the end of a solve. -/
  notifications : Nat := 0
  deriving DecidableEq, Repr

/-- Position of an entry in a matrix stored column by column. -/
def flatIndex {nrows ncols : Nat} (row : Fin nrows) (column : Fin ncols) : Fin (ncols * nrows) :=
  ⟨column * nrows + row, by
    have inside : (column + 1) * nrows ≤ ncols * nrows := Nat.mul_le_mul_right _ column.isLt
    have next : (column.val + 1) * nrows = column * nrows + nrows := Nat.succ_mul ..
    have := row.isLt
    omega⟩

def stackRows {R : Type} {ng : Nat} (objective : R) (g : Vector R ng) : Vector R (ng + 1) :=
  .ofFn fun row : Fin (ng + 1) => row.cases objective fun i => g.get i

namespace Layout

variable {R : Type} {nx ng : Nat}

abbrev solverLength (layout : Layout nx ng) : Nat := layout.pattern.solverSize

/-- Derivatives in the order of the solver's structure. -/
def solverDerivatives (df : Vector R nx) :
    (layout : Layout nx ng) → Vector R layout.length → Vector R layout.solverLength
  | dense, dg => (Vector.ofFn fun column : Fin nx =>
      stackRows (df.get column) (.ofFn fun row : Fin ng => dg.get (flatIndex row column))).flatten
  | sparse .., dg => df ++ dg

end Layout

structure Relay {R σ : Type} (d : Differentiator R σ) where
  memory : d.Memory
  target : d.Target
  stats : RelayStats := {}

namespace Relay

variable {R σ : Type} [Arith R]

def fresh {d : Differentiator R σ} (memory : d.Memory) : Relay d where
  memory
  target := { g := .replicate _ 0, df := .replicate _ 0, dg := .replicate _ 0 }

variable [Precision R]

/-- The callback that answers with a differentiator. -/
def callback (d : Differentiator R σ) :
    Callback R (Relay d) d.dims.nx d.dims.rows d.layout.solverLength :=
  fun request f g relay =>
    let stats := relay.stats
    if 2 ≤ request.status then
      (⟨request.status, f, g⟩,
        { relay with stats := { stats with notifications := stats.notifications + 1 } })
    else
      let needDerivatives : Bool := 0 < request.derivativesWanted
      match d.evaluate request.x relay.target needDerivatives relay.memory with
      | (.error _, target, memory) =>
          (⟨-1, f, g⟩, ⟨memory, target, { stats with failures := stats.failures + 1 }⟩)
      | (.ok objective, target, memory) =>
          let evaluations := stats.evaluations + 1
          let f := stackRows objective target.g
          if needDerivatives then
            (⟨request.status, f, d.layout.solverDerivatives target.df target.dg⟩,
              ⟨memory, target,
                { stats with
                  evaluations, derivativeEvaluations := stats.derivativeEvaluations + 1 }⟩)
          else (⟨request.status, f, g⟩, ⟨memory, target, { stats with evaluations }⟩)

end Relay

end NonlinearProgram
