import NonlinearProgram.Differentiation.Difference

/-!
# Pattern detection

The constraint pattern of a problem, guessed from its difference quotients at three probe points: an
entry belongs to the pattern when the sum of its magnitudes over the probes is not exactly zero.
An entry that vanishes at every probe is missed.
-/

namespace NonlinearProgram

variable {R σ : Type} [Arith R]

/-- Three points at which a pattern is probed. -/
abbrev Probes (R : Type) := Vector (Array R) 3

namespace Probes

/-- The probes as points of the size of the first one. -/
def points (probes : Probes R) : Except SetupError (List (Vector R probes[0].size)) :=
  probes.toList.zipIdx.mapM fun (probe, index) =>
    if same : probe.size = probes[0].size then .ok ⟨probe, same⟩
    else .error (.wrongSize (.probe (some index)) probes[0].size probe.size)

/-- The first pair of probes that agree in every coordinate. -/
def identical? (probes : Probes R) : Option (Nat × Nat) :=
  [(0, 1), (0, 2), (1, 2)].find? fun (first, second) =>
    match probes[first]?, probes[second]? with
    | some first, some second => first == second
    | _, _ => false

/-- The probes have one size and are pairwise different. -/
def check (probes : Probes R) : Except SetupError (List (Vector R probes[0].size)) := do
  let points ← probes.points
  match probes.identical? with
  | some (first, second) => throw (.unusableValue (.identicalProbes first second))
  | none => return points

end Probes

variable [Precision R]

/-- Sum over some points of the magnitudes of the constraint Jacobian, added to `total`. -/
def Sampling.addMagnitudes {nx ng : Nat} (problem : Problem R σ) (scheme : Scheme)
    (total : Vector (Vector R ng) nx) :
    List (Vector R nx) → Sampling R σ nx ng nx (Vector (Vector R ng) nx)
  | [] => return total
  | point :: rest => do
      differenceJacobian problem scheme point
      let jacobian := (← get).jacobian
      let total := total.zipWith
        (fun sums column => sums.zipWith (fun sum value => sum + Arith.abs value) column.tail)
        jacobian
      addMagnitudes problem scheme total rest

/-- Constraint pattern of a problem with `ng` constraints, detected at three probes. -/
def Pattern.detect (problem : Problem R σ) (ng : Nat) (probes : Probes R) (scheme : Scheme)
    (state : σ) : Except SetupError Pattern × σ :=
  match probes.check with
  | .error failure => (.error failure, state)
  | .ok points =>
    let zero := Vector.replicate _ (Vector.replicate ng 0)
    match (Sampling.addMagnitudes problem scheme zero points).run (.fresh state) with
    | (.ok magnitudes, scratch) => (.ok (.ofMatrix magnitudes), scratch.state)
    | (.error failure, scratch) => (.error (.evaluation failure), scratch.state)

end NonlinearProgram
