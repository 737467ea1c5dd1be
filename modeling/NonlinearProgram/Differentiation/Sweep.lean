import NonlinearProgram.Differentiation.Scratch
import NonlinearProgram.Pattern.Coloring

/-!
# Dual sweeps

A sweep seeds some variables with a unit tangent and evaluates all function rows once: the tangents
are the sum of the seeded columns of the Jacobian. One variable per sweep gives the Jacobian, all
variables of one colour a compressed column. The function rows come from the last sweep; without a
variable to seed they come from a real evaluation.
-/

namespace NonlinearProgram.Sampling

variable {R σ : Type} [Arith R] {nx ng groups : Nat}

/-- A point with unit tangents at the given positions. -/
def seeded (x : Vector R nx) (columns : List (Fin nx)) : Vector (Dual R) nx :=
  .ofFn fun column => ⟨x.get column, if columns.contains column then 1 else 0⟩

/-- Evaluates all function rows with unit tangents on some variables. -/
def sweep (problem : Problem R σ) (x : Vector R nx) (columns : List (Fin nx)) :
    Sampling R σ nx ng groups Unit :=
  sampleDual problem (seeded x columns)

/-- Sweeps once for each group and stores the tangents; the rows are those of the last sweep. -/
def sweepGroups (problem : Problem R σ) (x : Vector R nx) (columns : Fin groups → List (Fin nx)) :
    Sampling R σ nx ng groups Unit := do
  (List.finRange groups).forM fun group => do
    sweep problem x (columns group)
    modify fun scratch =>
      let tangents := scratch.dualRows.map Dual.tangent
      { scratch with jacobian := scratch.jacobian.set group tangents group.isLt }
  modify fun scratch => { scratch with rows := scratch.dualRows.map Dual.re }

/-- Jacobian of all function rows, one sweep per variable, and the rows themselves. -/
def sweepJacobian (problem : Problem R σ) (x : Vector R nx) : Sampling R σ nx ng nx Unit :=
  if nx = 0 then sampleRows problem x
  else sweepGroups problem x fun column => [column]

/-- Compressed Jacobian of all function rows, one sweep per colour, and the rows themselves. -/
def sweepCompressed (problem : Problem R σ) (coloring : Coloring nx) (x : Vector R nx) :
    Sampling R σ nx ng coloring.count Unit :=
  if coloring.count = 0 then sampleRows problem x
  else sweepGroups problem x fun color => coloring.columns color

end NonlinearProgram.Sampling
