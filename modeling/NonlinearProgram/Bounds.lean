import NonlinearProgram.Setup
import NonlinearProgram.Arith.Basic
import NonlinearProgram.Problem.Basic

/-!
# Bounds

Lower and upper bounds of variables and constraints. An unbounded side is infinite. Bounds belong to
a problem when their lengths fit and no lower bound exceeds its upper bound.
-/

namespace NonlinearProgram

structure Bounds (R : Type) where
  xLower : Array R
  xUpper : Array R
  gLower : Array R
  gUpper : Array R

variable {R : Type} [Arith R]

/-- A lower and an upper bound between which there is nothing, or of which one is not a number. -/
def crossed (lower upper : R) : Bool :=
  decide (upper < lower) || Arith.isNaN lower || Arith.isNaN upper

namespace Bounds

def free (dims : Dimensions) : Bounds R where
  xLower := .replicate dims.nx (-Arith.infinity)
  xUpper := .replicate dims.nx Arith.infinity
  gLower := .replicate dims.ng (-Arith.infinity)
  gUpper := .replicate dims.ng Arith.infinity

/-- Pairs of bounds, the variables' before the constraints'. -/
def pairs (bounds : Bounds R) : List (R × R) :=
  (bounds.xLower.zip bounds.xUpper).toList ++ (bounds.gLower.zip bounds.gUpper).toList

/-- Checks the lengths against problem sizes, then the order of each pair. -/
def validate (bounds : Bounds R) (dims : Dimensions) : Except SetupError Unit := do
  checkExtent .xLower dims.nx bounds.xLower.size
  checkExtent .xUpper dims.nx bounds.xUpper.size
  checkExtent .gLower dims.ng bounds.gLower.size
  checkExtent .gUpper dims.ng bounds.gUpper.size
  match bounds.pairs.findIdx? fun (lower, upper) => crossed lower upper with
  | some position => throw (.unusableValue (.crossedBounds position))
  | none => pure ()

end Bounds

end NonlinearProgram
