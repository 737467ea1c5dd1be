import NonlinearProgram.Arith.Basic

/-!
# Bounds as a solver sees them

A solver has no infinite numbers. It takes any bound of magnitude `infiniteBound` or more for
infinite, so bounds are cut off there on the way in and restored on the way out.
-/

namespace NonlinearProgram

variable {R : Type} [Arith R]

def infiniteBound : R := 1.0e20

def cutBound (bound : R) : R := Arith.clamp bound (-infiniteBound) infiniteBound

/-- A bound of a solver with its infinities restored. -/
def restoreBound (bound : R) : R :=
  if infiniteBound ≤ bound then Arith.infinity
  else if bound ≤ -infiniteBound then -Arith.infinity
  else bound

end NonlinearProgram
