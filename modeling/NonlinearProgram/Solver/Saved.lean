import NonlinearProgram.Solver.Start

/-!
# Saved starts

A starting state is saved as a record of its parts and may be loaded later. A record that comes from
elsewhere can have any parts, and loading accepts those that agree with each other.
-/

namespace NonlinearProgram

/-- A saved start, decoded but not checked. -/
structure SavedRecord (R : Type) where
  mode : StartMode
  state : SolverState R

/-- What a start is saved as. -/
def Start.record {R : Type} (start : Start R) : SavedRecord R := ⟨start.mode, start.state⟩

namespace SavedRecord

variable {R : Type}

/-- First state code that no solver accepts, the variables' before the rows'. -/
def badCode? (state : SolverState R) : Option Int :=
  (state.xState.toList ++ state.fState.toList).find? fun code =>
    !(0 ≤ code && code ≤ largestStateCode)

/-- The start a record describes: its lengths agree, the number of superbasics is not negative, and
every state code is one a solver accepts. -/
def load (saved : SavedRecord R) : Except SetupError (Start R) := do
  let state := saved.state
  checkExtent (.savedStart .xState) state.x.size state.xState.size
  checkExtent (.savedStart .xMul) state.x.size state.xMul.size
  checkExtent (.savedStart .fState) state.f.size state.fState.size
  checkExtent (.savedStart .fMul) state.f.size state.fMul.size
  if state.superbasics < 0 then
    throw (.unusableValue (.negativeSuperbasics state.superbasics))
  match badCode? state with
  | some code => throw (.unusableValue (.stateCode code))
  | none => return { mode := saved.mode, state }

end SavedRecord

end NonlinearProgram
