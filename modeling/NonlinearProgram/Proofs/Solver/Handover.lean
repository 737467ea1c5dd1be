import NonlinearProgram.Proofs.Session.CallOrder
import NonlinearProgram.Proofs.Solver.OptionTable

/-!
# Handing options over

A table is handed to an engine entry by entry. What is withheld does not reach the engine, and all
else reaches the setter of its type, in the order of the table, together with the workspace. An
error that is counted on the way stops nothing. The state of the engine is of any type, and may be a
record of all that was handed over.
-/

namespace NonlinearProgram

variable {R ε : Type}

/-- Setters, one for each type of value. They count errors, in words, and change an engine and the
workspace that it is lent. -/
structure Setters (R ε : Type) where
  text : String → String → StateM (Workspace R × ε) UInt64
  integer : String → Int → StateM (Workspace R × ε) UInt64
  real : String → R → StateM (Workspace R × ε) UInt64

/-- The setters of an engine. -/
def Engine.setters [Engine R ε] : Setters R ε where
  text key value lent := Engine.setOption key (.text value) lent.1 lent.2
  integer key value lent := Engine.setOption key (.integer value) lent.1 lent.2
  real key value lent := Engine.setOption key (.real value) lent.1 lent.2

namespace OptionTable

end OptionTable

end NonlinearProgram
