import NonlinearProgram.Arith.Basic

/-!
# Scalars a problem is evaluated with

A problem is written once and evaluated with plain real values, with dual numbers or with complex
numbers, depending on how its derivatives are wanted. `Scalar R T` is what such an evaluation may
use of a type `T` over the real values `R`: analytic operations only, so that a complex step stays
meaningful. A comparison has to go through the real part.
-/

namespace NonlinearProgram

/-- Values of type `T` over the reals `R` that a problem can be evaluated with. -/
class Scalar (R : outParam Type) (T : Type) extends Add T, Sub T, Mul T, Div T, Neg T where
  ofReal : R → T
  re : T → R
  /-- Every component is finite. -/
  isFinite : T → Bool
  sqrt : T → T
  exp : T → T
  log : T → T
  sin : T → T
  cos : T → T
  power : T → Int → T
  pow : T → R → T

variable {R : Type}

instance [Elementary R] : Scalar R R where
  ofReal := id
  re := id
  isFinite := Arith.isFinite
  sqrt := Elementary.sqrt
  exp := Elementary.exp
  log := Elementary.log
  sin := Elementary.sin
  cos := Elementary.cos
  power := Arith.power
  pow := Elementary.pow

end NonlinearProgram
