/-!
# Arithmetic of real values

Everything numerical in this library is written once over a type of real values. `Arith` names the
operations such a type offers, in the form in which the algorithms use them: comparisons are
decidable, and infinity, not-a-number and finiteness are part of the interface because bounds and
failed evaluations are expressed with them.

No law is assumed here. A statement that needs one says so; the others hold of any arithmetic,
rounded or exact, since they compare the same operations on the same operands.
-/

namespace NonlinearProgram

/-- A type of real values with the operations the algorithms use. -/
class Arith (R : Type) extends Zero R, One R, Add R, Sub R, Mul R, Div R, Neg R, BEq R, LT R, LE R,
    OfScientific R where
  decLt : DecidableLT R
  decLe : DecidableLE R
  abs : R → R
  isFinite : R → Bool
  /-- The value nearest an integer. -/
  ofInt : Int → R
  infinity : R
  nan : R

namespace Arith

variable {R : Type} [Arith R]

instance : DecidableLT R := Arith.decLt

instance : DecidableLE R := Arith.decLe

def isNaN (value : R) : Bool := !(value == value)

/-- The larger value; an argument that is not a number is ignored. -/
def maximum (left right : R) : R :=
  if isNaN left then right else if left < right then right else left

/-- The smaller value; an argument that is not a number is ignored. -/
def minimum (left right : R) : R :=
  if isNaN left then right else if right < left then right else left

/-- The nearest point of the interval from `lower` to `upper`. -/
def clamp (value lower upper : R) : R :=
  if value < lower then lower else if upper < value then upper else value

/-- Right-to-left binary powering: `result * base ^ exponent`. -/
def powerFrom (result base : R) (exponent : Nat) : R :=
  let result := if exponent % 2 = 1 then result * base else result
  if exponent / 2 = 0 then result else powerFrom result (base * base) (exponent / 2)
termination_by exponent

/-- Integer power by repeated squaring; a negative exponent inverts the power of its magnitude. -/
def power (base : R) (exponent : Int) : R :=
  let magnitude := powerFrom 1 base exponent.natAbs
  if exponent < 0 then 1 / magnitude else magnitude

end Arith

/-- Real values with the elementary functions that problems are built from. -/
class Elementary (R : Type) extends Arith R where
  sqrt : R → R
  exp : R → R
  log : R → R
  sin : R → R
  cos : R → R
  sinh : R → R
  cosh : R → R
  /-- Angle of the point `(x, y)`, given as `atan2 y x`. -/
  atan2 : R → R → R
  pow : R → R → R
  hypot : R → R → R
  /-- The sign is negative; told apart for zeros as well. -/
  isSigned : R → Bool

class Precision (R : Type) where
  sqrtEpsilon : R
  cbrtEpsilon : R

end NonlinearProgram
