import NonlinearProgram.Scalar.Basic

/-!
# Complex numbers

Complex values serve the complex-step scheme: an analytic function evaluated at `x + i·h` has the
derivative in its imaginary part, and no difference is taken. The functions follow the polar form,
with the cases on an axis or at infinity written out.
-/

namespace NonlinearProgram

structure Complex (R : Type) where
  re : R
  im : R
  deriving DecidableEq, Repr

namespace Complex

variable {R : Type}

section Arithmetic

variable [Arith R]

instance : Inhabited (Complex R) := ⟨⟨0, 0⟩⟩

def ofReal (value : R) : Complex R := ⟨value, 0⟩

def isFinite (z : Complex R) : Bool := Arith.isFinite z.re && Arith.isFinite z.im

def normSq (z : Complex R) : R := z.re * z.re + z.im * z.im

instance : Add (Complex R) := ⟨fun z w => ⟨z.re + w.re, z.im + w.im⟩⟩
instance : Sub (Complex R) := ⟨fun z w => ⟨z.re - w.re, z.im - w.im⟩⟩
instance : Neg (Complex R) := ⟨fun z => ⟨-z.re, -z.im⟩⟩
instance : Mul (Complex R) :=
  ⟨fun z w => ⟨z.re * w.re - z.im * w.im, z.re * w.im + z.im * w.re⟩⟩
instance : Div (Complex R) := ⟨fun z w =>
  let norm := w.normSq
  ⟨(z.re * w.re + z.im * w.im) / norm, (z.im * w.re - z.re * w.im) / norm⟩⟩

def inverse (z : Complex R) : Complex R :=
  let norm := z.normSq
  ⟨z.re / norm, -z.im / norm⟩

/-- Multiplies the powers of `base` named by the binary digits of `exponent` onto `product`. -/
def powerFrom (product base : Complex R) (exponent : Nat) : Complex R :=
  if exponent ≤ 1 then product
  else
    let square := base * base
    powerFrom (if exponent / 2 % 2 = 1 then product * square else product) square (exponent / 2)
termination_by exponent

/-- Positive integer power: squares away the factors of two, then runs through the odd part. -/
def naturalPower (base : Complex R) (exponent : Nat) : Complex R :=
  if exponent = 0 then ⟨1, 0⟩
  else if exponent % 2 = 0 then naturalPower (base * base) (exponent / 2)
  else powerFrom base base exponent
termination_by exponent

/-- Integer power; a negative exponent takes the power of the reciprocal. -/
def power (z : Complex R) (exponent : Int) : Complex R :=
  (if exponent < 0 then z.inverse else z).naturalPower exponent.natAbs

end Arithmetic

variable [Elementary R]

def modulus (z : Complex R) : R := Elementary.hypot z.re z.im

def argument (z : Complex R) : R := Elementary.atan2 z.im z.re

/-- The number with the given modulus and argument. -/
def polar (modulus argument : R) : Complex R :=
  ⟨modulus * Elementary.cos argument, modulus * Elementary.sin argument⟩

/-- `value` with the sign of `sign`. -/
def withSign (value sign : R) : R := if Elementary.isSigned sign then -value else value

/-- Square root with non-negative real part. -/
def sqrt (z : Complex R) : Complex R :=
  if z.im == 0 then
    if Elementary.isSigned z.re then ⟨0, withSign (Elementary.sqrt (-z.re)) z.im⟩
    else ⟨Elementary.sqrt z.re, z.im⟩
  else if z.re == 0 then
    let part := Elementary.sqrt (Arith.abs z.im / 2.0)
    ⟨part, withSign part z.im⟩
  else polar (Elementary.sqrt z.modulus) (z.argument / 2.0)

def exp (z : Complex R) : Complex R :=
  if z.re == -Arith.infinity && !Arith.isFinite z.im then ⟨0, 0⟩
  else if z.re == Arith.infinity && (z.im == 0 || !Arith.isFinite z.im) then
    ⟨z.re, if z.im == 0 || Arith.isNaN z.im then z.im else Arith.nan⟩
  else if Arith.isNaN z.re && z.im == 0 then z
  else polar (Elementary.exp z.re) z.im

instance : Scalar R (Complex R) where
  ofReal := ofReal
  re := Complex.re
  isFinite := isFinite
  sqrt := sqrt
  exp := exp
  log z := ⟨Elementary.log z.modulus, z.argument⟩
  sin z := ⟨Elementary.sin z.re * Elementary.cosh z.im, Elementary.cos z.re * Elementary.sinh z.im⟩
  cos z :=
    ⟨Elementary.cos z.re * Elementary.cosh z.im, -Elementary.sin z.re * Elementary.sinh z.im⟩
  power := power
  pow z exponent :=
    if exponent == 0 then ⟨1, 0⟩
    else polar (Elementary.pow z.modulus exponent) (z.argument * exponent)

end Complex

end NonlinearProgram
