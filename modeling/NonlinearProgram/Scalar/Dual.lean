import NonlinearProgram.Scalar.Basic

/-!
# Dual numbers

A dual number carries a value and a tangent, the derivative of the value along one direction. Every
operation extends the chain rule: a function with value `f₀` and derivative `f₁` at the real part
multiplies the tangent by `f₁`.
-/

namespace NonlinearProgram

/-- A value together with its tangent along one direction. -/
structure Dual (R : Type) where
  re : R
  tangent : R
  deriving DecidableEq, Repr

namespace Dual

variable {R : Type}

section Arithmetic

variable [Arith R]

instance : Inhabited (Dual R) := ⟨⟨0, 0⟩⟩

/-- A constant has no tangent. -/
def ofReal (value : R) : Dual R := ⟨value, 0⟩

def isFinite (x : Dual R) : Bool := Arith.isFinite x.re && Arith.isFinite x.tangent

/-- Chain rule for a function with the given value and derivative at the real part of `x`. -/
def chain (x : Dual R) (value derivative : R) : Dual R := ⟨value, x.tangent * derivative⟩

instance : Add (Dual R) := ⟨fun x y => ⟨x.re + y.re, x.tangent + y.tangent⟩⟩
instance : Sub (Dual R) := ⟨fun x y => ⟨x.re - y.re, x.tangent - y.tangent⟩⟩
instance : Neg (Dual R) := ⟨fun x => ⟨-x.re, -x.tangent⟩⟩
instance : Mul (Dual R) :=
  ⟨fun x y => ⟨x.re * y.re, x.tangent * y.re + y.tangent * x.re⟩⟩
instance : Div (Dual R) := ⟨fun x y =>
  let inverse := 1 / y.re
  ⟨x.re * inverse, (x.tangent * y.re - y.tangent * x.re) * inverse * inverse⟩⟩

/-- Extends `re ^ (n - 3)`, given as `third`, to the `n`-th power and its derivative. -/
def powerFromThird (x : Dual R) (third exponent : R) : Dual R :=
  let second := third * x.re * x.re
  x.chain (second * x.re) (second * exponent)

/-- Integer power. The exponents zero, one and two are written out. -/
def power (x : Dual R) (exponent : Int) : Dual R :=
  if exponent = 0 then ⟨1, 0⟩
  else if exponent = 1 then x
  else if exponent = 2 then x * x
  else x.powerFromThird (Arith.power x.re (exponent - 3)) (Arith.ofInt exponent)

end Arithmetic

variable [Elementary R]

def sqrt (x : Dual R) : Dual R :=
  let root := Elementary.sqrt x.re
  x.chain root (root * (1 / x.re) * 0.5)

/-- Real power. The exponents zero and one are written out, and so is one within the spacing of
doubles of two. -/
def pow (x : Dual R) (exponent : R) : Dual R :=
  if exponent == 0 then ⟨1, 0⟩
  else if exponent == 1 then x
  else
    let second := exponent - 1 - 1
    if Arith.abs second < 2.220446049250313e-16 then x * x
    else x.powerFromThird (Elementary.pow x.re (second - 1)) exponent

instance : Scalar R (Dual R) where
  ofReal := ofReal
  re := Dual.re
  isFinite := isFinite
  sqrt := sqrt
  exp x := let value := Elementary.exp x.re; x.chain value value
  log x := x.chain (Elementary.log x.re) (1 / x.re)
  sin x := x.chain (Elementary.sin x.re) (Elementary.cos x.re)
  cos x := x.chain (Elementary.cos x.re) (-Elementary.sin x.re)
  power := power
  pow := pow

end Dual

end NonlinearProgram
