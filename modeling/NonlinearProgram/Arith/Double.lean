import NonlinearProgram.Arith.Basic
import NonlinearProgram.Arith.Hypotenuse

/-!
# Doubles

Double-precision floating-point numbers are the arithmetic programs are run with. A double that is
not a number has a sign bit like any other, and a function that is cut along the real axis tells the
sides of the cut apart by it. `Float` has one such value only, so `Double` keeps the bit beside it.
Single precision is offered as well, for step sizes only.
-/

namespace NonlinearProgram

/-- A double, its sign bit known also when it is not a number. -/
structure Double where
  value : Float
  /-- The value is not a number, and its sign bit is set. -/
  minusNaN : Bool := false
  deriving Repr

namespace Double

def ofBits (bits : UInt64) : Double :=
  let value := Float.ofBits bits
  ⟨value, value.isNaN && bits >>> 63 == 1⟩

def isSigned (number : Double) : Bool := number.minusNaN || number.value.toBits >>> 63 == 1

def negate (number : Double) : Double :=
  ⟨-number.value, number.value.isNaN && !number.minusNaN⟩

/-- A function of one number. An operand that is not a number keeps its sign bit; a result that is
not a number, of an operand that is one, has it set. -/
@[inline] def unary (function : Float → Float) (number : Double) : Double :=
  let value := function number.value
  ⟨value, value.isNaN && (!number.value.isNaN || number.minusNaN)⟩

/-- A function of two numbers. The first operand that is not a number hands on its sign bit; a
result that is not a number, of operands that are, has it set. -/
@[inline] def binary (function : Float → Float → Float) (left right : Double) : Double :=
  let value := function left.value right.value
  ⟨value, value.isNaN &&
    if left.value.isNaN then left.minusNaN else !right.value.isNaN || right.minusNaN⟩

end Double

instance : Arith Double where
  zero := ⟨0.0, false⟩
  one := ⟨1.0, false⟩
  add left right := .binary (· + ·) left right
  sub left right := .binary (· - ·) left right
  mul left right := .binary (· * ·) left right
  div left right := .binary (· / ·) left right
  neg number := number.negate
  beq left right := left.value == right.value
  lt left right := left.value < right.value
  le left right := left.value ≤ right.value
  ofScientific mantissa negative exponent := ⟨.ofScientific mantissa negative exponent, false⟩
  decLt left right := inferInstanceAs (Decidable (left.value < right.value))
  decLe left right := inferInstanceAs (Decidable (left.value ≤ right.value))
  abs number := ⟨number.value.abs, false⟩
  isFinite number := number.value.isFinite
  ofInt number := ⟨.ofInt number, false⟩
  infinity := .ofBits 0x7ff0000000000000
  nan := .ofBits 0x7ff8000000000000

instance : Elementary Double where
  sqrt number := .unary Float.sqrt number
  exp number := .unary Float.exp number
  log number := .unary Float.log number
  sin number := .unary Float.sin number
  cos number := .unary Float.cos number
  sinh number := .unary Float.sinh number
  cosh number := .unary Float.cosh number
  atan2 left right := .binary Float.atan2 left right
  pow left right := .binary Float.pow left right
  hypot left right := .binary hypotenuse left right
  isSigned := Double.isSigned

example : (Double.ofBits 0xfff8000000000000).isSigned ∧ !(Arith.nan : Double).isSigned ∧
    (-(Arith.nan : Double)).isSigned ∧ (Arith.infinity - Arith.infinity : Double).isSigned ∧
    !(Arith.nan + .ofBits 0xfff8000000000000 : Double).isSigned ∧ (-0.0 : Double).isSigned := by
  decide +kernel

instance : Precision Double where
  sqrtEpsilon := .ofBits 0x3e50000000000000
  cbrtEpsilon := .ofBits 0x3ed965fea53d6e3d

instance : Arith Float32 where
  zero := 0.0
  one := 1.0
  toOfScientific := inferInstance
  decLt := inferInstance
  decLe := inferInstance
  abs := Float32.abs
  isFinite := Float32.isFinite
  ofInt := Float32.ofInt
  infinity := Float32.ofBits 0x7f800000
  nan := Float32.ofBits 0x7fc00000

instance : Precision Float32 where
  sqrtEpsilon := Float32.ofBits 0x39b504f3
  cbrtEpsilon := Float32.ofBits 0x3ba14518

end NonlinearProgram
