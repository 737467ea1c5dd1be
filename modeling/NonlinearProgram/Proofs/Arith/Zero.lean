import Mathlib
import NonlinearProgram.Arith.Double

/-!
# Adding to zero

A sum that starts at zero and has one term is that term, except that it loses the sign of a negative
zero. `LawfulZero` states this with the equality of the arithmetic, which does not see that sign;
for doubles it holds because a number that is packed again has the bits it was unpacked from.
-/

namespace NonlinearProgram

/-- A finite number that is added to zero is kept, up to the sign of zero. -/
class LawfulZero (R : Type) [Arith R] : Prop where
  zero_add_beq (value : R) : Arith.isFinite value → (0 + value == value) = true

namespace Double

open Float.Model Float.Model.UnpackedFloat

theorem pack_unpack_model (model : Float.Model) : Float.Model.pack model.unpack = model := by
  cases model with
  | mk bits valid =>
      rw [Float.Model.pack, Float.Model.mk.injEq]
      exact congrArg UInt64.ofBitVec (pack_unpack_of_valid valid)

/-- Adding a finite number to zero gives the number, or zero for a negative zero. -/
theorem zero_add_beq (number : Float) (finite : number.isFinite) :
    (0.0 + number == number) = true := by
  have zero : (0.0 : Float).toModel.unpack = .zero .positive := rfl
  change number.toModel.unpack.isFinite at finite
  change (Float.Model.pack (UnpackedFloat.add Format.binary64 (0.0 : Float).toModel.unpack
    number.toModel.unpack)).unpack.beq number.toModel.unpack = true
  rw [zero]
  cases value : number.toModel.unpack with
  | notANumber | infinity =>
      rw [value] at finite
      cases finite
  | zero sign =>
      cases sign
      · rfl
      · rfl
  | finite sign mantissa exponent positive =>
      have same := pack_unpack_model number.toModel
      change (Float.Model.pack (.finite sign mantissa exponent positive)).unpack.beq _ = true
      rw [← value, same, value]
      cases sign <;> simp [UnpackedFloat.beq, UnpackedFloat.compare]

/-- A finite number that is added to zero stays finite. -/
theorem isFinite_zero_add {number : Double} (finite : Arith.isFinite number) :
    Arith.isFinite (0 + number) := by
  change number.value.toModel.unpack.isFinite at finite
  change (Float.Model.pack (UnpackedFloat.add Format.binary64 (0.0 : Float).toModel.unpack
    number.value.toModel.unpack)).unpack.isFinite = true
  rw [show (0.0 : Float).toModel.unpack = .zero .positive from rfl]
  cases value : number.value.toModel.unpack with
  | notANumber | infinity =>
      rw [value] at finite
      cases finite
  | zero sign => cases sign <;> rfl
  | finite sign mantissa exponent positive =>
      have same := pack_unpack_model number.value.toModel
      change (Float.Model.pack (.finite sign mantissa exponent positive)).unpack.isFinite = true
      rw [← value, same]
      exact finite

instance : LawfulZero Double where
  zero_add_beq value finite := zero_add_beq value.value finite

end Double

end NonlinearProgram
