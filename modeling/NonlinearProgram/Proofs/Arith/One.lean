import NonlinearProgram.Proofs.Arith.Zero

/-!
# Dividing by one

A tangent that is read off a sweep is divided by one. For a finite double the quotient is the same
double, bit for bit: its mantissa is shifted to the left, divided by that of one, and shifted back,
and no digit is lost on the way. `LawfulOne` states what is used of this in any arithmetic.
-/

namespace NonlinearProgram

/-- A finite number that is divided by one stays finite. -/
class LawfulOne (R : Type) [Arith R] : Prop where
  isFinite_div_one {value : R} : Arith.isFinite value → Arith.isFinite (value / 1)

namespace Double

open Float.Model Float.Model.UnpackedFloat

/-- A mantissa has as many digits as the format has room for at its exponent. -/
def IsAligned (mantissa : Nat) (exponent : Int) : Prop :=
  Format.binary64.targetExponent (totalExponent mantissa exponent) = exponent

theorem targetExponent_eq (total : Int) :
    Format.binary64.targetExponent total = max (total - 53) (-1074) := rfl

theorem toNat_leadingOne (mantissa : BitVec 52) :
    (1#1 ++ mantissa).toNat = 2 ^ 52 + mantissa.toNat := by
  rw [BitVec.toNat_append, Nat.shiftLeft_eq, BitVec.toNat_one Nat.one_pos, Nat.one_mul, Nat.or_comm,
    Nat.or_two_pow_eq_add_of_lt mantissa.isLt, Nat.add_comm]

theorem log2_mul_two_pow {mantissa : Nat} (positive : 0 < mantissa) (digits : Nat) :
    (mantissa * 2 ^ digits).log2 = mantissa.log2 + digits := by
  induction digits with
  | zero => simp
  | succ digits ih =>
      have doubled : mantissa * 2 ^ (digits + 1) = 2 * (mantissa * 2 ^ digits) := by ring
      rw [doubled, Nat.log2_two_mul (Nat.mul_pos positive (Nat.two_pow_pos digits)).ne', ih,
        Nat.add_assoc]

/-- Digits that are zero are shifted out without a trace. -/
theorem shiftRight_zeros (mantissa digits : Nat) :
    (⟨mantissa * 2 ^ digits, false, false⟩ : ExtendedMantissa) >>> digits =
      ⟨mantissa, false, false⟩ := by
  induction digits generalizing mantissa with
  | zero => simp [HShiftRight.hShiftRight, Nat.repeat]
  | succ digits ih =>
      have halved : mantissa * 2 ^ (digits + 1) = 2 * mantissa * 2 ^ digits := by ring
      change ((⟨mantissa * 2 ^ (digits + 1), false, false⟩ : ExtendedMantissa) >>>
        digits).shiftRightOne = _
      rw [halved, ih]
      simp [ExtendedMantissa.shiftRightOne]

theorem shiftToTargetExponent_zeros {mantissa : Nat} {exponent : Int} (positive : 0 < mantissa)
    (aligned : IsAligned mantissa exponent) (digits : Nat) :
    shiftToTargetExponent Format.binary64 (mantissa * 2 ^ digits) (exponent - digits) .exact =
      (⟨mantissa, false, false⟩, exponent) := by
  have total : totalExponent (mantissa * 2 ^ digits) (exponent - digits) =
      totalExponent mantissa exponent := by
    rw [totalExponent, totalExponent, log2_mul_two_pow positive]
    push_cast
    ring
  have shift : (exponent - (exponent - digits)).toNat = digits := by omega
  rw [shiftToTargetExponent, total, aligned, shiftToExponent, shift]
  simp only [ExtendedMantissa.ofMantissaAndAccuracy, shiftRight_zeros, sub_add_cancel]

/-- Rounding takes back zeros that were added to a mantissa. -/
theorem roundWithAccuracy_zeros (sign : Sign) {mantissa : Nat} {exponent : Int}
    (positive : 0 < mantissa) (aligned : IsAligned mantissa exponent) (digits : Nat) :
    roundWithAccuracy Format.binary64 sign (mantissa * 2 ^ digits) (exponent - digits) .exact =
      .finite sign mantissa exponent positive := by
  have settled := shiftToTargetExponent_zeros positive aligned 0
  simp only [pow_zero, mul_one, Nat.cast_zero, sub_zero] at settled
  rw [roundWithAccuracy, shiftToTargetExponent_zeros positive aligned]
  simp [ExtendedMantissa.roundedMantissa, ExtendedMantissa.accuracy, Accuracy.roundToNearestEven,
    settled, positive.ne']

/-- The quotient by one is the mantissa with some zeros added. -/
theorem divCore_one {mantissa : Nat} {exponent : Int} (aligned : IsAligned mantissa exponent) :
    ∃ digits : Nat, divCore Format.binary64 mantissa exponent (2 ^ 52) (-52) =
      (mantissa * 2 ^ digits, exponent - digits, .exact) := by
  have one : totalExponent (2 ^ 52) (-52) = 1 := by
    rw [totalExponent, Nat.log2_two_pow]
    rfl
  rw [IsAligned, targetExponent_eq] at aligned
  rw [divCore, one, targetExponent_eq]
  generalize target : min (exponent - -52) (max (totalExponent mantissa exponent - 1 - 53) (-1074))
    = lowest
  refine ⟨(exponent - lowest).toNat, ?_⟩
  have shift : (exponent - -52 - lowest).toNat = (exponent - lowest).toNat + 52 := by omega
  have shifted : mantissa <<< (exponent - -52 - lowest).toNat =
      mantissa * 2 ^ (exponent - lowest).toNat * 2 ^ 52 := by
    rw [shift, Nat.shiftLeft_eq, pow_add, mul_assoc]
  have back : lowest = exponent - ((exponent - lowest).toNat : Int) := by omega
  simp only [shifted, Nat.mul_div_cancel _ (Nat.two_pow_pos 52), Nat.mul_mod_left,
    accuracyOfFraction, if_true]
  rw [← back]

theorem div_positive (sign : Sign) : sign / Sign.positive = sign := by
  cases sign
  · rfl
  · rfl

/-- What is unpacked from bits has as many digits as there is room for. -/
theorem isAligned_of_unpack {bits : BitVec Format.binary64.numBits} {sign : Sign} {mantissa : Nat}
    {exponent : Int} {positive : 0 < mantissa}
    (unpacked : UnpackedFloat.unpack Format.binary64 bits =
      .finite sign mantissa exponent positive) : IsAligned mantissa exponent := by
  rw [IsAligned, targetExponent_eq, totalExponent]
  rw [UnpackedFloat.unpack] at unpacked
  split at unpacked
  case isTrue =>
    split at unpacked
    · cases unpacked
    · cases unpacked
  case isFalse =>
    split at unpacked
    case isTrue least =>
      split at unpacked
      case isTrue => cases unpacked
      case isFalse nonzero =>
        obtain ⟨-, rfl, rfl⟩ := UnpackedFloat.finite.inj unpacked
        have below := (Nat.log2_lt positive.ne').2 (unpackMantissa bits).isLt
        simp only [least, Format.exponentBias] at below ⊢
        simp
        omega
    case isFalse notLeast =>
      obtain ⟨-, rfl, rfl⟩ := UnpackedFloat.finite.inj unpacked
      have digits : (1#1 ++ unpackMantissa bits).toNat.log2 = 52 := by
        have below : (unpackMantissa bits).toNat < 2 ^ 52 := (unpackMantissa bits).isLt
        rw [Nat.log2_eq_iff positive.ne', toNat_leadingOne]
        omega
      have large : 0 < (unpackExponent bits).toNat := by
        rw [Nat.pos_iff_ne_zero]
        intro zero
        exact notLeast (BitVec.eq_of_toNat_eq zero)
      rw [digits]
      simp only [Format.exponentBias]
      omega

/-- Dividing a finite number by one gives the number. -/
theorem float_div_one (number : Float) (finite : number.isFinite) : number / 1.0 = number := by
  have one : (1.0 : Float).toModel.unpack = .finite .positive (2 ^ 52) (-52) (by decide) := rfl
  change number.toModel.unpack.isFinite at finite
  change Float.ofModel (Float.Model.pack (UnpackedFloat.div Format.binary64
    number.toModel.unpack (1.0 : Float).toModel.unpack)) = number
  have same := pack_unpack_model number.toModel
  have quotient : UnpackedFloat.div Format.binary64 number.toModel.unpack
      (1.0 : Float).toModel.unpack = number.toModel.unpack := by
    rw [one]
    cases value : number.toModel.unpack with
    | notANumber | infinity =>
        rw [value] at finite
        cases finite
    | zero sign => exact congrArg UnpackedFloat.zero (div_positive sign)
    | finite sign mantissa exponent positive =>
        have aligned : IsAligned mantissa exponent := isAligned_of_unpack value
        obtain ⟨digits, divided⟩ := divCore_one aligned
        simp only [UnpackedFloat.div, divided, div_positive,
          roundWithAccuracy_zeros sign positive aligned]
  rw [quotient, same]

theorem isNaN_of_isFinite {number : Float} (finite : number.isFinite) : number.isNaN = false := by
  change number.toModel.unpack.isFinite at finite
  change number.toModel.unpack.isNaN = false
  cases value : number.toModel.unpack with
  | notANumber =>
      rw [value] at finite
      cases finite
  | infinity | zero | finite => rfl

/-- The quotient of a finite double by one is the number, which has no sign besides its own. -/
theorem div_one_eq {number : Double} (finite : Arith.isFinite number) :
    number / 1 = ⟨number.value, false⟩ := by
  have same : number.value / 1.0 = number.value := float_div_one number.value finite
  have isNumber : number.value.isNaN = false := isNaN_of_isFinite finite
  change Double.mk (number.value / 1.0) ((number.value / 1.0).isNaN && _) = _
  rw [same, isNumber]
  rfl

/-- A number that is one has no sign besides its own. -/
def IsCanonical (number : Double) : Prop := number.minusNaN → number.value.isNaN

theorem isCanonical_zero : (0 : Double).IsCanonical := nofun

theorem isCanonical_one : (1 : Double).IsCanonical := nofun

theorem isCanonical_binary (function : Float → Float → Float) (left right : Double) :
    (binary function left right).IsCanonical := by
  intro signed
  exact (Bool.and_eq_true_iff.1 signed).1

theorem isNaN_neg {number : Float} (undefined : number.isNaN) : (-number).isNaN := by
  change number.toModel.unpack.isNaN at undefined
  change (Float.Model.pack number.toModel.unpack.neg).unpack.isNaN
  cases value : number.toModel.unpack with
  | notANumber => rfl
  | infinity | zero | finite =>
      rw [value] at undefined
      cases undefined

theorem isCanonical_negate (number : Double) : number.negate.IsCanonical := by
  intro signed
  exact isNaN_neg (Bool.and_eq_true_iff.1 signed).1

theorem IsCanonical.div_one {number : Double} (canonical : number.IsCanonical)
    (finite : Arith.isFinite number) : number / 1 = number := by
  have isNumber : number.value.isNaN = false := isNaN_of_isFinite finite
  rw [div_one_eq finite]
  rcases number with ⟨value, _ | _⟩
  · rfl
  · cases isNumber.symm.trans (canonical rfl)

instance : LawfulOne Double where
  isFinite_div_one finite := by
    rw [div_one_eq finite]
    exact finite

end Double

end NonlinearProgram
