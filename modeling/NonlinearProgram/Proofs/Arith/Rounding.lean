import NonlinearProgram.Proofs.Arith.Sign

/-!
# Rounding

What becomes of a mantissa that has more digits than there is room for, and of one that has fewer. A
mantissa and an exponent are read as the rational number `scaled`. The rounding of a number that is
not zero has as many digits as there is room for, so it is stored as it is unless it overflows, and
it is not further away than the last digit that is kept counts. In particular it is not zero: the
smallest exponent of the operands is also that of the results.
-/

namespace NonlinearProgram.Double

open Float.Model Float.Model.UnpackedFloat

/-- The rational number that a mantissa and an exponent stand for. -/
def scaled (mantissa exponent : Int) : ℚ := mantissa * 2 ^ exponent

theorem scaled_pos {mantissa exponent : Int} (positive : 0 < mantissa) :
    0 < scaled mantissa exponent :=
  mul_pos (Int.cast_pos.2 positive) (zpow_pos two_pos exponent)

theorem scaled_mul_two_pow (mantissa exponent : Int) (digits : Nat) :
    scaled (mantissa * 2 ^ digits) exponent = scaled mantissa (exponent + digits) := by
  rw [scaled, scaled, zpow_add₀ two_ne_zero, zpow_natCast]
  push_cast
  ring

/-! ## Mantissas -/

theorem mantissa_shiftRight (mantissa : ExtendedMantissa) (digits : Nat) :
    (mantissa >>> digits).mantissa = mantissa.mantissa / 2 ^ digits := by
  induction digits with
  | zero => simp [HShiftRight.hShiftRight, Nat.repeat]
  | succ digits ih =>
      change (mantissa >>> digits).mantissa / 2 = _
      rw [ih, Nat.div_div_eq_div_mul, Nat.pow_succ]

theorem roundedMantissa_bounds (mantissa : ExtendedMantissa) :
    mantissa.mantissa ≤ mantissa.roundedMantissa ∧
      mantissa.roundedMantissa ≤ mantissa.mantissa + 1 := by
  obtain ⟨kept, roundBit, stickyBit⟩ := mantissa
  cases roundBit <;> cases stickyBit <;>
    simp [ExtendedMantissa.roundedMantissa, ExtendedMantissa.accuracy, Accuracy.roundToNearestEven]
  omega

theorem isAligned_iff {mantissa : Nat} {exponent : Int} :
    IsAligned mantissa exponent ↔
      (mantissa.log2 = 52 ∧ -1074 ≤ exponent) ∨ (mantissa.log2 < 52 ∧ exponent = -1074) := by
  rw [IsAligned, targetExponent_eq, totalExponent]
  omega

theorem least_of_isAligned {mantissa : Nat} {exponent : Int}
    (aligned : IsAligned mantissa exponent) : -1074 ≤ exponent := by
  rcases isAligned_iff.1 aligned with ⟨_, least⟩ | ⟨_, same⟩
  · exact least
  · exact same.ge

theorem lt_of_isAligned {mantissa : Nat} {exponent : Int} (aligned : IsAligned mantissa exponent) :
    mantissa < 2 ^ 53 := by
  have digits : mantissa.log2 < 53 := by
    rcases isAligned_iff.1 aligned with ⟨full, _⟩ | ⟨few, _⟩
    · omega
    · omega
  rcases Nat.eq_zero_or_pos mantissa with rfl | positive
  · norm_num
  · exact (Nat.log2_lt positive.ne').1 digits

theorem scaled_lt_of_isAligned {mantissa : Nat} {exponent : Int}
    (aligned : IsAligned mantissa exponent) : scaled mantissa exponent < 2 ^ (exponent + 53) := by
  have digits : (mantissa : ℚ) < 2 ^ 53 := by exact_mod_cast lt_of_isAligned aligned
  calc scaled mantissa exponent < 2 ^ 53 * 2 ^ exponent :=
        mul_lt_mul_of_pos_right (by exact_mod_cast digits) (zpow_pos two_pos _)
    _ = 2 ^ (exponent + 53) := by
        rw [zpow_add₀ two_ne_zero, mul_comm]
        norm_num

/-- All digits are used, unless the exponent is the smallest one. -/
theorem log2_of_isAligned {mantissa : Nat} {exponent : Int} (aligned : IsAligned mantissa exponent)
    (larger : -1074 < exponent) : mantissa.log2 = 52 := by
  rcases isAligned_iff.1 aligned with ⟨full, _⟩ | ⟨_, least⟩
  · exact full
  · exact absurd least larger.ne'

theorem le_scaled_of_isAligned {mantissa : Nat} {exponent : Int}
    (aligned : IsAligned mantissa exponent) (larger : -1074 < exponent) :
    2 ^ (exponent + 52) ≤ scaled mantissa exponent := by
  have full := log2_of_isAligned aligned larger
  have nonzero : mantissa ≠ 0 := by
    rintro rfl
    rw [Nat.log2_zero] at full
    omega
  have digits : (2 : ℚ) ^ 52 ≤ mantissa := by
    exact_mod_cast ((Nat.log2_eq_iff nonzero).1 full).1
  calc (2 : ℚ) ^ (exponent + 52) = 2 ^ 52 * 2 ^ exponent := by
        rw [zpow_add₀ two_ne_zero, mul_comm]
        norm_num
    _ ≤ scaled mantissa exponent :=
        mul_le_mul_of_nonneg_right (by exact_mod_cast digits) (zpow_pos two_pos _).le

/-- Distance of neighbours among the numbers with some digits and exponent. -/
def spacingAt (mantissa : Nat) (exponent : Int) : ℚ :=
  2 ^ Format.binary64.targetExponent (totalExponent mantissa exponent)

/-- Dropping digits from a mantissa moves it by less than what the last digit that is kept
counts. -/
theorem abs_dropped_le {mantissa rounded digits : Nat} (exponent : Int)
    (above : mantissa / 2 ^ digits ≤ rounded) (below : rounded ≤ mantissa / 2 ^ digits + 1) :
    |scaled rounded (exponent + digits) - scaled mantissa exponent| ≤ 2 ^ (exponent + digits) := by
  have upper : rounded * 2 ^ digits ≤ mantissa + 2 ^ digits := by
    calc rounded * 2 ^ digits ≤ (mantissa / 2 ^ digits + 1) * 2 ^ digits :=
          Nat.mul_le_mul_right _ below
      _ = mantissa / 2 ^ digits * 2 ^ digits + 2 ^ digits := by ring
      _ ≤ mantissa + 2 ^ digits := Nat.add_le_add_right (Nat.div_mul_le_self _ _) _
  have lower : mantissa ≤ rounded * 2 ^ digits + 2 ^ digits := by
    calc mantissa ≤ mantissa / 2 ^ digits * 2 ^ digits + 2 ^ digits :=
          (Nat.lt_div_mul_add (Nat.two_pow_pos digits)).le
      _ ≤ rounded * 2 ^ digits + 2 ^ digits :=
          Nat.add_le_add_right (Nat.mul_le_mul_right _ above) _
  have near : |(rounded : ℚ) * 2 ^ digits - mantissa| ≤ 2 ^ digits := by
    rw [abs_le]
    constructor
    · have := (Nat.cast_le (α := ℚ)).2 lower
      push_cast at this
      linarith
    · have := (Nat.cast_le (α := ℚ)).2 upper
      push_cast at this
      linarith
  have positive : (0 : ℚ) < 2 ^ exponent := zpow_pos two_pos exponent
  rw [← scaled_mul_two_pow, scaled, scaled, ← sub_mul, abs_mul, abs_of_pos positive,
    zpow_add₀ two_ne_zero, zpow_natCast, mul_comm]
  push_cast
  exact mul_le_mul_of_nonneg_left near positive.le

/-! ## Rounding -/

/-- A rounding of a number that is not zero: as many digits as there is room for, and no further
away than a neighbour. -/
def IsRounding (sign : Sign) (mantissa : Nat) (exponent : Int) (rounded : UnpackedFloat) : Prop :=
  ∃ kept exponent' positive, rounded = .finite sign kept exponent' positive ∧
    IsAligned kept exponent' ∧
    |scaled kept exponent' - scaled mantissa exponent| ≤ spacingAt mantissa exponent

/-- A mantissa that was rounded up to one digit more loses that digit. -/
theorem exists_isAligned {mantissa : Nat} {exponent : Int} (least : -1074 ≤ exponent)
    (large : 2 ^ 52 ≤ mantissa) (small : mantissa ≤ 2 ^ 53) :
    ∃ kept digits : Nat, ∃ exponent' : Int, 0 < kept ∧ IsAligned kept exponent' ∧
      mantissa = kept * 2 ^ digits ∧ exponent = exponent' - digits := by
  rcases Nat.lt_or_ge mantissa (2 ^ 53) with below | above
  · have full : mantissa.log2 = 52 := by
      rw [Nat.log2_eq_iff (by omega)]
      exact ⟨large, below⟩
    refine ⟨mantissa, 0, exponent, by omega, ?_, by simp, by simp⟩
    exact isAligned_iff.2 (.inl ⟨full, least⟩)
  · refine ⟨2 ^ 52, 1, exponent + 1, by norm_num, ?_, by omega, by omega⟩
    exact isAligned_iff.2 (.inl ⟨Nat.log2_two_pow, by omega⟩)

/-- Rounding a mantissa with some digits to spare drops these. -/
theorem roundWithAccuracy_isRounding (sign : Sign) {mantissa : Nat} (exponent : Int)
    (digits : Nat) (full : mantissa.log2 = 52 + digits) (least : -1074 ≤ exponent + digits) :
    IsRounding sign mantissa exponent
      (roundWithAccuracy Format.binary64 sign mantissa exponent .exact) := by
  have nonzero : mantissa ≠ 0 := by
    rintro rfl
    rw [Nat.log2_zero] at full
    omega
  have target : Format.binary64.targetExponent (totalExponent mantissa exponent) =
      exponent + digits := by
    rw [targetExponent_eq, totalExponent]
    omega
  have shifted : shiftToTargetExponent Format.binary64 mantissa exponent .exact =
      ((⟨mantissa, false, false⟩ : ExtendedMantissa) >>> digits, exponent + digits) := by
    have shift : (exponent + digits - exponent).toNat = digits := by omega
    simp only [shiftToTargetExponent, target, shiftToExponent, shift]
    rfl
  have divided : ((⟨mantissa, false, false⟩ : ExtendedMantissa) >>> digits).mantissa =
      mantissa / 2 ^ digits := mantissa_shiftRight _ _
  have bounds := roundedMantissa_bounds ((⟨mantissa, false, false⟩ : ExtendedMantissa) >>> digits)
  rw [divided] at bounds
  obtain ⟨above, below⟩ := bounds
  generalize rounded : ((⟨mantissa, false, false⟩ : ExtendedMantissa) >>> digits).roundedMantissa =
    kept at above below
  have large : 2 ^ 52 ≤ mantissa / 2 ^ digits := by
    rw [Nat.le_div_iff_mul_le (Nat.two_pow_pos digits), ← Nat.pow_add, ← full]
    exact Nat.log2_self_le nonzero
  have small : mantissa / 2 ^ digits < 2 ^ 53 := by
    rw [Nat.div_lt_iff_lt_mul (Nat.two_pow_pos digits), ← Nat.pow_add,
      show 53 + digits = mantissa.log2 + 1 by omega]
    exact Nat.lt_log2_self
  obtain ⟨final, spare, exponent', positive, aligned, rfl, moved⟩ :=
    exists_isAligned least (large.trans above) (by omega)
  refine ⟨final, exponent', positive, ?_, aligned, ?_⟩
  · have settled := shiftToTargetExponent_zeros positive aligned spare
    rw [← moved] at settled
    simp [roundWithAccuracy, shifted, rounded, settled, positive.ne']
  · have same : scaled (final * 2 ^ spare : Nat) (exponent + digits) = scaled final exponent' := by
      rw [moved]
      push_cast
      rw [scaled_mul_two_pow, sub_add_cancel]
    rw [← same, spacingAt, target]
    exact abs_dropped_le exponent above below

/-- Rounding a mantissa, whatever its number of digits. -/
theorem round_isRounding (sign : Sign) {mantissa : Nat} {exponent : Int} (positive : 0 < mantissa)
    (least : -1074 ≤ exponent) :
    IsRounding sign mantissa exponent
      (UnpackedFloat.round Format.binary64 sign mantissa exponent) := by
  have target := targetExponent_eq (totalExponent mantissa exponent)
  rw [totalExponent] at target
  rcases le_or_gt (Format.binary64.targetExponent (totalExponent mantissa exponent)) exponent with
    fits | long
  · -- There is room for more digits, which are zero.
    obtain ⟨digits, moved⟩ := Int.eq_ofNat_of_zero_le (sub_nonneg.2 fits)
    have shift : (exponent - Format.binary64.targetExponent (totalExponent mantissa exponent)).toNat
        = digits := by omega
    have lengthened : 0 < mantissa * 2 ^ digits := Nat.mul_pos positive (Nat.two_pow_pos digits)
    have aligned : IsAligned (mantissa * 2 ^ digits) (exponent - digits) := by
      rw [IsAligned, targetExponent_eq, totalExponent, log2_mul_two_pow positive]
      push_cast
      rw [totalExponent] at moved
      omega
    have settled := roundWithAccuracy_zeros sign lengthened aligned 0
    simp only [pow_zero, mul_one, Nat.cast_zero, sub_zero] at settled
    refine ⟨_, _, lengthened, ?_, aligned, ?_⟩
    · simp only [UnpackedFloat.round, decreaseExponent, shift, Nat.shiftLeft_eq, settled]
    · push_cast
      rw [scaled_mul_two_pow, sub_add_cancel, sub_self, abs_zero]
      exact (zpow_pos two_pos _).le
  · obtain ⟨digits, moved⟩ := Int.eq_ofNat_of_zero_le (sub_nonneg.2 long.le)
    have shift : (exponent - Format.binary64.targetExponent (totalExponent mantissa exponent)).toNat
        = 0 := by omega
    simp only [UnpackedFloat.round, decreaseExponent, shift, Nat.shiftLeft_zero, Nat.cast_zero,
      sub_zero]
    rw [totalExponent] at moved long
    exact roundWithAccuracy_isRounding sign exponent digits (by omega) (by omega)

/-! ## Storing -/

theorem stored_normal (sign : Sign) {mantissa : Nat} {exponent : Int} (positive : 0 < mantissa)
    (full : mantissa.log2 = 52) (least : -1074 ≤ exponent) (small : exponent ≤ 971) :
    stored (.finite sign mantissa exponent positive) = .finite sign mantissa exponent positive := by
  change UnpackedFloat.unpack Format.binary64 (UnpackedFloat.pack Format.binary64 _) = _
  have biased : (exponent + Format.binary64.exponentBias +
      Format.binary64.mantissaBitsWithoutImplicit).toNat = (exponent + 1075).toNat := by
    simp only [Format.exponentBias]
    omega
  have notLast : ¬2 ^ Format.binary64.exponentBits ≤ (exponent + 1075).toNat + 1 := by
    simp only
    omega
  have kept : (BitVec.ofNat 11 (exponent + 1075).toNat).toNat = (exponent + 1075).toNat := by
    rw [BitVec.toNat_ofNat]
    omega
  have different (bits : BitVec 11) (other : bits.toNat ≠ (exponent + 1075).toNat) :
      BitVec.ofNat 11 (exponent + 1075).toNat ≠ bits := by
    rintro rfl
    exact other kept
  have cleared : (1#1 ++ BitVec.ofNat 52 mantissa).toNat = mantissa := by
    have leading := (Nat.log2_eq_iff positive.ne').1 full
    rw [toNat_leadingOne, BitVec.toNat_ofNat]
    omega
  rw [UnpackedFloat.pack, biased, if_neg notLast, if_pos (by rw [full]; rfl)]
  simp only [UnpackedFloat.unpack, unpackExponent_packComponents, unpackMantissa_packComponents,
    unpackSign_packComponents, Sign.ofBitVec_toBitVec, kept, cleared,
    if_neg (different (-1#11) (by simp; omega)), if_neg (different 0#11 (by simp; omega))]
  congr 1
  simp only [Format.exponentBias]
  omega

theorem stored_subnormal (sign : Sign) {mantissa : Nat} (positive : 0 < mantissa)
    (few : mantissa.log2 < 52) :
    stored (.finite sign mantissa (-1074) positive) = .finite sign mantissa (-1074) positive := by
  change UnpackedFloat.unpack Format.binary64 (UnpackedFloat.pack Format.binary64 _) = _
  have kept : (BitVec.ofNat 52 mantissa).toNat = mantissa := by
    rw [BitVec.toNat_ofNat, Nat.mod_eq_of_lt ((Nat.log2_lt positive.ne').1 few)]
  have nonzero : BitVec.ofNat 52 mantissa ≠ 0#52 := by
    intro zero
    rw [zero] at kept
    exact positive.ne kept
  rw [UnpackedFloat.pack, if_neg (by decide), if_neg (by simp only [Format.mantissaBits]; omega)]
  simp only [UnpackedFloat.unpack, unpackExponent_packComponents, unpackMantissa_packComponents,
    unpackSign_packComponents, Sign.ofBitVec_toBitVec, kept, dif_neg nonzero]
  rfl

theorem stored_overflow (sign : Sign) {mantissa : Nat} {exponent : Int} (positive : 0 < mantissa)
    (large : 971 < exponent) :
    stored (.finite sign mantissa exponent positive) = .infinity sign := by
  change UnpackedFloat.unpack Format.binary64 (UnpackedFloat.pack Format.binary64 _) = _
  have last : 2 ^ Format.binary64.exponentBits ≤ (exponent + Format.binary64.exponentBias +
      Format.binary64.mantissaBitsWithoutImplicit).toNat + 1 := by
    simp only [Format.exponentBias]
    omega
  rw [UnpackedFloat.pack, if_pos last]
  cases sign <;> rfl

/-- A number with as many digits as there is room for is stored as it is, unless its exponent is too
large. -/
theorem stored_finite (sign : Sign) {mantissa : Nat} {exponent : Int} (positive : 0 < mantissa)
    (aligned : IsAligned mantissa exponent) :
    stored (.finite sign mantissa exponent positive) =
      if exponent ≤ 971 then .finite sign mantissa exponent positive else .infinity sign := by
  by_cases small : exponent ≤ 971
  · rw [if_pos small]
    rcases isAligned_iff.1 aligned with ⟨full, least⟩ | ⟨few, rfl⟩
    · exact stored_normal sign positive full least small
    · exact stored_subnormal sign positive few
  · rw [if_neg small, stored_overflow sign positive (not_le.1 small)]

end NonlinearProgram.Double
