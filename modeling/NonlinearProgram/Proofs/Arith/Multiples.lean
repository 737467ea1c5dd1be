import NonlinearProgram.Proofs.Arith.ExactValue

/-!
# Multiples

A double times a whole number. The mantissa of a whole number ends in zeros, as many as its exponent
takes back, so a product is the rounding of a mantissa that is a multiple of the first one. It never
rounds to zero, not even where the digits of the first mantissa are few.
-/

namespace NonlinearProgram.Double

open Float.Model Float.Model.UnpackedFloat

/-- A double is a positive whole number. -/
def IsWhole (number : Double) (count : Nat) : Prop :=
  ∃ (digits : Nat) (positive : 0 < count * 2 ^ digits),
    number.unpacked = .finite .positive (count * 2 ^ digits) (-digits) positive

theorem pos_iff_sign {number : Double} : 0 < number ↔ number.exact.sign = some 1 := by
  have zero : (0 : Double).exact = .number 0 := rfl
  rw [lt_iff_exact, zero]
  cases number.exact with
  | number value => simp [Exact.sign, sign_eq_one_iff]
  | infinite isNegative => cases isNegative <;> simp [Exact.sign, Exact.lt_iff, Exact.lt]
  | undefined => simp [Exact.sign, Exact.lt_iff, Exact.lt]

/-- Multiplying a mantissa by a whole number and rounding it. -/
theorem isRounding_multiple (sign : Sign) {mantissa count : Nat} {exponent : Int}
    (aligned : IsAligned mantissa exponent) (positive : 0 < mantissa) (more : 0 < count)
    (digits : Nat) :
    IsRounding sign (mantissa * count * 2 ^ digits) (exponent - digits)
      (roundWithAccuracy Format.binary64 sign (mantissa * count * 2 ^ digits) (exponent - digits)
        .exact) := by
  have product : 0 < mantissa * count := Nat.mul_pos positive more
  have longer : mantissa.log2 ≤ (mantissa * count).log2 := by
    rw [Nat.le_log2 product.ne']
    exact (Nat.log2_self_le positive.ne').trans (Nat.le_mul_of_pos_right _ more)
  have fits := isAligned_iff.1 aligned
  by_cases few : (mantissa * count).log2 ≤ 52
  · -- There is room for all digits.
    have aligned : IsAligned (mantissa * count) exponent := by
      rw [isAligned_iff]
      omega
    refine ⟨_, _, product, roundWithAccuracy_zeros sign product aligned digits, aligned, ?_⟩
    push_cast
    rw [scaled_mul_two_pow, sub_add_cancel, sub_self, abs_zero]
    exact (zpow_pos two_pos _).le
  · have length := log2_mul_two_pow product digits
    refine roundWithAccuracy_isRounding sign _ ((mantissa * count).log2 - 52 + digits) ?_ ?_
    · omega
    · omega

theorem mul_pos_of_isWhole {number whole : Double} {count : Nat} (isWhole : whole.IsWhole count)
    (positive : 0 < number) : 0 < number * whole := by
  obtain ⟨digits, room, kind⟩ := isWhole
  rw [pos_iff_sign, exact] at positive ⊢
  rw [unpacked_mul, kind]
  cases kind' : number.unpacked with
  | notANumber =>
      rw [kind'] at positive
      cases positive
  | zero sign =>
      rw [kind'] at positive
      simp [exactly, Exact.sign] at positive
  | infinity sign =>
      rw [kind'] at positive
      rw [UnpackedFloat.mul, stored_infinity]
      cases sign with
      | negative => cases positive
      | positive => exact positive
  | finite sign mantissa exponent room' =>
      have more : 0 < count := Nat.pos_of_mul_pos_right room
      have aligned : IsAligned mantissa exponent := isAligned_of_unpack kind'
      have product : mantissa * (count * 2 ^ digits) = mantissa * count * 2 ^ digits :=
        (Nat.mul_assoc _ _ _).symm
      have nonzero : 0 < mantissa * count * 2 ^ digits :=
        Nat.mul_pos (Nat.mul_pos room' more) (Nat.two_pow_pos digits)
      have rounded := (isRounding_multiple sign aligned room' more digits).isRounded nonzero
      have same : sign * .positive = sign := by cases sign <;> rfl
      rw [kind', exactly, Exact.sign, sign_scaled_apply sign exponent room'] at positive
      rw [UnpackedFloat.mul, same, product, ← Int.sub_eq_add_neg, rounded.sign_eq, Exact.sign,
        sign_scaled_apply sign _ nonzero]
      exact positive

theorem isWhole_ten : (10.0 : Double).IsWhole 10 := ⟨49, by norm_num, rfl⟩

end NonlinearProgram.Double
