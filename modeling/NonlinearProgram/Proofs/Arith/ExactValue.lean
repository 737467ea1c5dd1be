import NonlinearProgram.Proofs.Arith.Exact
import NonlinearProgram.Proofs.Arith.Rounding

/-!
# Exact values of doubles

A double that is read as a value of exact arithmetic. Sums of doubles are roundings of the exact
sums. Rounding may move a value, but not across zero, and neither to zero nor away from it, so a sum
has the sign of the exact sum, and doubles are compared as their exact values are.
-/

namespace NonlinearProgram

namespace Exact

variable {K : Type} [Field K] [LinearOrder K]

/-- Sign of a number or an infinity. -/
def sign : Exact K → Option SignType
  | number value => some (SignType.sign value)
  | infinite isNegative => some (if isNegative then -1 else 1)
  | undefined => none

end Exact

namespace Double

open Float.Model Float.Model.UnpackedFloat

/-- What a number reads as in exact arithmetic. -/
def exactly : UnpackedFloat → Exact ℚ
  | .notANumber => .undefined
  | .infinity .negative => .infinite true
  | .infinity .positive => .infinite false
  | .zero _ => .number 0
  | .finite sign mantissa exponent _ => .number (scaled (sign.apply mantissa) exponent)

/-- The exact value of a double. -/
def exact (number : Double) : Exact ℚ := exactly number.unpacked

/-- A bound of the distance between neighbours among the doubles of some magnitude. -/
def spacing (value : ℚ) : ℚ := max (|value| * 2 ^ (-52 : Int)) (2 ^ (-1074 : Int))

/-- Magnitude that no finite double has. -/
def limit : ℚ := 2 ^ (1024 : Int)

theorem limit_pos : 0 < limit := zpow_pos two_pos _

/-- A number is what the rounding of a value reads as, which is an infinity if it is too large. -/
def IsRounded (value : ℚ) (number : Exact ℚ) : Prop :=
  ∃ rounded : ℚ, SignType.sign rounded = SignType.sign value ∧
    |rounded - value| ≤ spacing value ∧
    (number = .number rounded ∨ limit ≤ |rounded| ∧ number = .infinite (rounded < 0))

theorem spacing_pos (value : ℚ) : 0 < spacing value :=
  lt_max_of_lt_right (zpow_pos two_pos _)

theorem isRounded_self (value : ℚ) : IsRounded value (.number value) := by
  refine ⟨value, rfl, ?_, .inl rfl⟩
  rw [sub_self, abs_zero]
  exact (spacing_pos value).le

theorem scaled_apply (sign : Sign) (mantissa : Nat) (exponent : Int) :
    scaled (sign.apply mantissa) exponent = sign.apply 1 * scaled mantissa exponent := by
  cases sign <;> simp [Sign.apply, scaled]

theorem abs_scaled_apply (sign : Sign) (mantissa : Nat) (exponent : Int) :
    |scaled (sign.apply mantissa) exponent| = scaled mantissa exponent := by
  have nonneg : 0 ≤ scaled mantissa exponent :=
    mul_nonneg (Int.cast_nonneg (Int.natCast_nonneg _)) (zpow_pos two_pos _).le
  rw [scaled_apply, abs_mul, abs_of_nonneg nonneg]
  cases sign <;> simp [Sign.apply]

theorem sign_scaled_apply (sign : Sign) {mantissa : Nat} (exponent : Int)
    (positive : 0 < mantissa) :
    SignType.sign (scaled (sign.apply mantissa) exponent) = SignType.sign (sign.apply 1) := by
  have positive : 0 < scaled mantissa exponent := scaled_pos (Int.natCast_pos.2 positive)
  rw [scaled_apply, sign_mul, sign_pos positive, mul_one]
  cases sign <;> simp [Sign.apply]

theorem spacingAt_le {mantissa : Nat} (positive : 0 < mantissa) (exponent : Int) :
    spacingAt mantissa exponent ≤ spacing (scaled mantissa exponent) := by
  have digits : (2 : ℚ) ^ mantissa.log2 ≤ mantissa := by
    exact_mod_cast Nat.log2_self_le positive.ne'
  rw [spacingAt, targetExponent_eq, totalExponent, spacing, abs_of_pos
    (scaled_pos (Int.natCast_pos.2 positive))]
  rcases le_total (mantissa.log2 + 1 + exponent - 53) (-1074) with least | larger
  · rw [max_eq_right least]
    exact le_max_right _ _
  · rw [max_eq_left larger]
    refine le_max_of_le_left ?_
    rw [show (mantissa.log2 : Int) + 1 + exponent - 53 = mantissa.log2 + exponent + -52 by ring,
      zpow_add₀ two_ne_zero, zpow_add₀ two_ne_zero, zpow_natCast, scaled]
    push_cast
    gcongr

theorem spacing_abs (value : ℚ) : spacing |value| = spacing value := by
  rw [spacing, spacing, abs_abs]

theorem limit_le_scaled {mantissa : Nat} {exponent : Int} (aligned : IsAligned mantissa exponent)
    (large : 971 < exponent) : limit ≤ scaled mantissa exponent := by
  calc limit ≤ 2 ^ (exponent + 52) := zpow_le_zpow_right₀ one_le_two (by omega)
    _ ≤ scaled mantissa exponent := le_scaled_of_isAligned aligned (by omega)

/-- What is stored of a rounding. -/
theorem IsRounding.isRounded {sign : Sign} {mantissa : Nat} {exponent : Int}
    {rounded : UnpackedFloat} (rounding : IsRounding sign mantissa exponent rounded)
    (positive : 0 < mantissa) :
    IsRounded (scaled (sign.apply mantissa) exponent) (exactly (stored rounded)) := by
  obtain ⟨kept, exponent', positive', rfl, aligned, near⟩ := rounding
  refine ⟨scaled (sign.apply kept) exponent', ?_, ?_, ?_⟩
  · rw [sign_scaled_apply sign _ positive, sign_scaled_apply sign _ positive']
  · have bound := near.trans (spacingAt_le positive exponent)
    rw [← spacing_abs, abs_scaled_apply, scaled_apply, scaled_apply, ← mul_sub, abs_mul]
    cases sign <;> simpa [Sign.apply] using bound
  · rw [stored_finite sign positive' aligned]
    by_cases small : exponent' ≤ 971
    · rw [if_pos small]
      exact .inl rfl
    · rw [if_neg small, abs_scaled_apply]
      refine .inr ⟨limit_le_scaled aligned (not_le.1 small), ?_⟩
      have positive : 0 < scaled kept exponent' := scaled_pos (Int.natCast_pos.2 positive')
      rw [scaled_apply]
      cases sign <;> simp [exactly, Sign.apply, positive, positive.le]

/-! ## Sums -/

theorem scaled_zero (exponent : Int) : scaled 0 exponent = 0 := by simp [scaled]

theorem scaled_add (left right exponent : Int) :
    scaled (left + right) exponent = scaled left exponent + scaled right exponent := by
  simp [scaled, add_mul]

/-- An integer with an exponent, as it is rounded and stored. -/
theorem isRounded_normalize (mantissa : Int) {exponent : Int} (least : -1074 ≤ exponent) :
    IsRounded (scaled mantissa exponent)
      (exactly (stored (UnpackedFloat.normalize Format.binary64 mantissa exponent .positive))) := by
  rw [UnpackedFloat.normalize]
  rcases lt_trichotomy mantissa 0 with below | rfl | above
  · have positive : 0 < (-mantissa).toNat := by omega
    have rounded := (round_isRounding .negative positive least).isRounded positive
    rw [compare_lt_iff_lt.2 below]
    rwa [Sign.apply, Int.toNat_of_nonneg (by omega), Int.neg_neg] at rounded
  · rw [scaled_zero]
    change IsRounded 0 (exactly (stored (.zero .positive)))
    rw [stored_zero]
    exact isRounded_self 0
  · have positive : 0 < mantissa.toNat := by omega
    have rounded := (round_isRounding .positive positive least).isRounded positive
    rw [compare_gt_iff_gt.2 above]
    rwa [Sign.apply, Int.toNat_of_nonneg (by omega)] at rounded

theorem scaled_decreaseExponent (sign : Sign) (mantissa : Nat) {exponent lowest : Int}
    (lower : lowest ≤ exponent) :
    scaled (sign.apply (decreaseExponent mantissa exponent lowest).1) lowest =
      scaled (sign.apply mantissa) exponent := by
  have same : (decreaseExponent mantissa exponent lowest).1 =
      mantissa * 2 ^ (exponent - lowest).toNat := Nat.shiftLeft_eq _ _
  have moved : lowest + (exponent - lowest).toNat = exponent := by omega
  rw [scaled_apply, same, scaled_apply sign]
  push_cast
  rw [scaled_mul_two_pow, moved]

theorem exact_eq_number {number : Double} {value : ℚ} (reads : number.exact = .number value) :
    (∃ sign, number.unpacked = .zero sign ∧ value = 0) ∨
      ∃ sign mantissa exponent positive, number.unpacked = .finite sign mantissa exponent positive ∧
        IsAligned mantissa exponent ∧ value = scaled (sign.apply mantissa) exponent := by
  rw [exact] at reads
  cases kind : number.unpacked with
  | notANumber =>
      rw [kind] at reads
      cases reads
  | infinity sign =>
      rw [kind] at reads
      cases sign <;> cases reads
  | zero sign =>
      rw [kind] at reads
      cases reads
      exact .inl ⟨sign, rfl, rfl⟩
  | finite sign mantissa exponent positive =>
      rw [kind] at reads
      cases reads
      exact .inr ⟨sign, mantissa, exponent, positive, rfl, isAligned_of_unpack kind, rfl⟩

/-- A sum of doubles is a rounding of the exact sum. -/
theorem isRounded_add {left right : Double} {value value' : ℚ} (reads : left.exact = .number value)
    (reads' : right.exact = .number value') : IsRounded (value + value') (left + right).exact := by
  rw [exact, unpacked_add]
  rcases exact_eq_number reads with
    ⟨sign, kind, rfl⟩ | ⟨sign, mantissa, exponent, _, kind, aligned, rfl⟩
  · rcases exact_eq_number reads' with ⟨sign', kind', rfl⟩ | ⟨sign', _, _, _, kind', _, _⟩
    · rw [kind, kind', add_zero]
      cases sign <;> cases sign' <;> exact isRounded_self 0
    · have kept : UnpackedFloat.add .binary64 left.unpacked right.unpacked = right.unpacked := by
        rw [kind, kind']
        rfl
      rw [kept, stored_unpacked, zero_add, ← exact, reads']
      exact isRounded_self value'
  · rcases exact_eq_number reads' with
      ⟨sign', kind', rfl⟩ | ⟨sign', mantissa', exponent', _, kind', aligned', rfl⟩
    · have kept : UnpackedFloat.add .binary64 left.unpacked right.unpacked = left.unpacked := by
        rw [kind, kind']
        rfl
      rw [kept, stored_unpacked, add_zero, ← exact, reads]
      exact isRounded_self _
    · have least : -1074 ≤ min exponent exponent' :=
        le_min (least_of_isAligned aligned) (least_of_isAligned aligned')
      rw [kind, kind', ← scaled_decreaseExponent sign mantissa (min_le_left exponent exponent'),
        ← scaled_decreaseExponent sign' mantissa' (min_le_right exponent exponent'), ← scaled_add]
      exact isRounded_normalize _ least

theorem IsRounded.sign_eq {value : ℚ} {number : Exact ℚ} (rounded : IsRounded value number) :
    number.sign = (Exact.number value).sign := by
  obtain ⟨nearest, sameSign, _, rfl | ⟨large, rfl⟩⟩ := rounded
  · exact congrArg some sameSign
  · rw [Exact.sign, Exact.sign, ← sameSign]
    rcases lt_trichotomy nearest 0 with below | rfl | above
    · simp [below, sign_neg below]
    · rw [abs_zero] at large
      exact absurd large (not_le.2 limit_pos)
    · simp [above.le, sign_pos above]

theorem exists_exact_eq_number {number : Double} (finite : number.unpacked.isFinite) :
    ∃ value, number.exact = .number value := by
  rw [exact]
  cases kind : number.unpacked with
  | notANumber | infinity =>
      rw [kind] at finite
      cases finite
  | zero | finite => exact ⟨_, rfl⟩

theorem stored_notANumber : stored .notANumber = .notANumber := rfl

theorem stored_infinity (sign : Sign) : stored (.infinity sign) = .infinity sign := by
  cases sign <;> rfl

/-- Infinities, and what is not a number, are added without rounding. -/
theorem exactly_add {left right : UnpackedFloat}
    (special : ¬(left.isFinite ∧ right.isFinite)) :
    exactly (stored (.add .binary64 left right)) = exactly left + exactly right := by
  cases left with
  | notANumber =>
      cases right <;> simp only [UnpackedFloat.add, stored_notANumber] <;> rfl
  | infinity sign =>
      cases right with
      | infinity sign' => cases sign <;> cases sign' <;> rfl
      | notANumber => cases sign <;> rfl
      | zero | finite =>
          simp only [UnpackedFloat.add, stored_infinity]
          cases sign <;> rfl
  | zero | finite =>
      cases right with
      | infinity sign' =>
          simp only [UnpackedFloat.add, stored_infinity]
          cases sign' <;> rfl
      | notANumber =>
          simp only [UnpackedFloat.add, stored_notANumber]
          rfl
      | zero | finite => exact absurd ⟨rfl, rfl⟩ special

/-- A sum of doubles has the sign of the exact sum. -/
theorem sign_add (left right : Double) :
    (left + right).exact.sign = (left.exact + right.exact).sign := by
  by_cases finite : left.unpacked.isFinite ∧ right.unpacked.isFinite
  · obtain ⟨value, reads⟩ := exists_exact_eq_number finite.1
    obtain ⟨value', reads'⟩ := exists_exact_eq_number finite.2
    rw [reads, reads']
    exact (isRounded_add reads reads').sign_eq
  · rw [exact, unpacked_add, exactly_add finite, exact, exact]

theorem exactly_neg (number : UnpackedFloat) : exactly number.neg = -exactly number := by
  cases number with
  | notANumber => rfl
  | infinity sign => cases sign <;> rfl
  | zero => exact congrArg Exact.number neg_zero.symm
  | finite sign mantissa exponent =>
      refine congrArg Exact.number ?_
      rw [apply_neg, scaled, scaled]
      push_cast
      ring

theorem exact_neg (number : Double) : (-number).exact = -number.exact := by
  rw [exact, unpacked_neg, stored_neg, stored_unpacked, exactly_neg, exact]

/-- A difference of doubles is the sum with the opposite. -/
theorem exact_sub (left right : Double) : (left - right).exact = (left + -right).exact := by
  rw [exact, exact, unpacked_sub, unpacked_add, unpacked_neg, stored_neg, stored_unpacked,
    sub_eq_add_neg]

/-! ## Order -/

/-- Of numbers with as many digits as there is room for, that with the larger exponent is larger,
and at one exponent that with the larger mantissa. -/
theorem scaled_lt_scaled {mantissa mantissa' : Nat} {exponent exponent' : Int}
    (aligned : IsAligned mantissa exponent) (aligned' : IsAligned mantissa' exponent')
    (below : exponent < exponent' ∨ exponent = exponent' ∧ mantissa < mantissa') :
    scaled mantissa exponent < scaled mantissa' exponent' := by
  rcases below with lower | ⟨rfl, fewer⟩
  · have larger : -1074 < exponent' := lt_of_le_of_lt (least_of_isAligned aligned) lower
    calc scaled mantissa exponent < 2 ^ (exponent + 53) := scaled_lt_of_isAligned aligned
      _ ≤ 2 ^ (exponent' + 52) := zpow_le_zpow_right₀ one_le_two (by omega)
      _ ≤ scaled mantissa' exponent' := le_scaled_of_isAligned aligned' larger
  · exact mul_lt_mul_of_pos_right (by exact_mod_cast fewer) (zpow_pos two_pos _)

theorem exactly_finite (sign : Sign) (mantissa : Nat) (exponent : Int) (positive : 0 < mantissa) :
    exactly (.finite sign mantissa exponent positive) =
      .number (sign.apply 1 * scaled mantissa exponent) :=
  congrArg Exact.number (scaled_apply sign mantissa exponent)

/-- Finite numbers are ordered by sign, exponent and mantissa. -/
theorem exactly_lt_of_rank_lt {sign sign' : Sign} {mantissa mantissa' : Nat}
    {exponent exponent' : Int} {positive : 0 < mantissa} {positive' : 0 < mantissa'}
    (aligned : IsAligned mantissa exponent) (aligned' : IsAligned mantissa' exponent')
    (below : rank (.finite sign mantissa exponent positive) <
      rank (.finite sign' mantissa' exponent' positive')) :
    exactly (.finite sign mantissa exponent positive) <
      exactly (.finite sign' mantissa' exponent' positive') := by
  rw [exactly_finite, exactly_finite, Exact.number_lt]
  cases sign <;> cases sign' <;> simp [rank, Prod.Lex.toLex_lt_toLex] at below
  case negative.negative =>
    have larger := scaled_lt_scaled aligned' aligned (by omega)
    simpa [Sign.apply] using larger
  case negative.positive =>
    have : 0 < scaled mantissa exponent := scaled_pos (Int.natCast_pos.2 positive)
    have : 0 < scaled mantissa' exponent' := scaled_pos (Int.natCast_pos.2 positive')
    simp only [Sign.apply]
    push_cast
    linarith
  case positive.positive =>
    have larger := scaled_lt_scaled aligned aligned' (by omega)
    simpa [Sign.apply] using larger

theorem exact_lt_of_rank_lt {left right : Double} (leftNumber : left.unpacked.isNaN = false)
    (rightNumber : right.unpacked.isNaN = false)
    (below : rank left.unpacked < rank right.unpacked) : left.exact < right.exact := by
  rw [exact, exact]
  cases kind : left.unpacked <;> cases kind' : right.unpacked <;>
    rw [kind] at leftNumber below <;> rw [kind'] at rightNumber below
  case notANumber.notANumber | notANumber.infinity | notANumber.zero | notANumber.finite =>
    cases leftNumber
  case infinity.notANumber | zero.notANumber | finite.notANumber => cases rightNumber
  case infinity.infinity sign sign' | infinity.zero sign sign' | infinity.finite sign sign' _ _ _
      | zero.infinity sign sign' | zero.zero sign sign' | finite.infinity sign _ _ _ sign' =>
    cases sign <;> cases sign' <;> simp [rank, Prod.Lex.toLex_lt_toLex] at below <;> rfl
  case zero.finite _ sign mantissa exponent positive =>
    have magnitude : 0 < scaled mantissa exponent := scaled_pos (Int.natCast_pos.2 positive)
    rw [exactly_finite]
    cases sign <;> simp [rank, Prod.Lex.toLex_lt_toLex] at below
    simpa [exactly, Sign.apply] using magnitude
  case finite.zero sign mantissa exponent positive _ =>
    have magnitude : 0 < scaled mantissa exponent := scaled_pos (Int.natCast_pos.2 positive)
    rw [exactly_finite]
    cases sign <;> simp [rank, Prod.Lex.toLex_lt_toLex] at below
    simpa [exactly, Sign.apply] using magnitude
  case finite.finite =>
    exact exactly_lt_of_rank_lt (isAligned_of_unpack kind) (isAligned_of_unpack kind') below

theorem exactly_eq_of_unsigned_eq {left right : UnpackedFloat}
    (same : unsigned left = unsigned right) : exactly left = exactly right :=
  congr_of_unsigned_eq exactly (fun _ _ => rfl) same

theorem exact_eq_undefined_iff {number : Double} :
    number.exact = .undefined ↔ number.unpacked.isNaN = true := by
  rw [exact]
  cases number.unpacked with
  | notANumber => exact iff_of_true rfl rfl
  | infinity sign => cases sign <;> exact iff_of_false nofun nofun
  | zero | finite => exact iff_of_false nofun nofun

/-- Doubles are compared as their exact values are. -/
theorem lt_iff_exact {left right : Double} : left < right ↔ left.exact < right.exact := by
  rw [lt_iff, isNaN_iff, isNaN_iff, Bool.not_eq_true, Bool.not_eq_true]
  constructor
  · rintro ⟨leftNumber, rightNumber, below⟩
    exact exact_lt_of_rank_lt leftNumber rightNumber below
  · intro below
    obtain ⟨leftNumber, rightNumber, notAbove⟩ := LawfulOrder.lt_iff.1 below
    rw [Exact.isNaN_iff, exact_eq_undefined_iff, Bool.not_eq_true] at leftNumber rightNumber
    refine ⟨leftNumber, rightNumber, ?_⟩
    rcases lt_trichotomy (rank left.unpacked) (rank right.unpacked) with lower | same | higher
    · exact lower
    · rw [exact, exactly_eq_of_unsigned_eq
        (unsigned_eq_of_rank_eq leftNumber rightNumber same)] at below
      exact absurd below (LawfulOrder.not_lt_of_le (LawfulOrder.le_of_lt below))
    · have above := exact_lt_of_rank_lt rightNumber leftNumber higher
      exact absurd (LawfulOrder.le_of_lt above) notAbove

/-! ## Magnitudes -/

theorem exact_abs (number : Double) : (Arith.abs number).exact = Arith.abs number.exact := by
  rw [exact, exact, unpacked_abs]
  cases kind : number.unpacked with
  | notANumber => rfl
  | infinity sign => cases sign <;> rfl
  | zero sign =>
      rw [UnpackedFloat.abs, stored_zero]
      exact congrArg Exact.number abs_zero.symm
  | finite sign mantissa exponent positive =>
      have kept := stored_unpacked number
      have same : stored (UnpackedFloat.finite sign mantissa exponent positive).abs =
          (UnpackedFloat.finite sign mantissa exponent positive).abs := by
        rw [kind] at kept
        cases sign with
        | negative =>
            have opposite := stored_neg (.finite .negative mantissa exponent positive)
            rwa [kept] at opposite
        | positive => exact kept
      rw [same]
      exact congrArg Exact.number (abs_scaled_apply sign mantissa exponent).symm

theorem sign_exactly_eq_zero_iff {number : UnpackedFloat} :
    (exactly number).sign = some 0 ↔ ∃ sign, number = .zero sign := by
  cases number with
  | notANumber => exact iff_of_false nofun nofun
  | infinity sign => cases sign <;> exact iff_of_false (by simp [exactly, Exact.sign]) nofun
  | zero sign => exact iff_of_true (congrArg some sign_zero) ⟨sign, rfl⟩
  | finite sign mantissa exponent positive =>
      refine iff_of_false ?_ nofun
      rw [exactly, Exact.sign, sign_scaled_apply sign exponent positive]
      cases sign <;> simp [Sign.apply]

theorem beq_zero_iff {number : Double} : (number == 0) = true ↔ number.exact.sign = some 0 := by
  change number.unpacked.beq (.zero .positive) = true ↔ _
  rw [beq_iff_ne_notANumber_and_eq, exact, sign_exactly_eq_zero_iff]
  constructor
  · rintro ⟨_, _, same | ⟨same, _⟩ | ⟨same, _⟩⟩
    · exact ⟨_, same⟩
    · exact ⟨_, same⟩
    · exact ⟨_, same⟩
  · rintro ⟨sign, same⟩
    rw [same]
    cases sign <;> simp

/-- Zero is divided by a number that is not zero. -/
theorem div_beq_zero {left right : Double} (zero : left.exact.sign = some 0)
    (positive : right.exact.sign = some 1) : (left / right == 0) = true := by
  rw [exact, sign_exactly_eq_zero_iff] at zero
  obtain ⟨sign, kind⟩ := zero
  have quotient : (left / right).unpacked =
      stored (.div .binary64 left.unpacked right.unpacked) := rfl
  rw [beq_zero_iff, exact, quotient, kind]
  rw [exact] at positive
  cases kind' : right.unpacked with
  | notANumber | zero =>
      rw [kind'] at positive
      simp [exactly, Exact.sign] at positive
  | infinity | finite =>
      rw [UnpackedFloat.div, stored_zero]
      exact congrArg some sign_zero

theorem abs_lt_of_exact {number : Double} {value : ℚ} (reads : number.exact = .number value) :
    |value| < limit := by
  rcases exact_eq_number reads with
    ⟨_, _, rfl⟩ | ⟨sign, mantissa, exponent, positive, kind, aligned, rfl⟩
  · rw [abs_zero]
    exact limit_pos
  · have small : exponent ≤ 971 := by
      have kept := stored_unpacked number
      rw [kind, stored_finite sign positive aligned] at kept
      by_contra large
      rw [if_neg large] at kept
      cases kept
    rw [abs_scaled_apply]
    calc scaled mantissa exponent < 2 ^ (exponent + 53) := scaled_lt_of_isAligned aligned
      _ ≤ limit := zpow_le_zpow_right₀ one_le_two (by omega)

end Double

namespace Exact

variable {K : Type} [Field K] [LinearOrder K] [IsStrictOrderedRing K]

theorem sign_sub_of_lt {left right : Exact K} (below : right < left) :
    (left + -right).sign = some 1 := by
  cases left with
  | number value =>
      cases right with
      | number value' =>
          rw [number_lt] at below
          rw [number_neg, number_add, sign, sign_pos (by linarith)]
      | infinite isNegative => cases isNegative <;> [cases below; rfl]
      | undefined => cases below
  | infinite isNegative =>
      cases right with
      | number value' => cases isNegative <;> [rfl; cases below]
      | infinite isNegative' =>
          cases isNegative <;> cases isNegative' <;> first | rfl | cases below
      | undefined => cases below
  | undefined => cases right <;> cases below

/-- A sum of values that are not negative is zero only if both are. -/
theorem sign_add_of_nonneg {left right : Exact K} (nonneg : left.sign ≠ some (-1))
    (nonneg' : right.sign ≠ some (-1)) :
    (left + right).sign ≠ some (-1) ∧
      ((left + right).sign = some 0 ↔ left.sign = some 0 ∧ right.sign = some 0) := by
  have special (sum : left + right = infinite false ∨ left + right = undefined)
      (nonzero : left.sign ≠ some 0 ∨ right.sign ≠ some 0) :
      (left + right).sign ≠ some (-1) ∧
        ((left + right).sign = some 0 ↔ left.sign = some 0 ∧ right.sign = some 0) := by
    rcases sum with sum | sum
    · rw [sum]
      exact ⟨by simp [sign], iff_of_false (by simp [sign]) (not_and_or.2 nonzero)⟩
    · rw [sum]
      exact ⟨nofun, iff_of_false nofun (not_and_or.2 nonzero)⟩
  cases left with
  | number value =>
      cases right with
      | number value' =>
          rw [number_add]
          simp only [sign, ne_eq, Option.some.injEq, sign_eq_neg_one_iff, sign_eq_zero_iff,
            not_lt] at nonneg nonneg' ⊢
          exact ⟨add_nonneg nonneg nonneg', add_eq_zero_iff_of_nonneg nonneg nonneg'⟩
      | infinite isNegative =>
          cases isNegative with
          | false => exact special (.inl rfl) (.inr (by simp [sign]))
          | true => exact absurd rfl nonneg'
      | undefined => exact special (.inr rfl) (.inr nofun)
  | infinite isNegative =>
      cases isNegative with
      | true => exact absurd rfl nonneg
      | false =>
          cases right with
          | number value' => exact special (.inl rfl) (.inl (by simp [sign]))
          | infinite isNegative' =>
              cases isNegative' with
              | false => exact special (.inl rfl) (.inl (by simp [sign]))
              | true => exact absurd rfl nonneg'
          | undefined => exact special (.inr rfl) (.inr nofun)
  | undefined =>
      refine special (.inr ?_) (.inl nofun)
      cases right <;> rfl

theorem sign_abs (value : Exact K) : (Arith.abs value).sign ≠ some (-1) ∧
    ((Arith.abs value).sign = some 0 ↔ value.sign = some 0) := by
  cases value with
  | number value => simp [sign, sign_eq_neg_one_iff]
  | infinite isNegative =>
      refine ⟨by simp [Arith.abs, sign], iff_of_false (by simp [Arith.abs, sign]) ?_⟩
      cases isNegative <;> simp [sign]
  | undefined => exact ⟨nofun, iff_of_false nofun nofun⟩

end Exact

namespace Double

theorem foldl_abs_beq_zero {values : List Double} {total : Double}
    (nonneg : total.exact.sign ≠ some (-1)) :
    (values.foldl (fun sum value => sum + Arith.abs value) total == 0) = true ↔
      (total == 0) = true ∧ ∀ value ∈ values, (value == 0) = true := by
  -- No sum on the way is negative; an overflow is an infinity, which is not zero.
  induction values generalizing total with
  | nil => simp
  | cons value rest ih =>
      obtain ⟨magnitude, zero⟩ := Exact.sign_abs value.exact
      rw [← exact_abs] at magnitude zero
      obtain ⟨still, both⟩ := Exact.sign_add_of_nonneg nonneg magnitude
      rw [← sign_add] at still both
      rw [List.foldl_cons, ih still, List.forall_mem_cons, ← and_assoc, beq_zero_iff, both, zero,
        beq_zero_iff, beq_zero_iff]

/-- A sum of magnitudes is zero only if every term is. -/
theorem sum_abs_beq_zero {values : List Double} :
    (values.foldl (fun sum value => sum + Arith.abs value) 0 == 0) = true ↔
      ∀ value ∈ values, (value == 0) = true := by
  have nonneg : (0 : Double).exact.sign ≠ some (-1) := by
    rw [show (0 : Double).exact = .number 0 from rfl]
    simp [Exact.sign]
  have zero : ((0 : Double) == 0) = true := rfl
  rw [foldl_abs_beq_zero nonneg]
  exact and_iff_right zero

end Double

end NonlinearProgram
