import NonlinearProgram.Proofs.Arith.ExactValue
import NonlinearProgram.Proofs.Differentiation.Difference

/-!
# Steps that are taken

A difference moves a coordinate by a part of its scale, which is at least one. The part is larger
than the spacing of the doubles at that scale, so both points of a difference differ from the
coordinate that is moved, and a divisor, which is the step that was really taken, is positive. All
this is about finite coordinates: an infinite one does not move.
-/

namespace NonlinearProgram

namespace Double

open Float.Model Float.Model.UnpackedFloat

theorem spacing_of_le {value : ℚ} {bound : ℚ} (bounded : |value| ≤ bound)
    (large : 2 ^ (-1000 : Int) ≤ bound) : spacing value ≤ bound * 2 ^ (-52 : Int) := by
  refine max_le (mul_le_mul_of_nonneg_right bounded (zpow_pos two_pos _).le) ?_
  calc (2 : ℚ) ^ (-1074 : Int) ≤ 2 ^ (-1000 : Int) * 2 ^ (-52 : Int) := by
        rw [← zpow_add₀ two_ne_zero]
        exact zpow_le_zpow_right₀ one_le_two (by norm_num)
    _ ≤ bound * 2 ^ (-52 : Int) := mul_le_mul_of_nonneg_right large (zpow_pos two_pos _).le

/-- A sum with a term that is larger than the spacing moves away from the other term. -/
theorem lt_exact_add {left right : Double} {value move : ℚ} (reads : left.exact = .number value)
    (reads' : right.exact = .number move) (large : spacing (value + move) < |move|) :
    (0 < move → left.exact < (left + right).exact) ∧
      (move < 0 → (left + right).exact < left.exact) := by
  obtain ⟨rounded, -, near, stays⟩ := isRounded_add reads reads'
  -- A sum may overflow; the infinity then is on the side it moved to.
  have bounded := abs_lt.1 (abs_lt_of_exact reads)
  have close := abs_le.1 near
  rw [reads]
  constructor
  · intro up
    rw [abs_of_pos up] at large
    have above : value < rounded := by linarith
    rcases stays with same | ⟨huge, same⟩
    · rw [same]
      exact Exact.number_lt.2 above
    · have positive : 0 ≤ rounded := by
        by_contra negative
        rw [abs_of_neg (not_le.1 negative)] at huge
        linarith
      rw [same, decide_eq_false (not_lt.2 positive)]
      rfl
  · intro down
    rw [abs_of_neg down] at large
    have below : rounded < value := by linarith
    rcases stays with same | ⟨huge, same⟩
    · rw [same]
      exact Exact.number_lt.2 below
    · have negative : rounded < 0 := by
        by_contra positive
        rw [abs_of_nonneg (not_lt.1 positive)] at huge
        linarith
      rw [same, decide_eq_true negative]
      rfl

theorem exact_one : (1 : Double).exact = .number 1 := by
  have kind : (1 : Double).unpacked = .finite .positive (2 ^ 52) (-52) (by decide) := rfl
  rw [exact, kind, exactly_finite]
  norm_num [Sign.apply, scaled]

theorem exact_maximum_one (number : Double) {value : ℚ} (reads : number.exact = .number value) :
    (Arith.maximum 1 (Arith.abs number)).exact = .number (max 1 |value|) := by
  have magnitude : (Arith.abs number).exact = .number |value| := by
    rw [exact_abs, reads]
    rfl
  have isNumber : Arith.isNaN (1 : Double) = false := by decide +kernel
  rw [Arith.maximum, isNumber, if_neg Bool.false_ne_true]
  by_cases large : (1 : Double) < Arith.abs number
  · have larger := lt_iff_exact.1 large
    rw [exact_one, magnitude, Exact.number_lt] at larger
    rw [if_pos large, magnitude, max_eq_right larger.le]
  · have smaller := mt lt_iff_exact.2 large
    rw [exact_one, magnitude, Exact.number_lt] at smaller
    rw [if_neg large, exact_one, max_eq_left (not_lt.1 smaller)]

/-- A double of at least one has all its digits, and an exponent that is not small. -/
theorem unpacked_of_one_le {number : Double} {value : ℚ} (reads : number.exact = .number value)
    (large : 1 ≤ value) : ∃ mantissa exponent positive,
      number.unpacked = .finite .positive mantissa exponent positive ∧ mantissa.log2 = 52 ∧
        -52 ≤ exponent ∧ value = scaled mantissa exponent := by
  rcases exact_eq_number reads with
    ⟨_, _, rfl⟩ | ⟨sign, mantissa, exponent, positive, kind, aligned, rfl⟩
  · norm_num at large
  · have magnitude : 0 < scaled mantissa exponent := scaled_pos (Int.natCast_pos.2 positive)
    cases sign with
    | negative =>
        rw [scaled_apply] at large
        simp only [Sign.apply] at large
        push_cast at large
        linarith
    | positive =>
        have below : (1 : ℚ) < 2 ^ (exponent + 53) :=
          lt_of_le_of_lt large (scaled_lt_of_isAligned aligned)
        have least := (one_lt_zpow_iff_right₀ one_lt_two).1 below
        refine ⟨mantissa, exponent, positive, kind, ?_, by omega, rfl⟩
        exact log2_of_isAligned aligned (by omega)

/-- A product with a small number that has all its digits. -/
theorem isRounded_mul {small scale : Double} {mantissa : Nat} {exponent : Int}
    {positive : 0 < mantissa} {value : ℚ}
    (reads : small.unpacked = .finite .positive mantissa exponent positive)
    (full : mantissa.log2 = 52) (least : -78 ≤ exponent) (reads' : scale.exact = .number value)
    (large : 1 ≤ value) : IsRounded (scaled mantissa exponent * value) (small * scale).exact := by
  obtain ⟨mantissa', exponent', positive', kind, full', least', rfl⟩ :=
    unpacked_of_one_le reads' large
  have lower : 2 ^ 104 ≤ mantissa * mantissa' := by
    calc 2 ^ 104 = 2 ^ mantissa.log2 * 2 ^ mantissa'.log2 := by rw [full, full', ← pow_add]
      _ ≤ mantissa * mantissa' :=
        Nat.mul_le_mul (Nat.log2_self_le positive.ne') (Nat.log2_self_le positive'.ne')
  have digits : 104 ≤ (mantissa * mantissa').log2 :=
    (Nat.le_log2 (Nat.mul_pos positive positive').ne').2 lower
  obtain ⟨spare, count⟩ := Nat.exists_eq_add_of_le (le_trans (by norm_num : 52 ≤ 104) digits)
  have rounding := roundWithAccuracy_isRounding .positive (exponent + exponent') spare
    count (by omega)
  have rounded := rounding.isRounded (Nat.mul_pos positive positive')
  have product : scaled mantissa exponent * scaled mantissa' exponent' =
      scaled (Sign.positive.apply (mantissa * mantissa' : Nat)) (exponent + exponent') := by
    simp only [scaled, Sign.apply, zpow_add₀ (two_ne_zero (α := ℚ))]
    push_cast
    ring
  rw [product, exact, unpacked_mul, reads, kind]
  exact rounded

/-- A step is a number between a small part of the scale of its point and that scale. -/
theorem exists_exact_step {small scale : Double} {mantissa : Nat} {exponent : Int}
    {positive : 0 < mantissa} {value : ℚ}
    (reads : small.unpacked = .finite .positive mantissa exponent positive)
    (full : mantissa.log2 = 52) (least : -78 ≤ exponent) (most : exponent ≤ -70)
    (reads' : scale.exact = .number value) (large : 1 ≤ value) :
    ∃ step, (small * scale).exact = .number step ∧ 2 ^ (-27 : Int) * value ≤ step ∧
      step ≤ value := by
  have aligned : IsAligned mantissa exponent := isAligned_iff.2 (.inl ⟨full, by omega⟩)
  have lower : (2 : ℚ) ^ (-26 : Int) ≤ scaled mantissa exponent := by
    calc (2 : ℚ) ^ (-26 : Int) ≤ 2 ^ (exponent + 52) :=
          zpow_le_zpow_right₀ one_le_two (by omega)
      _ ≤ scaled mantissa exponent := le_scaled_of_isAligned aligned (by omega)
  have upper : scaled mantissa exponent ≤ 2 ^ (-17 : Int) := by
    calc scaled mantissa exponent ≤ 2 ^ (exponent + 53) := (scaled_lt_of_isAligned aligned).le
      _ ≤ 2 ^ (-17 : Int) := zpow_le_zpow_right₀ one_le_two (by omega)
  -- The product is rounded once, by much less than the room there is on both sides.
  obtain ⟨rounded, -, near, stays⟩ := isRounded_mul reads full least reads' large
  generalize scaled mantissa exponent = part at lower upper near stays
  have smallest : (2 : ℚ) ^ (-26 : Int) ≤ part * value := by
    calc (2 : ℚ) ^ (-26 : Int) ≤ part := lower
      _ ≤ part * value := le_mul_of_one_le_right ((zpow_pos two_pos _).le.trans lower) large
  have nonneg : 0 ≤ part * value := (zpow_pos two_pos _).le.trans smallest
  have close : |rounded - part * value| ≤ part * value * 2 ^ (-52 : Int) := by
    refine near.trans (spacing_of_le (abs_of_nonneg nonneg).le (le_trans ?_ smallest))
    exact zpow_le_zpow_right₀ one_le_two (by norm_num)
  obtain ⟨notLess, notMore⟩ := abs_le.1 close
  have above : 2 ^ (-27 : Int) * value ≤ rounded := by
    calc 2 ^ (-27 : Int) * value = 2 ^ (-26 : Int) * value / 2 := by
          norm_num
          ring
      _ ≤ part * value / 2 := by gcongr
      _ ≤ rounded := by
          norm_num at notLess
          linarith
  have below : rounded ≤ value := by
    have half : part * value ≤ value / 2 := by
      calc part * value ≤ 2 ^ (-17 : Int) * value := by gcongr
        _ ≤ value / 2 := by
          norm_num
          linarith
    norm_num at notMore
    linarith
  refine ⟨rounded, ?_, above, below⟩
  refine stays.resolve_right ?_
  rintro ⟨huge, -⟩
  have positive : 0 < rounded := lt_of_lt_of_le (by positivity) above
  rw [abs_of_pos positive] at huge
  have finite := abs_lt.1 (abs_lt_of_exact reads')
  linarith

end Double

namespace Scheme

open Double Float.Model Float.Model.UnpackedFloat

variable {scheme : Scheme} {x : Double}

/-- The step of a difference, as a part of the scale of its point. -/
theorem exists_exact_step (isReal : scheme ≠ .complexStep) {value : ℚ}
    (reads : x.exact = .number value) :
    ∃ step, (scheme.step x).exact = .number step ∧ 2 ^ (-27 : Int) * max 1 |value| ≤ step ∧
      step ≤ max 1 |value| := by
  have scale := exact_maximum_one x reads
  have large : 1 ≤ max 1 |value| := le_max_left 1 |value|
  cases scheme with
  | forward =>
      have kind : (Precision.sqrtEpsilon : Double).unpacked =
          .finite .positive (2 ^ 52) (-78) (by decide) := rfl
      exact Double.exists_exact_step kind (by decide +kernel) (by decide) (by decide) scale large
  | central =>
      have kind : (Precision.cbrtEpsilon : Double).unpacked =
          .finite .positive 0x1965fea53d6e3d (-70) (by decide) := rfl
      exact Double.exists_exact_step kind (by decide +kernel) (by decide) (by decide) scale large
  | complexStep => exact absurd rfl isReal

/-- A step leads away from its point on both sides. -/
theorem exact_lt_step (isReal : scheme ≠ .complexStep) (finite : Arith.isFinite x) :
    x.exact < (x + scheme.step x).exact ∧ (x - scheme.step x).exact < x.exact := by
  obtain ⟨value, reads⟩ := exists_exact_eq_number finite
  obtain ⟨step, reads', large, small⟩ := exists_exact_step isReal reads
  have scale : 1 ≤ max 1 |value| := le_max_left 1 |value|
  have inside : |value| ≤ max 1 |value| := le_max_right 1 |value|
  generalize max 1 |value| = scale' at *
  have positive : 0 < step := lt_of_lt_of_le (by positivity) large
  -- The step has about half of the digits of the scale to spare, on either side of the point.
  have room (move : ℚ) (size : |move| = step) : spacing (value + move) < |move| := by
    have bounded : |value + move| ≤ 2 * scale' := by
      linarith [abs_add_le value move]
    have narrow : spacing (value + move) ≤ 2 * scale' * 2 ^ (-52 : Int) := by
      refine spacing_of_le bounded (le_trans (b := 1) ?_ (by linarith))
      exact zpow_le_one_of_nonpos₀ one_le_two (by norm_num)
    rw [size]
    calc spacing (value + move) ≤ 2 * scale' * 2 ^ (-52 : Int) := narrow
      _ < 2 ^ (-27 : Int) * scale' := by
          norm_num
          linarith
      _ ≤ step := large
  have opposite : (-scheme.step x).exact = .number (-step) := by rw [exact_neg, reads']; rfl
  constructor
  · exact (lt_exact_add reads reads' (room step (abs_of_pos positive))).1 positive
  · rw [exact_sub]
    refine (lt_exact_add reads opposite (room (-step) ?_)).2 (neg_lt_zero.2 positive)
    rw [abs_neg, abs_of_pos positive]

/-- The divisor of a difference at a finite point is positive. -/
theorem sign_divisor (isReal : scheme ≠ .complexStep) (finite : Arith.isFinite x) :
    (scheme.divisor x).exact.sign = some 1 := by
  have apart := exact_lt_step isReal finite
  cases scheme with
  | forward =>
      rw [divisor, exact_sub, sign_add, exact_neg]
      exact Exact.sign_sub_of_lt apart.1
  | central =>
      rw [divisor, exact_sub, sign_add, exact_neg]
      exact Exact.sign_sub_of_lt (LawfulOrder.lt_trans apart.2 apart.1)
  | complexStep => exact absurd rfl isReal

end Scheme

/-- The quotient of two equal finite values is zero at a finite point. -/
theorem Double.sub_self_div_beq_zero {scheme : Scheme} (isReal : scheme ≠ .complexStep)
    {value x : Double} (finite : Arith.isFinite value) (finite' : Arith.isFinite x) :
    ((value - value) / scheme.divisor x == 0) = true := by
  refine div_beq_zero ?_ (scheme.sign_divisor isReal finite')
  obtain ⟨number, reads⟩ := exists_exact_eq_number finite
  rw [exact_sub, sign_add, exact_neg, reads]
  simp [Exact.sign]

end NonlinearProgram
