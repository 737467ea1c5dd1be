import NonlinearProgram.Proofs.Arith.Order
import NonlinearProgram.Proofs.Arith.Sums

/-!
# Exact arithmetic

Arithmetic without rounding over an ordered field. Two infinities and a result that is not a number
are added to the field, because bounds and failed evaluations are expressed with them. The
operations on these follow the rules of floating point, but there is one zero only.
-/

namespace NonlinearProgram

/-- An element of an ordered field, an infinity, or the result of an operation without a value. -/
inductive Exact (K : Type) where
  | number (value : K)
  | infinite (isNegative : Bool)
  | undefined
  deriving DecidableEq, Repr

namespace Exact

variable {K : Type} [Field K] [LinearOrder K]

/-- Sum; infinities of opposite signs have none. -/
def add : Exact K → Exact K → Exact K
  | number left, number right => number (left + right)
  | infinite sign, infinite sign' => if sign = sign' then infinite sign else undefined
  | infinite sign, number _ => infinite sign
  | number _, infinite sign => infinite sign
  | undefined, _ => undefined
  | _, undefined => undefined

/-- Opposite. -/
def neg : Exact K → Exact K
  | number value => number (-value)
  | infinite sign => infinite !sign
  | undefined => undefined

/-- Product; an infinity and zero have none. -/
def mul : Exact K → Exact K → Exact K
  | number left, number right => number (left * right)
  | infinite sign, infinite sign' => infinite (sign ^^ sign')
  | infinite sign, number value => if value = 0 then undefined else infinite (sign ^^ value < 0)
  | number value, infinite sign => if value = 0 then undefined else infinite (sign ^^ value < 0)
  | undefined, _ => undefined
  | _, undefined => undefined

/-- Quotient; zeros have none, and infinities neither. -/
def div : Exact K → Exact K → Exact K
  | number left, number right =>
      if right ≠ 0 then number (left / right)
      else if left = 0 then undefined else infinite (left < 0)
  | infinite sign, number value => infinite (sign ^^ value < 0)
  | number _, infinite _ => number 0
  | infinite _, infinite _ => undefined
  | undefined, _ => undefined
  | _, undefined => undefined

/-- Strict comparison. -/
def lt : Exact K → Exact K → Bool
  | number left, number right => left < right
  | infinite sign, infinite sign' => sign && !sign'
  | infinite sign, number _ => sign
  | number _, infinite sign => !sign
  | undefined, _ => false
  | _, undefined => false

/-- Comparison. -/
def le : Exact K → Exact K → Bool
  | number left, number right => left ≤ right
  | infinite sign, infinite sign' => sign || !sign'
  | infinite sign, number _ => sign
  | number _, infinite sign => !sign
  | undefined, _ => false
  | _, undefined => false

instance : Arith (Exact K) where
  zero := number 0
  one := number 1
  add := add
  sub left right := left.add right.neg
  mul := mul
  div := div
  neg := neg
  beq left right := left.le right && right.le left
  lt left right := left.lt right
  le left right := left.le right
  ofScientific mantissa isNegative exponent :=
    number (if isNegative then mantissa / 10 ^ exponent else mantissa * 10 ^ exponent)
  decLt left right := inferInstanceAs (Decidable (left.lt right = true))
  decLe left right := inferInstanceAs (Decidable (left.le right = true))
  abs
    | number value => number |value|
    | infinite _ => infinite false
    | undefined => undefined
  isFinite
    | number _ => true
    | infinite _ | undefined => false
  ofInt value := number value
  infinity := infinite false
  nan := undefined

/-! ## Numbers -/

@[simp] theorem number_add (left right : K) :
    number left + number right = number (left + right) := rfl

@[simp] theorem number_sub (left right : K) :
    number left - number right = number (left - right) :=
  congrArg number (sub_eq_add_neg left right).symm

@[simp] theorem number_mul (left right : K) :
    number left * number right = number (left * right) := rfl

@[simp] theorem number_neg (value : K) : -number value = number (-value) := rfl

@[simp] theorem abs_number (value : K) : Arith.abs (number value) = number |value| := rfl

theorem number_div (left : K) {right : K} (nonzero : right ≠ 0) :
    number left / number right = number (left / right) := if_pos nonzero

@[simp] theorem number_lt {left right : K} : number left < number right ↔ left < right :=
  decide_eq_true_iff

@[simp] theorem number_le {left right : K} : number left ≤ number right ↔ left ≤ right :=
  decide_eq_true_iff

theorem isFinite_iff {value : Exact K} :
    Arith.isFinite value ↔ ∃ element, value = number element := by
  cases value with
  | number element => exact iff_of_true rfl ⟨element, rfl⟩
  | infinite | undefined => exact iff_of_false nofun nofun

theorem isFinite_number (value : K) : Arith.isFinite (number value) := rfl

theorem isNaN_number (value : K) : Arith.isNaN (number value) = false := by
  change (!(decide (value ≤ value) && decide (value ≤ value))) = false
  simp

theorem isNaN_iff {value : Exact K} : Arith.isNaN value ↔ value = undefined := by
  cases value with
  | number value => simp [isNaN_number]
  | infinite sign => cases sign <;> exact iff_of_false nofun nofun
  | undefined => exact iff_of_true rfl rfl

theorem le_iff {left right : Exact K} : left ≤ right ↔ left.le right = true := Iff.rfl

theorem lt_iff {left right : Exact K} : left < right ↔ left.lt right = true := Iff.rfl

/-- Infinities are at the ends of the order. -/
instance : LawfulOrder (Exact K) where
  isNaN_zero := by
    rw [isNaN_iff]
    exact nofun
  not_isNaN_of_isFinite := by
    intro value finite
    obtain ⟨_, rfl⟩ := isFinite_iff.1 finite
    rw [isNaN_iff]
    exact nofun
  not_isNaN_of_le := by
    intro left right below
    cases left <;> cases right <;> simp_all [isNaN_iff, le_iff, le]
  le_total := by
    intro left right leftNumber rightNumber
    cases left <;> cases right <;> simp_all [isNaN_iff, le_iff, le]
    case number.number left right => exact le_total left right
    case infinite.infinite sign sign' => cases sign <;> simp
  le_trans := by
    intro left middle right below above
    cases left <;> cases middle <;> cases right <;> simp_all [le_iff, le]
    case number.number.number => exact below.trans above
    case infinite.infinite.infinite sign sign' sign'' => cases sign' <;> simp_all
  lt_iff := by
    intro left right
    cases left <;> cases right <;> simp [isNaN_iff, lt_iff, le_iff, lt, le, and_comm]

/-! ## Finite values -/

section Finite

variable {left right : Exact K}

theorem isFinite_add (finite : Arith.isFinite left) (finite' : Arith.isFinite right) :
    Arith.isFinite (left + right) := by
  obtain ⟨_, rfl⟩ := isFinite_iff.1 finite
  obtain ⟨_, rfl⟩ := isFinite_iff.1 finite'
  rfl

theorem isFinite_sub (finite : Arith.isFinite left) (finite' : Arith.isFinite right) :
    Arith.isFinite (left - right) := by
  obtain ⟨_, rfl⟩ := isFinite_iff.1 finite
  obtain ⟨_, rfl⟩ := isFinite_iff.1 finite'
  rfl

theorem isFinite_mul (finite : Arith.isFinite left) (finite' : Arith.isFinite right) :
    Arith.isFinite (left * right) := by
  obtain ⟨_, rfl⟩ := isFinite_iff.1 finite
  obtain ⟨_, rfl⟩ := isFinite_iff.1 finite'
  rfl

theorem isFinite_neg (finite : Arith.isFinite left) : Arith.isFinite (-left) := by
  obtain ⟨_, rfl⟩ := isFinite_iff.1 finite
  rfl

/-- Finite values add up to a finite value. -/
theorem isAdditive_isFinite : IsAdditive fun (value _ : Exact K) => Arith.isFinite value where
  zero := rfl
  add := isFinite_add

end Finite

/-! ## Projections -/

/-- A number lies in an interval; a bound that is not a number is none. -/
def Within (lower upper : Exact K) (value : K) : Prop :=
  ¬number value < lower ∧ ¬upper < number value

instance (lower upper : Exact K) (value : K) : Decidable (Within lower upper value) :=
  inferInstanceAs (Decidable (_ ∧ _))

/-- A lower bound that separates two numbers is a number between them. -/
theorem lower_between {lower : Exact K} {value inside : K} (below : number value < lower)
    (notBelow : ¬number inside < lower) :
    ∃ bound, lower = number bound ∧ value < bound ∧ bound ≤ inside := by
  cases lower with
  | number bound => exact ⟨bound, rfl, number_lt.1 below, not_lt.1 (mt number_lt.2 notBelow)⟩
  | infinite sign => exact (notBelow below).elim
  | undefined => cases below

theorem upper_between {upper : Exact K} {value inside : K} (above : upper < number value)
    (notAbove : ¬upper < number inside) :
    ∃ bound, upper = number bound ∧ inside ≤ bound ∧ bound < value := by
  cases upper with
  | number bound => exact ⟨bound, rfl, not_lt.1 (mt number_lt.2 notAbove), number_lt.1 above⟩
  | infinite sign => exact (notAbove above).elim
  | undefined => cases above

/-- The point of an interval nearest a number is a number in it, which no other number of the
interval separates from the first. -/
theorem clamp_number {lower upper : Exact K} {inside : K} (within : Within lower upper inside)
    (value : K) :
    ∃ nearest, Arith.clamp (number value) lower upper = number nearest ∧
      Within lower upper nearest ∧ (value ≤ inside → nearest ≤ inside) ∧
        (inside ≤ value → inside ≤ nearest) := by
  obtain ⟨notBelow, notAbove⟩ := within
  rw [Arith.clamp]
  by_cases below : number value < lower
  · obtain ⟨bound, rfl, less, least⟩ := lower_between below notBelow
    rw [if_pos below]
    refine ⟨bound, rfl, ⟨mt number_lt.1 (lt_irrefl bound), fun above => ?_⟩, fun _ => least,
      fun greater => greater.trans less.le⟩
    obtain ⟨other, rfl, most, more⟩ := upper_between above notAbove
    exact (least.trans most).not_gt more
  · rw [if_neg below]
    by_cases above : upper < number value
    · obtain ⟨bound, rfl, most, more⟩ := upper_between above notAbove
      rw [if_pos above]
      refine ⟨bound, rfl, ⟨fun under => ?_, mt number_lt.1 (lt_irrefl bound)⟩,
        fun less => more.le.trans less, fun _ => most⟩
      obtain ⟨other, rfl, less, least⟩ := lower_between under notBelow
      exact (least.trans most).not_gt less
    · rw [if_neg above]
      exact ⟨value, rfl, ⟨below, above⟩, id, id⟩

/-! ## Signs -/

/-- A positive number. -/
def IsPositive (value : Exact K) : Prop := ∃ element, 0 < element ∧ value = number element

theorem IsPositive.isFinite {value : Exact K} (positive : value.IsPositive) :
    Arith.isFinite value := by
  obtain ⟨element, _, rfl⟩ := positive
  exact isFinite_number element

/-- A finite value between positive bounds is positive, and one of the bounds otherwise. -/
theorem isPositive_clamp {value lower upper : Exact K} (finite : Arith.isFinite value)
    (positive : lower.IsPositive) (positive' : upper.IsPositive) :
    (Arith.clamp value lower upper).IsPositive := by
  obtain ⟨element, rfl⟩ := isFinite_iff.1 finite
  rw [Arith.clamp]
  split
  case isTrue => exact positive
  case isFalse notBelow =>
    split
    case isTrue => exact positive'
    case isFalse =>
      obtain ⟨bound, above, rfl⟩ := positive
      exact ⟨element, above.trans_le (not_lt.1 (mt number_lt.2 notBelow)), rfl⟩

theorem isPositive_minimum {left right : Exact K} (positive : left.IsPositive)
    (positive' : right.IsPositive) : (Arith.minimum left right).IsPositive := by
  rw [Arith.minimum]
  split
  case isTrue => exact positive'
  case isFalse =>
    split
    case isTrue => exact positive'
    case isFalse => exact positive

/-- The larger of a finite value and a positive one is positive. -/
theorem isPositive_maximum {left right : Exact K} (finite : Arith.isFinite left)
    (positive : right.IsPositive) : (Arith.maximum left right).IsPositive := by
  rw [Arith.maximum]
  split
  case isTrue => exact positive
  case isFalse =>
    split
    case isTrue => exact positive
    case isFalse notBelow =>
      obtain ⟨element, rfl⟩ := isFinite_iff.1 finite
      obtain ⟨bound, above, rfl⟩ := positive
      exact ⟨element, above.trans_le (not_lt.1 (mt number_lt.2 notBelow)), rfl⟩

section Signs

variable [IsStrictOrderedRing K]

/-- Numbers that are not positive add up to such a number. -/
theorem isAdditive_nonpos :
    IsAdditive fun (value _ : Exact K) => ∃ element ≤ 0, value = number element where
  zero := ⟨0, le_refl 0, rfl⟩
  add := by
    rintro _ _ _ _ ⟨left, nonpos, rfl⟩ ⟨right, nonpos', rfl⟩
    exact ⟨left + right, add_nonpos nonpos nonpos', rfl⟩

/-- A projected move against a slope does not go up the slope. -/
theorem slope_of_move_nonpos {lower upper : Exact K} {x : K} (within : Within lower upper x)
    (slope : K) {length : K} (positive : 0 < length) :
    ∃ change ≤ 0, number slope *
      (Arith.clamp (number x - number slope * number length) lower upper - number x) =
        number change := by
  rw [number_mul, number_sub]
  obtain ⟨nearest, clamped, _, ahead, behind⟩ := clamp_number within (x - slope * length)
  rw [clamped, number_sub, number_mul]
  refine ⟨_, ?_, rfl⟩
  rcases le_total 0 slope with up | down
  · have back : nearest ≤ x := ahead (sub_le_self x (mul_nonneg up positive.le))
    exact mul_nonpos_of_nonneg_of_nonpos up (sub_nonpos.2 back)
  · have forth : x ≤ nearest := by
      apply behind
      rw [le_sub_self_iff]
      exact mul_nonpos_of_nonpos_of_nonneg down positive.le
    exact mul_nonpos_of_nonpos_of_nonneg down (sub_nonneg.2 forth)

theorem isPositive_one : IsPositive (1 : Exact K) := ⟨1, one_pos, rfl⟩

/-- A decimal numeral is positive unless its digits are zeros. -/
theorem isPositive_ofScientific {mantissa : Nat} (positive : 0 < mantissa) (isNegative : Bool)
    (exponent : Nat) :
    IsPositive (OfScientific.ofScientific mantissa isNegative exponent : Exact K) := by
  refine ⟨_, ?_, rfl⟩
  have digits : (0 : K) < mantissa := Nat.cast_pos.2 positive
  split <;> positivity

theorem IsPositive.mul {left right : Exact K} (positive : left.IsPositive)
    (positive' : right.IsPositive) : (left * right).IsPositive := by
  obtain ⟨element, above, rfl⟩ := positive
  obtain ⟨element', above', rfl⟩ := positive'
  exact ⟨_, mul_pos above above', rfl⟩

theorem IsPositive.div {left right : Exact K} (positive : left.IsPositive)
    (positive' : right.IsPositive) : (left / right).IsPositive := by
  obtain ⟨element, above, rfl⟩ := positive
  obtain ⟨element', above', rfl⟩ := positive'
  exact ⟨_, div_pos above above', number_div _ above'.ne'⟩

end Signs

end Exact

end NonlinearProgram
