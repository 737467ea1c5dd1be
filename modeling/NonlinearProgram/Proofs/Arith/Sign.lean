import NonlinearProgram.Proofs.Arith.One
import NonlinearProgram.Proofs.Arith.Order
import NonlinearProgram.Proofs.Arith.Sums

/-!
# Signs and the sign of zero

The negative of a difference is the sum of the negative and the other operand, but where the two are
the same number the one is a negative zero and the other a positive one. `Arith.Same` is equality
apart from that sign, and `LawfulNegation` names the operations that keep to it. A quotient is not
among them, since a divisor of zero hands its sign on to an infinity.

For doubles nothing else can differ, because rounding looks at a mantissa and not at a sign.
-/

namespace NonlinearProgram

/-- Equal numbers, or neither is a number; the sign of zero does not count. -/
def Arith.Same {R : Type} [Arith R] (left right : R) : Prop :=
  (left == right) = true ∨ Arith.isNaN left ∧ Arith.isNaN right

/-- The negative of a difference, and operations that do not see the sign of zero. -/
class LawfulNegation (R : Type) [Arith R] : Prop where
  neg_sub (left right : R) : Arith.Same (-(left - right)) (-left + right)
  add {left left' right right' : R} : Arith.Same left left' → Arith.Same right right' →
    Arith.Same (left + right) (left' + right')
  sub {left left' right right' : R} : Arith.Same left left' → Arith.Same right right' →
    Arith.Same (left - right) (left' - right')
  mul {left left' right right' : R} : Arith.Same left left' → Arith.Same right right' →
    Arith.Same (left * right) (left' * right')
  abs {value value' : R} : Arith.Same value value' → Arith.Same (Arith.abs value) (Arith.abs value')
  lt_iff {left left' right right' : R} : Arith.Same left left' → Arith.Same right right' →
    (left < right ↔ left' < right')
  le_iff {left left' right right' : R} : Arith.Same left left' → Arith.Same right right' →
    (left ≤ right ↔ left' ≤ right')

theorem Arith.same_refl {R : Type} [Arith R] (value : R) : Arith.Same value value := by
  rw [Same, isNaN]
  cases value == value <;> simp

/-! ## Operations that keep to the sign of zero -/

namespace LawfulNegation

variable {R : Type} [Arith R] [LawfulNegation R]

theorem isAdditive : IsAdditive (Arith.Same (R := R)) where
  zero := Arith.same_refl 0
  add := add

theorem same_clamp {value value' : R} (same : Arith.Same value value') (lower upper : R) :
    Arith.Same (Arith.clamp value lower upper) (Arith.clamp value' lower upper) := by
  simp only [Arith.clamp, lt_iff same (Arith.same_refl lower), lt_iff (Arith.same_refl upper) same]
  split
  case isTrue => exact Arith.same_refl lower
  case isFalse =>
    split
    case isTrue => exact Arith.same_refl upper
    case isFalse => exact same

theorem same_foldl_larger {values values' : List R} (same : List.Forall₂ Arith.Same values values')
    {most most' : R} (sameMost : Arith.Same most most') :
    Arith.Same (values.foldl LawfulOrder.larger most) (values'.foldl LawfulOrder.larger most') := by
  induction same generalizing most most' with
  | nil => exact sameMost
  | cons same _ ih =>
      apply ih
      simp only [LawfulOrder.larger, le_iff (abs same) sameMost]
      split
      case isTrue => exact sameMost
      case isFalse => exact abs same

theorem same_largest {size : Nat} {values values' : Vector R size}
    (same : ∀ index, Arith.Same (values.get index) (values'.get index)) :
    Arith.Same (largest values) (largest values') := by
  have entries : List.Forall₂ Arith.Same values.toList values'.toList := by
    rw [List.forall₂_iff_get]
    refine ⟨by simp, fun k inside _ => ?_⟩
    rw [Vector.length_toList] at inside
    simpa using same ⟨k, inside⟩
  rw [largest, largest]
  generalize values.toList = values at entries
  generalize values'.toList = values' at entries
  cases entries with
  | nil => exact Arith.same_refl 0
  | cons same rest => exact same_foldl_larger rest (abs same)

end LawfulNegation

namespace Double

open Float.Model Float.Model.UnpackedFloat

/-! ## Numbers as they are stored -/

/-- What is read back after a number has been stored as a double. -/
def stored (number : UnpackedFloat) : UnpackedFloat := (Float.Model.pack number).unpack

theorem unpacked_add (left right : Double) :
    (left + right).unpacked = stored (.add .binary64 left.unpacked right.unpacked) := rfl

theorem unpacked_sub (left right : Double) :
    (left - right).unpacked = stored (.sub .binary64 left.unpacked right.unpacked) := rfl

theorem unpacked_mul (left right : Double) :
    (left * right).unpacked = stored (.mul .binary64 left.unpacked right.unpacked) := rfl

theorem unpacked_neg (number : Double) : (-number).unpacked = stored number.unpacked.neg := rfl

theorem unpacked_abs (number : Double) :
    (Arith.abs number).unpacked = stored number.unpacked.abs := rfl

/-- A number that was stored is read back once and for all. -/
theorem stored_unpack (model : Float.Model) : stored model.unpack = model.unpack :=
  congrArg (UnpackedFloat.unpack Format.binary64) (pack_unpack_of_valid model.valid)

theorem stored_unpacked (number : Double) : stored number.unpacked = number.unpacked :=
  stored_unpack number.value.toModel

theorem stored_stored (number : UnpackedFloat) : stored (stored number) = stored number :=
  stored_unpack _

theorem stored_zero (sign : Sign) : stored (.zero sign) = .zero sign := by
  cases sign <;> rfl

theorem unpack_packComponents_neg (sign : Sign) (exponent : BitVec 11) (mantissa : BitVec 52) :
    UnpackedFloat.unpack Format.binary64 (packComponents Format.binary64 (-sign) exponent mantissa)
      = (UnpackedFloat.unpack Format.binary64
          (packComponents Format.binary64 sign exponent mantissa)).neg := by
  simp only [UnpackedFloat.unpack, unpackExponent_packComponents, unpackMantissa_packComponents,
    unpackSign_packComponents, Sign.ofBitVec_toBitVec]
  split
  case isTrue => split <;> rfl
  case isFalse =>
    split
    case isTrue => split <;> rfl
    case isFalse => rfl

/-- The sign of a number does not matter for what its bits make of the rest. -/
theorem stored_neg (number : UnpackedFloat) : stored number.neg = (stored number).neg := by
  cases number with
  | notANumber => rfl
  | infinity sign | zero sign => cases sign <;> rfl
  | finite sign mantissa exponent positive =>
      change UnpackedFloat.unpack Format.binary64 (UnpackedFloat.pack Format.binary64 _) =
        (UnpackedFloat.unpack Format.binary64 (UnpackedFloat.pack Format.binary64 _)).neg
      simp only [UnpackedFloat.neg, UnpackedFloat.pack]
      split
      case isTrue => exact unpack_packComponents_neg sign _ _
      case isFalse =>
        split
        case isTrue => exact unpack_packComponents_neg sign _ _
        case isFalse => exact unpack_packComponents_neg sign _ _

/-! ## The sign of zero -/

/-- A number without the sign of zero. -/
def unsigned : UnpackedFloat → UnpackedFloat
  | .zero _ => .zero .positive
  | number => number

/-- What does not tell the zeros apart does not see the sign of zero. -/
theorem congr_of_unsigned_eq {T : Type} (function : UnpackedFloat → T)
    (zeros : ∀ sign sign', function (.zero sign) = function (.zero sign'))
    {left right : UnpackedFloat} (same : unsigned left = unsigned right) :
    function left = function right := by
  cases left <;> cases right <;> simp [unsigned] at same
  case notANumber.notANumber => rfl
  case zero.zero sign sign' => exact zeros sign sign'
  case infinity.infinity => rw [same]
  case finite.finite =>
    obtain ⟨rfl, rfl, rfl⟩ := same
    rfl

theorem beq_iff_rank {left right : UnpackedFloat} :
    left.beq right = true ↔
      left.isNaN = false ∧ right.isNaN = false ∧ rank left = rank right := by
  rw [UnpackedFloat.beq]
  rcases compare_cases left right with ⟨undefined, compared⟩ | ⟨leftNumber, rightNumber, compared⟩
  · rw [compared]
    rcases undefined with isNaN | isNaN <;> simp [isNaN]
  · rw [compared]
    simp [leftNumber, rightNumber, cmp_eq_eq_iff]

/-- Numbers at one place among the others are equal apart from the sign of zero. -/
theorem unsigned_eq_of_rank_eq {left right : UnpackedFloat} (leftNumber : left.isNaN = false)
    (rightNumber : right.isNaN = false) (same : rank left = rank right) :
    unsigned left = unsigned right := by
  cases left with
  | notANumber => cases leftNumber
  | zero sign =>
      cases right with
      | notANumber => cases rightNumber
      | zero sign' => rfl
      | infinity sign' | finite sign' => cases sign' <;> simp [rank] at same
  | infinity sign =>
      cases right with
      | notANumber => cases rightNumber
      | zero sign' => cases sign <;> simp [rank] at same
      | infinity sign' | finite sign' =>
          cases sign <;> cases sign' <;> simp [rank, unsigned] at same ⊢
  | finite sign mantissa exponent =>
      cases right with
      | notANumber => cases rightNumber
      | zero sign' => cases sign <;> simp [rank] at same
      | infinity sign' | finite sign' =>
          cases sign <;> cases sign' <;> simp [rank, unsigned] at same ⊢
          all_goals exact ⟨same.2, same.1⟩

theorem rank_eq_of_unsigned_eq {left right : UnpackedFloat}
    (same : unsigned left = unsigned right) : rank left = rank right :=
  congr_of_unsigned_eq rank (fun _ _ => rfl) same

theorem isNaN_eq_of_unsigned_eq {left right : UnpackedFloat}
    (same : unsigned left = unsigned right) : left.isNaN = right.isNaN :=
  congr_of_unsigned_eq UnpackedFloat.isNaN (fun _ _ => rfl) same

theorem same_iff {left right : Double} :
    Arith.Same left right ↔ unsigned left.unpacked = unsigned right.unpacked := by
  change (left.unpacked.beq right.unpacked = true ∨ _) ↔ _
  rw [beq_iff_rank, isNaN_iff, isNaN_iff]
  constructor
  · rintro (⟨leftNumber, rightNumber, same⟩ | ⟨leftNaN, rightNaN⟩)
    · exact unsigned_eq_of_rank_eq leftNumber rightNumber same
    · rw [UnpackedFloat.isNaN_iff] at leftNaN rightNaN
      rw [leftNaN, rightNaN]
  · intro same
    rw [isNaN_eq_of_unsigned_eq same, rank_eq_of_unsigned_eq same]
    cases right.unpacked.isNaN <;> simp

theorem unsigned_stored {left right : UnpackedFloat} (same : unsigned left = unsigned right) :
    unsigned (stored left) = unsigned (stored right) := by
  refine congr_of_unsigned_eq (fun number => unsigned (stored number)) ?_ same
  intro sign sign'
  rw [stored_zero, stored_zero]
  rfl

theorem unsigned_neg {left right : UnpackedFloat} (same : unsigned left = unsigned right) :
    unsigned left.neg = unsigned right.neg :=
  congr_of_unsigned_eq (fun number => unsigned number.neg) (fun _ _ => rfl) same

theorem unsigned_add {left left' right right' : UnpackedFloat}
    (sameLeft : unsigned left = unsigned left') (sameRight : unsigned right = unsigned right') :
    unsigned (.add .binary64 left right) = unsigned (.add .binary64 left' right') := by
  have first := congr_of_unsigned_eq (fun number => unsigned (.add .binary64 number right))
    (fun sign sign' => by
      cases right with
      | zero other => cases other <;> cases sign <;> cases sign' <;> rfl
      | notANumber | infinity | finite => rfl) sameLeft
  have second := congr_of_unsigned_eq (fun number => unsigned (.add .binary64 left' number))
    (fun sign sign' => by
      cases left' with
      | zero other => cases other <;> cases sign <;> cases sign' <;> rfl
      | notANumber | infinity | finite => rfl) sameRight
  exact first.trans second

theorem apply_neg (sign : Sign) (value : Int) : (-sign).apply value = -sign.apply value := by
  cases sign
  · exact (Int.neg_neg value).symm
  · rfl

theorem sub_eq_add_neg (left right : UnpackedFloat) :
    UnpackedFloat.sub .binary64 left right = .add .binary64 left right.neg := by
  cases left <;> cases right <;> try rfl
  case finite.finite =>
    simp only [UnpackedFloat.sub, UnpackedFloat.add, UnpackedFloat.neg, apply_neg,
      Int.sub_eq_add_neg]

theorem neg_finite (sign : Sign) (mantissa : Nat) (exponent : Int) (positive : 0 < mantissa) :
    (UnpackedFloat.finite sign mantissa exponent positive).neg =
      .finite (-sign) mantissa exponent positive := rfl

theorem neg_neg (number : UnpackedFloat) : number.neg.neg = number := by
  cases number with
  | notANumber => rfl
  | infinity sign | zero sign | finite sign => cases sign <;> rfl

theorem round_neg (sign : Sign) (mantissa : Nat) (exponent : Int) :
    UnpackedFloat.round Format.binary64 (-sign) mantissa exponent =
      (UnpackedFloat.round Format.binary64 sign mantissa exponent).neg := by
  simp only [UnpackedFloat.round, roundWithAccuracy]
  split <;> rfl

theorem normalize_neg (mantissa exponent : Int) :
    unsigned (UnpackedFloat.normalize Format.binary64 (-mantissa) exponent .positive) =
      unsigned (UnpackedFloat.normalize Format.binary64 mantissa exponent .positive).neg := by
  simp only [UnpackedFloat.normalize]
  rcases lt_trichotomy mantissa 0 with below | rfl | above
  · rw [compare_lt_iff_lt.2 below, compare_gt_iff_gt.2 (neg_pos.2 below)]
    rw [← round_neg]
    rfl
  · rfl
  · rw [compare_gt_iff_gt.2 above, compare_lt_iff_lt.2 (neg_lt_zero.2 above)]
    rw [Int.neg_neg]
    rw [← round_neg]
    rfl

theorem neg_add (left right : UnpackedFloat) :
    unsigned (UnpackedFloat.add .binary64 left right).neg =
      unsigned (.add .binary64 left.neg right.neg) := by
  cases left <;> cases right <;> try rfl
  case infinity.infinity sign sign' => cases sign <;> cases sign' <;> rfl
  case zero.zero sign sign' => cases sign <;> cases sign' <;> rfl
  case finite.finite =>
    simp only [UnpackedFloat.add, neg_finite, apply_neg]
    rw [← Int.neg_add, normalize_neg]

theorem unsigned_mul {left left' right right' : UnpackedFloat}
    (sameLeft : unsigned left = unsigned left') (sameRight : unsigned right = unsigned right') :
    unsigned (.mul .binary64 left right) = unsigned (.mul .binary64 left' right') := by
  have first := congr_of_unsigned_eq (fun number => unsigned (.mul .binary64 number right))
    (fun _ _ => by cases right <;> rfl) sameLeft
  have second := congr_of_unsigned_eq (fun number => unsigned (.mul .binary64 left' number))
    (fun _ _ => by cases left' <;> rfl) sameRight
  exact first.trans second

theorem unsigned_abs {number number' : UnpackedFloat}
    (same : unsigned number = unsigned number') : unsigned number.abs = unsigned number'.abs :=
  congr_of_unsigned_eq (fun number => unsigned number.abs) (fun _ _ => rfl) same

instance : LawfulNegation Double where
  neg_sub left right := by
    rw [same_iff, unpacked_neg, unpacked_sub, unpacked_add, unpacked_neg, stored_neg, stored_neg,
      stored_stored, stored_unpacked, ← stored_neg]
    apply unsigned_stored
    rw [sub_eq_add_neg, neg_add, neg_neg]
  add sameLeft sameRight := by
    rw [same_iff] at sameLeft sameRight ⊢
    exact unsigned_stored (unsigned_add sameLeft sameRight)
  sub sameLeft sameRight := by
    rw [same_iff] at sameLeft sameRight ⊢
    rw [unpacked_sub, unpacked_sub, sub_eq_add_neg, sub_eq_add_neg]
    exact unsigned_stored (unsigned_add sameLeft (unsigned_neg sameRight))
  mul sameLeft sameRight := by
    rw [same_iff] at sameLeft sameRight ⊢
    exact unsigned_stored (unsigned_mul sameLeft sameRight)
  abs same := by
    rw [same_iff] at same ⊢
    exact unsigned_stored (unsigned_abs same)
  lt_iff sameLeft sameRight := by
    rw [same_iff] at sameLeft sameRight
    simp only [lt_iff, isNaN_iff, isNaN_eq_of_unsigned_eq sameLeft,
      isNaN_eq_of_unsigned_eq sameRight, rank_eq_of_unsigned_eq sameLeft,
      rank_eq_of_unsigned_eq sameRight]
  le_iff sameLeft sameRight := by
    rw [same_iff] at sameLeft sameRight
    simp only [le_iff, isNaN_iff, isNaN_eq_of_unsigned_eq sameLeft,
      isNaN_eq_of_unsigned_eq sameRight, rank_eq_of_unsigned_eq sameLeft,
      rank_eq_of_unsigned_eq sameRight]

end Double

end NonlinearProgram
