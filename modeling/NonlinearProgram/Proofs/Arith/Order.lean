import NonlinearProgram.Arith.Double
import NonlinearProgram.Arith.Sums
import NonlinearProgram.Proofs.Vectors

/-!
# Comparing values

Comparisons order the values that are numbers, and one with a value that is not a number is false.
For doubles the order is that of sign, exponent and mantissa, one after the other.
-/

namespace NonlinearProgram

/-- Values that are numbers are in a linear order. -/
class LawfulOrder (R : Type) [Arith R] : Prop where
  isNaN_zero : ¬Arith.isNaN (0 : R)
  not_isNaN_of_isFinite {value : R} : Arith.isFinite value → ¬Arith.isNaN value
  not_isNaN_of_le {left right : R} : left ≤ right → ¬Arith.isNaN left ∧ ¬Arith.isNaN right
  le_total {left right : R} : ¬Arith.isNaN left → ¬Arith.isNaN right → left ≤ right ∨ right ≤ left
  le_trans {left middle right : R} : left ≤ middle → middle ≤ right → left ≤ right
  lt_iff {left right : R} :
    left < right ↔ ¬Arith.isNaN left ∧ ¬Arith.isNaN right ∧ ¬right ≤ left

namespace Double

open Float.Model Float.Model.UnpackedFloat

/-- Place of an unpacked number among the others: infinities at the ends, and between them the
finite numbers by sign, exponent and mantissa. -/
def rank : UnpackedFloat → Int ×ₗ Int ×ₗ Int
  | .infinity .negative => toLex (-2, toLex (0, 0))
  | .finite .negative mantissa exponent _ => toLex (-1, toLex (-exponent, -mantissa))
  | .zero _ | .notANumber => toLex (0, toLex (0, 0))
  | .finite .positive mantissa exponent _ => toLex (1, toLex (exponent, mantissa))
  | .infinity .positive => toLex (2, toLex (0, 0))

theorem cmp_toLex {α β : Type} [LinearOrder α] [LinearOrder β] (first first' : α)
    (second second' : β) :
    cmp (toLex (first, second)) (toLex (first', second')) =
      (cmp first first').then (cmp second second') := by
  rcases lt_trichotomy first first' with below | rfl | above
  · rw [(cmp_eq_lt_iff _ _).2 below]
    exact (cmp_eq_lt_iff _ _).2 (Prod.Lex.toLex_lt_toLex.2 (.inl below))
  · rw [cmp_self_eq_eq]
    rcases lt_trichotomy second second' with below | rfl | above
    · rw [(cmp_eq_lt_iff _ _).2 below]
      exact (cmp_eq_lt_iff _ _).2 (Prod.Lex.toLex_lt_toLex.2 (.inr ⟨rfl, below⟩))
    · rw [cmp_self_eq_eq, cmp_self_eq_eq]
      rfl
    · rw [(cmp_eq_gt_iff _ _).2 above]
      exact (cmp_eq_gt_iff _ _).2 (Prod.Lex.toLex_lt_toLex.2 (.inr ⟨rfl, above⟩))
  · rw [(cmp_eq_gt_iff _ _).2 above]
    exact (cmp_eq_gt_iff _ _).2 (Prod.Lex.toLex_lt_toLex.2 (.inl above))

theorem cmp_neg (left right : Int) : cmp (-left) (-right) = cmp right left :=
  StrictAnti.cmp_map_eq (fun _ _ below => neg_lt_neg below) left right

theorem compare_eq_cmp_rank {left right : UnpackedFloat} (leftNumber : left.isNaN = false)
    (rightNumber : right.isNaN = false) :
    left.compare right = some (cmp (rank left) (rank right)) := by
  cases left with
  | notANumber => cases leftNumber
  | infinity sign =>
      cases right with
      | notANumber => cases rightNumber
      | infinity sign' => cases sign <;> cases sign' <;> rfl
      | zero sign' => cases sign <;> rfl
      | finite sign' mantissa' exponent' => cases sign <;> cases sign' <;> rfl
  | zero sign =>
      cases right with
      | notANumber => cases rightNumber
      | infinity sign' => cases sign' <;> rfl
      | zero sign' => rfl
      | finite sign' mantissa' exponent' => cases sign' <;> rfl
  | finite sign mantissa exponent =>
      cases right with
      | notANumber => cases rightNumber
      | infinity sign' => cases sign <;> cases sign' <;> rfl
      | zero sign' => cases sign <;> rfl
      | finite sign' mantissa' exponent' =>
          cases sign with
          | negative =>
              cases sign' with
              | negative =>
                  rw [rank, rank, cmp_toLex, cmp_self_eq_eq, cmp_toLex, cmp_neg, cmp_neg,
                    Nat.strictMono_cast.cmp_map_eq, ← cmp_swap exponent, ← cmp_swap mantissa,
                    cmp_eq_compare, cmp_eq_compare]
                  exact congrArg some (Ordering.swap_then _ _)
              | positive => rfl
          | positive =>
              cases sign' with
              | negative => rfl
              | positive =>
                  rw [rank, rank, cmp_toLex, cmp_self_eq_eq, cmp_toLex,
                    Nat.strictMono_cast.cmp_map_eq, cmp_eq_compare, cmp_eq_compare]
                  rfl

theorem compare_of_isNaN {left right : UnpackedFloat}
    (undefined : left.isNaN = true ∨ right.isNaN = true) : left.compare right = none := by
  cases left with
  | notANumber => rfl
  | infinity sign | zero sign | finite sign mantissa exponent =>
      cases right with
      | notANumber => cases sign <;> rfl
      | infinity sign' | zero sign' | finite sign' mantissa' exponent' =>
          simp [UnpackedFloat.isNaN] at undefined

/-- What a comparison says of numbers by their places; of anything else it says nothing. -/
theorem compare_cases (left right : UnpackedFloat) :
    (left.isNaN = true ∨ right.isNaN = true) ∧ left.compare right = none ∨
      left.isNaN = false ∧ right.isNaN = false ∧
        left.compare right = some (cmp (rank left) (rank right)) := by
  by_cases undefined : left.isNaN = true ∨ right.isNaN = true
  · exact .inl ⟨undefined, compare_of_isNaN undefined⟩
  · rw [not_or, Bool.not_eq_true, Bool.not_eq_true] at undefined
    exact .inr ⟨undefined.1, undefined.2, compare_eq_cmp_rank undefined.1 undefined.2⟩

theorem le_iff_rank {left right : UnpackedFloat} :
    left.le right = true ↔ left.isNaN = false ∧ right.isNaN = false ∧ rank left ≤ rank right := by
  rw [UnpackedFloat.le]
  rcases compare_cases left right with ⟨undefined, compared⟩ | ⟨leftNumber, rightNumber, compared⟩
  · rw [compared]
    rcases undefined with isNaN | isNaN <;> simp [isNaN]
  · rw [compared]
    rcases lt_trichotomy (rank left) (rank right) with below | same | above
    · simp [(cmp_eq_lt_iff _ _).2 below, below.le, leftNumber, rightNumber]
    · simp [same, leftNumber, rightNumber]
    · simp [(cmp_eq_gt_iff _ _).2 above, above]

theorem lt_iff_rank {left right : UnpackedFloat} :
    left.lt right = true ↔ left.isNaN = false ∧ right.isNaN = false ∧ rank left < rank right := by
  rw [UnpackedFloat.lt]
  rcases compare_cases left right with ⟨undefined, compared⟩ | ⟨leftNumber, rightNumber, compared⟩
  · rw [compared]
    rcases undefined with isNaN | isNaN <;> simp [isNaN]
  · rw [compared]
    simp [leftNumber, rightNumber, cmp_eq_lt_iff]

theorem beq_self_eq_not_isNaN (number : UnpackedFloat) : number.beq number = !number.isNaN := by
  rw [UnpackedFloat.beq]
  rcases compare_cases number number with ⟨undefined, compared⟩ | ⟨isNumber, _, compared⟩
  · rw [compared, or_self_iff.1 undefined]
    rfl
  · rw [compared, isNumber, cmp_self_eq_eq]
    rfl

/-- The number a double stands for, without its format. -/
def unpacked (number : Double) : UnpackedFloat := number.value.toModel.unpack

theorem isNaN_iff {number : Double} : Arith.isNaN number ↔ number.unpacked.isNaN = true := by
  change (!number.unpacked.beq number.unpacked) = true ↔ _
  rw [beq_self_eq_not_isNaN, Bool.not_not]

theorem le_iff {left right : Double} : left ≤ right ↔
    ¬Arith.isNaN left ∧ ¬Arith.isNaN right ∧ rank left.unpacked ≤ rank right.unpacked := by
  have decided : left ≤ right ↔ left.unpacked.le right.unpacked = true := decide_eq_true_iff
  simp only [decided, le_iff_rank, isNaN_iff, Bool.not_eq_true]

theorem lt_iff {left right : Double} : left < right ↔
    ¬Arith.isNaN left ∧ ¬Arith.isNaN right ∧ rank left.unpacked < rank right.unpacked := by
  have decided : left < right ↔ left.unpacked.lt right.unpacked = true := decide_eq_true_iff
  simp only [decided, lt_iff_rank, isNaN_iff, Bool.not_eq_true]

instance : PartialEquivBEq Double where
  symm same := BEq.symm (α := Float) same
  trans same same' := PartialEquivBEq.trans (α := Float) same same'

instance : LawfulOrder Double where
  isNaN_zero := by decide +kernel
  not_isNaN_of_isFinite := by
    intro number finite
    change number.unpacked.isFinite = true at finite
    rw [isNaN_iff]
    cases kind : number.unpacked <;>
      simp [kind, UnpackedFloat.isFinite, UnpackedFloat.isNaN] at finite ⊢
  not_isNaN_of_le := by
    intro left right below
    exact ⟨(le_iff.1 below).1, (le_iff.1 below).2.1⟩
  le_total := by
    intro left right leftNumber rightNumber
    rcases le_total (rank left.unpacked) (rank right.unpacked) with below | above
    · exact .inl (le_iff.2 ⟨leftNumber, rightNumber, below⟩)
    · exact .inr (le_iff.2 ⟨rightNumber, leftNumber, above⟩)
  le_trans := by
    intro left middle right below above
    rw [le_iff] at below above ⊢
    exact ⟨below.1, above.2.1, below.2.2.trans above.2.2⟩
  lt_iff := by
    intro left right
    rw [lt_iff]
    constructor
    · rintro ⟨leftNumber, rightNumber, below⟩
      exact ⟨leftNumber, rightNumber, fun above => (le_iff.1 above).2.2.not_gt below⟩
    · rintro ⟨leftNumber, rightNumber, notAbove⟩
      refine ⟨leftNumber, rightNumber, ?_⟩
      by_contra notBelow
      exact notAbove (le_iff.2 ⟨rightNumber, leftNumber, not_lt.1 notBelow⟩)

end Double

/-! ## Maxima -/

namespace LawfulOrder

variable {R : Type} [Arith R]

theorem maximum_eq_or (left right : R) :
    Arith.maximum left right = left ∨ Arith.maximum left right = right := by
  rw [Arith.maximum]
  split
  case isTrue => exact .inr rfl
  case isFalse =>
    split
    case isTrue => exact .inr rfl
    case isFalse => exact .inl rfl

theorem lt_or_lt_of_lt_maximum {least left right : R} (above : least < Arith.maximum left right) :
    least < left ∨ least < right := by
  rcases maximum_eq_or left right with same | same
  · exact .inl (same ▸ above)
  · exact .inr (same ▸ above)

variable [LawfulOrder R]

theorem not_lt_of_le {left right : R} (below : left ≤ right) : ¬right < left :=
  fun above => (lt_iff.1 above).2.2 below

theorem lt_of_not_le {left right : R} (leftNumber : ¬Arith.isNaN left)
    (rightNumber : ¬Arith.isNaN right) (notBelow : ¬left ≤ right) : right < left :=
  lt_iff.2 ⟨rightNumber, leftNumber, notBelow⟩

theorem pos_of_isFinite {value : R} (finite : Arith.isFinite value) (notBelow : ¬value ≤ 0) :
    0 < value :=
  lt_of_not_le (not_isNaN_of_isFinite finite) isNaN_zero notBelow

theorem le_of_not_lt {left right : R} (leftNumber : ¬Arith.isNaN left)
    (rightNumber : ¬Arith.isNaN right) (notBelow : ¬left < right) : right ≤ left := by
  by_contra notAbove
  exact notBelow (lt_iff.2 ⟨leftNumber, rightNumber, notAbove⟩)

theorem le_of_lt {left right : R} (below : left < right) : left ≤ right := by
  obtain ⟨leftNumber, rightNumber, notAbove⟩ := lt_iff.1 below
  exact (le_total leftNumber rightNumber).resolve_right notAbove

theorem lt_trans {left middle right : R} (below : left < middle) (above : middle < right) :
    left < right := by
  obtain ⟨leftNumber, _, _⟩ := lt_iff.1 below
  obtain ⟨_, rightNumber, notAbove⟩ := lt_iff.1 above
  exact lt_iff.2 ⟨leftNumber, rightNumber, fun back => notAbove (le_trans back (le_of_lt below))⟩

/-- A maximum is a number if one of its operands is. -/
theorem not_isNaN_maximum {left right : R} (number : ¬Arith.isNaN left ∨ ¬Arith.isNaN right) :
    ¬Arith.isNaN (Arith.maximum left right) := by
  rw [Arith.maximum]
  by_cases leftNaN : Arith.isNaN left = true
  · rw [if_pos leftNaN]
    exact number.resolve_left (not_not_intro leftNaN)
  · rw [if_neg leftNaN]
    split
    case isTrue below => exact (lt_iff.1 below).2.1
    case isFalse => exact leftNaN

/-- A bound of a maximum bounds those of its operands that are numbers. -/
theorem le_of_maximum_le {left right most : R} (bounded : Arith.maximum left right ≤ most) :
    (¬Arith.isNaN left → left ≤ most) ∧ (¬Arith.isNaN right → right ≤ most) := by
  rw [Arith.maximum] at bounded
  by_cases leftNaN : Arith.isNaN left = true
  · rw [if_pos leftNaN] at bounded
    exact ⟨fun number => (number leftNaN).elim, fun _ => bounded⟩
  · rw [if_neg leftNaN] at bounded
    split at bounded
    case isTrue below => exact ⟨fun _ => le_trans (le_of_lt below) bounded, fun _ => bounded⟩
    case isFalse notBelow =>
      refine ⟨fun _ => bounded, fun number => ?_⟩
      exact le_trans (le_of_not_lt leftNaN number notBelow) bounded

/-- The larger of two magnitudes, as a pass over the entries of a vector keeps it. -/
def larger (most value : R) : R := if Arith.abs value ≤ most then most else Arith.abs value

theorem le_of_larger_le {most value bound : R} (number : ¬Arith.isNaN most)
    (numberToo : ¬Arith.isNaN (Arith.abs value)) (bounded : larger most value ≤ bound) :
    most ≤ bound ∧ Arith.abs value ≤ bound := by
  rw [larger] at bounded
  split at bounded
  case isTrue below => exact ⟨bounded, le_trans below bounded⟩
  case isFalse notBelow =>
    exact ⟨le_trans ((le_total numberToo number).resolve_left notBelow) bounded, bounded⟩

omit [LawfulOrder R] in
theorem not_isNaN_larger {most value : R} (number : ¬Arith.isNaN most)
    (numberToo : ¬Arith.isNaN (Arith.abs value)) : ¬Arith.isNaN (larger most value) := by
  rw [larger]
  split
  case isTrue => exact number
  case isFalse => exact numberToo

theorem le_of_foldl_larger_le {values : List R} {most bound : R} (number : ¬Arith.isNaN most)
    (numbers : ∀ value ∈ values, ¬Arith.isNaN (Arith.abs value))
    (bounded : values.foldl larger most ≤ bound) :
    most ≤ bound ∧ ∀ value ∈ values, Arith.abs value ≤ bound := by
  induction values generalizing most with
  | nil => exact ⟨bounded, fun _ member => nomatch member⟩
  | cons value rest ih =>
      have here := numbers value List.mem_cons_self
      obtain ⟨kept, later⟩ := ih (not_isNaN_larger number here)
        (fun other member => numbers other (List.mem_cons_of_mem _ member)) bounded
      obtain ⟨known, new⟩ := le_of_larger_le number here kept
      refine ⟨known, fun other member => ?_⟩
      cases member with
      | head => exact new
      | tail _ member => exact later other member

/-- A bound of the largest magnitude bounds the magnitude of every entry, if these are numbers. -/
theorem abs_le_of_largest_le {size : Nat} {values : Vector R size} {bound : R}
    (numbers : ∀ index, ¬Arith.isNaN (Arith.abs (values.get index)))
    (bounded : largest values ≤ bound) (index : Fin size) :
    Arith.abs (values.get index) ≤ bound := by
  have everywhere : ∀ value ∈ values.toList, ¬Arith.isNaN (Arith.abs value) :=
    forall_mem_toList.2 numbers
  have member : values.get index ∈ values.toList :=
    Vector.mem_toList_iff.2 (Vector.getElem_mem index.isLt)
  rw [largest] at bounded
  rcases entries : values.toList with _ | ⟨first, rest⟩
  · rw [entries] at member
    cases member
  · rw [entries] at everywhere member bounded
    obtain ⟨here, later⟩ := le_of_foldl_larger_le (everywhere first List.mem_cons_self)
      (fun value member => everywhere value (List.mem_cons_of_mem _ member)) bounded
    rcases List.mem_cons.1 member with same | member
    · rw [same]
      exact here
    · exact later _ member

end LawfulOrder

end NonlinearProgram
