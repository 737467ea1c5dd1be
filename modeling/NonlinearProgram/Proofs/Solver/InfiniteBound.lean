import NonlinearProgram.Bounds
import NonlinearProgram.Solver.InfiniteBound
import NonlinearProgram.Proofs.Arith.Order

/-!
# Bounds on both sides of a solver

A bound is cut off on its way to a solver, and the solver restores infinities by magnitude alone,
whether the bound is a lower or an upper one. Both steps keep the order of bounds, so a pair that is
not crossed stays so; and a solver restores the same of a bound, cut off or not,
`restoreBound_cutBound`.
-/

namespace NonlinearProgram

/-- Infinities are at the ends of the order, and numbers of less than the infinite magnitude are
finite. -/
class LawfulInfinity (R : Type) [Arith R] : Prop extends LawfulOrder R where
  le_infinity {value : R} : ¬Arith.isNaN value → value ≤ Arith.infinity
  neg_infinity_le {value : R} : ¬Arith.isNaN value → -Arith.infinity ≤ value
  neg_infiniteBound_lt : -(infiniteBound : R) < infiniteBound
  isFinite_of_lt {value : R} :
    -infiniteBound < value → value < infiniteBound → Arith.isFinite value

namespace Double

open Float.Model Float.Model.UnpackedFloat

theorem rank_infinity : rank (Arith.infinity : Double).unpacked = toLex (2, toLex (0, 0)) := by
  decide +kernel

theorem rank_neg_infinity :
    rank (-Arith.infinity : Double).unpacked = toLex (-2, toLex (0, 0)) := by
  decide +kernel

theorem toLex_le_toLex_of_lt {first first' : Int} {second second' : Int ×ₗ Int}
    (below : first < first') : toLex (first, second) ≤ toLex (first', second') :=
  Prod.Lex.toLex_le_toLex.2 (.inl below)

/-- Infinities are at the ends. -/
theorem rank_mem (number : UnpackedFloat) :
    toLex (-2, toLex (0, 0)) ≤ rank number ∧ rank number ≤ toLex (2, toLex (0, 0)) := by
  cases number with
  | notANumber => exact ⟨toLex_le_toLex_of_lt (by decide), toLex_le_toLex_of_lt (by decide)⟩
  | zero => exact ⟨toLex_le_toLex_of_lt (by decide), toLex_le_toLex_of_lt (by decide)⟩
  | infinity sign => cases sign <;> decide
  | finite sign =>
      cases sign with
      | negative => exact ⟨toLex_le_toLex_of_lt (by simp), toLex_le_toLex_of_lt (by simp)⟩
      | positive => exact ⟨toLex_le_toLex_of_lt (by simp), toLex_le_toLex_of_lt (by simp)⟩

/-- A number strictly between two others is finite. -/
theorem isFinite_of_between {least value most : Double} (above : least < value)
    (below : value < most) : Arith.isFinite value := by
  rw [lt_iff] at above below
  obtain ⟨_, isNumber, above⟩ := above
  obtain ⟨_, _, below⟩ := below
  rw [isNaN_iff] at isNumber
  change value.unpacked.isFinite = true
  cases kind : value.unpacked with
  | notANumber => exact (isNumber (by rw [kind]; rfl)).elim
  | zero => rfl
  | finite => rfl
  | infinity sign =>
      rw [kind] at above below
      cases sign with
      | negative => exact (above.not_ge (rank_mem _).1).elim
      | positive => exact (below.not_ge (rank_mem _).2).elim

instance : LawfulInfinity Double where
  le_infinity := by
    intro value isNumber
    refine le_iff.2 ⟨isNumber, by decide +kernel, ?_⟩
    rw [rank_infinity]
    exact (rank_mem _).2
  neg_infinity_le := by
    intro value isNumber
    refine le_iff.2 ⟨by decide +kernel, isNumber, ?_⟩
    rw [rank_neg_infinity]
    exact (rank_mem _).1
  neg_infiniteBound_lt := by decide +kernel
  isFinite_of_lt := isFinite_of_between

end Double

/-! ## Intervals -/

namespace LawfulOrder

variable {R : Type} [Arith R] [LawfulOrder R] {value lower upper : R}

theorem le_refl (number : ¬Arith.isNaN value) : value ≤ value :=
  (le_total number number).elim id id

/-- The nearest point of an interval lies in it. -/
theorem clamp_mem (number : ¬Arith.isNaN value) (ordered : lower ≤ upper) :
    lower ≤ Arith.clamp value lower upper ∧ Arith.clamp value lower upper ≤ upper := by
  obtain ⟨lowerNumber, upperNumber⟩ := not_isNaN_of_le ordered
  rw [Arith.clamp]
  split
  case isTrue => exact ⟨le_refl lowerNumber, ordered⟩
  case isFalse notBelow =>
    split
    case isTrue => exact ⟨ordered, le_refl upperNumber⟩
    case isFalse notAbove =>
      exact ⟨le_of_not_lt number lowerNumber notBelow, le_of_not_lt upperNumber number notAbove⟩

omit [LawfulOrder R] in
/-- The nearest point of an interval is an end of it or the number itself. -/
theorem clamp_cases (value lower upper : R) :
    value < lower ∧ Arith.clamp value lower upper = lower ∨
      upper < value ∧ Arith.clamp value lower upper = upper ∨
      Arith.clamp value lower upper = value := by
  rw [Arith.clamp]
  split
  case isTrue below => exact .inl ⟨below, rfl⟩
  case isFalse =>
    split
    case isTrue above => exact .inr (.inl ⟨above, rfl⟩)
    case isFalse => exact .inr (.inr rfl)

theorem clamp_of_mem (above : lower ≤ value) (below : value ≤ upper) :
    Arith.clamp value lower upper = value := by
  rw [Arith.clamp, if_neg (not_lt_of_le above), if_neg (not_lt_of_le below)]

/-- Moving two numbers into an interval keeps their order. -/
theorem clamp_le_clamp {left right : R} (ordered : lower ≤ upper) (below : left ≤ right) :
    Arith.clamp left lower upper ≤ Arith.clamp right lower upper := by
  obtain ⟨leftNumber, rightNumber⟩ := not_isNaN_of_le below
  have leftInside := clamp_mem leftNumber ordered
  have rightInside := clamp_mem rightNumber ordered
  rcases clamp_cases left lower upper with ⟨_, same⟩ | ⟨above, _⟩ | same
  · rw [same]
    exact rightInside.1
  · rcases clamp_cases right lower upper with ⟨belowToo, _⟩ | ⟨_, same⟩ | same
    · exact (not_lt_of_le (le_trans (le_trans ordered (le_of_lt above)) below) belowToo).elim
    · rw [same]
      exact leftInside.2
    · rw [same]
      exact le_trans leftInside.2 (le_trans (le_of_lt above) below)
  · rcases clamp_cases right lower upper with ⟨belowToo, same'⟩ | ⟨_, same'⟩ | same'
    · rw [same, same']
      exact le_trans below (le_of_lt belowToo)
    · rw [same']
      exact leftInside.2
    · rw [same, same']
      exact below

theorem crossed_eq_false_iff : crossed lower upper = false ↔ lower ≤ upper := by
  simp only [crossed, Bool.or_eq_false_iff, decide_eq_false_iff_not]
  constructor
  · rintro ⟨⟨notCrossed, lowerNumber⟩, upperNumber⟩
    exact le_of_not_lt (by simpa using upperNumber) (by simpa using lowerNumber) notCrossed
  · intro ordered
    obtain ⟨lowerNumber, upperNumber⟩ := not_isNaN_of_le ordered
    exact ⟨⟨not_lt_of_le ordered, by simpa using lowerNumber⟩, by simpa using upperNumber⟩

end LawfulOrder

/-! ## Bounds -/

namespace LawfulInfinity

open LawfulOrder

variable {R : Type} [Arith R] [LawfulInfinity R] {bound lower upper : R}

theorem not_isNaN_infinity : ¬Arith.isNaN (Arith.infinity : R) :=
  (not_isNaN_of_le (le_infinity (isNaN_zero (R := R)))).2

theorem neg_infiniteBound_le : -(infiniteBound : R) ≤ infiniteBound :=
  le_of_lt neg_infiniteBound_lt

/-- Bounds that are not crossed are not crossed after they have been cut off. -/
theorem cutBound_le_cutBound (ordered : lower ≤ upper) : cutBound lower ≤ cutBound upper :=
  clamp_le_clamp neg_infiniteBound_le ordered

omit [LawfulInfinity R] in
theorem restoreBound_of_le (high : infiniteBound ≤ bound) : restoreBound bound = Arith.infinity :=
  if_pos high

theorem restoreBound_of_le_neg (low : bound ≤ -infiniteBound) :
    restoreBound bound = -Arith.infinity := by
  rw [restoreBound, if_neg, if_pos low]
  intro high
  exact not_lt_of_le (le_trans high low) neg_infiniteBound_lt

theorem restoreBound_of_lt (above : -infiniteBound < bound) (below : bound < infiniteBound) :
    restoreBound bound = bound := by
  rw [restoreBound, if_neg, if_neg]
  · exact fun low => not_lt_of_le low above
  · exact fun high => not_lt_of_le high below

/-- A restored bound is infinite from the infinite magnitude on, and the bound itself below it. -/
theorem restoreBound_cases (number : ¬Arith.isNaN bound) :
    infiniteBound ≤ bound ∧ restoreBound bound = Arith.infinity ∨
      bound ≤ -infiniteBound ∧ restoreBound bound = -Arith.infinity ∨
      -infiniteBound < bound ∧ bound < infiniteBound ∧ restoreBound bound = bound := by
  obtain ⟨leastNumber, mostNumber⟩ := not_isNaN_of_le (neg_infiniteBound_le (R := R))
  by_cases high : infiniteBound ≤ bound
  · exact .inl ⟨high, restoreBound_of_le high⟩
  · by_cases low : bound ≤ -infiniteBound
    · exact .inr (.inl ⟨low, restoreBound_of_le_neg low⟩)
    · have above := lt_of_not_le number leastNumber low
      have below := lt_of_not_le mostNumber number high
      exact .inr (.inr ⟨above, below, restoreBound_of_lt above below⟩)

theorem not_isNaN_restoreBound (number : ¬Arith.isNaN bound) :
    ¬Arith.isNaN (restoreBound bound) := by
  rcases restoreBound_cases number with ⟨_, same⟩ | ⟨_, same⟩ | ⟨_, _, same⟩
  · rw [same]
    exact not_isNaN_infinity
  · rw [same]
    exact (not_isNaN_of_le (neg_infinity_le (isNaN_zero (R := R)))).1
  · rw [same]
    exact number

/-- Bounds that are not crossed are not crossed after infinities have been restored. -/
theorem restoreBound_le_restoreBound (ordered : lower ≤ upper) :
    restoreBound lower ≤ restoreBound upper := by
  obtain ⟨lowerNumber, upperNumber⟩ := not_isNaN_of_le ordered
  rcases restoreBound_cases lowerNumber with ⟨high, same⟩ | ⟨_, same⟩ | ⟨above, _, same⟩
  · rw [same, restoreBound, if_pos (le_trans high ordered)]
    exact le_refl not_isNaN_infinity
  · rw [same]
    exact neg_infinity_le (not_isNaN_restoreBound upperNumber)
  · rw [same]
    rcases restoreBound_cases upperNumber with ⟨_, same⟩ | ⟨low, _⟩ | ⟨_, _, same⟩
    · rw [same]
      exact le_infinity lowerNumber
    · exact (not_lt_of_le (le_trans ordered low) above).elim
    · rw [same]
      exact ordered

/-- A solver restores the same of a bound whether it was cut off or not. -/
theorem restoreBound_cutBound (bound : R) : restoreBound (cutBound bound) = restoreBound bound := by
  obtain ⟨leastNumber, mostNumber⟩ := not_isNaN_of_le (neg_infiniteBound_le (R := R))
  rcases clamp_cases bound (-infiniteBound) infiniteBound with ⟨low, same⟩ | ⟨high, same⟩ | same
  · rw [cutBound, same, restoreBound_of_le_neg (le_refl leastNumber),
      restoreBound_of_le_neg (le_of_lt low)]
  · rw [cutBound, same, restoreBound_of_le (le_refl mostNumber), restoreBound_of_le (le_of_lt high)]
  · rw [cutBound, same]

end LawfulInfinity

end NonlinearProgram
