import NonlinearProgram.Proofs.Arith.Sign
import NonlinearProgram.Proofs.Solver.InfiniteBound

/-!
# Cut and restored bounds

A solver and its caller look at the same bound in two ways, the one cut off at the infinite
magnitude, the other with its infinities restored. Each way is read off the other, so it does not
matter how often a bound crosses the boundary, and both keep the order of bounds. What is not a
number is passed on.
-/

namespace NonlinearProgram

/-! ## Each map by itself -/

namespace LawfulInfinity

open LawfulOrder

variable {R : Type} [Arith R] [LawfulInfinity R] {bound : R}

theorem cutBound_of_mem (above : -infiniteBound ≤ bound) (below : bound ≤ infiniteBound) :
    cutBound bound = bound :=
  clamp_of_mem above below

theorem cutBound_of_lt (high : infiniteBound < bound) : cutBound bound = infiniteBound := by
  rw [cutBound, Arith.clamp, if_neg, if_pos high]
  exact fun low => not_lt_of_le (le_trans neg_infiniteBound_le (le_of_lt high)) low

omit [LawfulInfinity R] in
theorem cutBound_of_lt_neg (low : bound < -infiniteBound) : cutBound bound = -infiniteBound :=
  if_pos low

/-- What is not a number stays as it is. -/
theorem maps_of_isNaN (undefined : Arith.isNaN bound) :
    cutBound bound = bound ∧ restoreBound bound = bound := by
  constructor
  · rw [cutBound, Arith.clamp, if_neg, if_neg]
    · exact fun high => (lt_iff.1 high).2.1 undefined
    · exact fun low => (lt_iff.1 low).1 undefined
  · rw [restoreBound, if_neg, if_neg]
    · exact fun low => (not_isNaN_of_le low).1 undefined
    · exact fun high => (not_isNaN_of_le high).2 undefined

/-- Bounds of less than the infinite magnitude stay as they are. -/
theorem maps_of_lt (above : -infiniteBound < bound) (below : bound < infiniteBound) :
    cutBound bound = bound ∧ restoreBound bound = bound :=
  ⟨cutBound_of_mem (le_of_lt above) (le_of_lt below), restoreBound_of_lt above below⟩

theorem cutBound_cutBound (bound : R) : cutBound (cutBound bound) = cutBound bound := by
  by_cases undefined : Arith.isNaN bound
  · rw [(maps_of_isNaN undefined).1, (maps_of_isNaN undefined).1]
  · obtain ⟨above, below⟩ := clamp_mem undefined (neg_infiniteBound_le (R := R))
    exact cutBound_of_mem above below

theorem restoreBound_restoreBound (bound : R) :
    restoreBound (restoreBound bound) = restoreBound bound := by
  by_cases undefined : Arith.isNaN bound
  · rw [(maps_of_isNaN undefined).2, (maps_of_isNaN undefined).2]
  · obtain ⟨leastNumber, mostNumber⟩ := not_isNaN_of_le (neg_infiniteBound_le (R := R))
    rcases restoreBound_cases undefined with ⟨_, same⟩ | ⟨_, same⟩ | ⟨_, _, same⟩
    · rw [same]
      exact restoreBound_of_le (le_infinity mostNumber)
    · rw [same]
      exact restoreBound_of_le_neg (neg_infinity_le leastNumber)
    · rw [same, same]

end LawfulInfinity

/-! ## Doubles at the infinite magnitude -/

namespace Double

open Float.Model Float.Model.UnpackedFloat LawfulOrder LawfulInfinity

theorem isCanonical_ofBits (bits : UInt64) : (ofBits bits).IsCanonical :=
  fun signed => (Bool.and_eq_true_iff.1 signed).1

theorem minusNaN_of_le {left right : Double} (canonical : left.IsCanonical)
    (canonical' : right.IsCanonical) (below : left ≤ right) :
    left.minusNaN = false ∧ right.minusNaN = false := by
  obtain ⟨number, number', _⟩ := le_iff.1 below
  exact ⟨Bool.eq_false_iff.2 fun signed => number (isNaN_iff.2 (canonical signed)),
    Bool.eq_false_iff.2 fun signed => number' (isNaN_iff.2 (canonical' signed))⟩

/-- A number other than zero is known by its place among the others. -/
theorem eq_of_le_of_le {left right : Double} (canonical : left.IsCanonical)
    (canonical' : right.IsCanonical) (nonzero : (right == 0) = false)
    (below : left ≤ right) (above : right ≤ left) : left = right := by
  obtain ⟨leftNumber, rightNumber, least⟩ := le_iff.1 below
  rw [isNaN_iff, Bool.not_eq_true] at leftNumber rightNumber
  have place : unsigned left.unpacked = unsigned right.unpacked :=
    unsigned_eq_of_rank_eq leftNumber rightNumber (least.antisymm (le_iff.1 above).2.2)
  have same : left.unpacked = right.unpacked := by
    cases kind : right.unpacked with
    | zero sign =>
        change right.unpacked.beq (.zero .positive) = false at nonzero
        rw [kind] at nonzero
        cases nonzero
    | notANumber | infinity | finite =>
        rw [kind] at place
        cases kind' : left.unpacked <;> rw [kind'] at place <;> cases place <;> rfl
  have value : left.value = right.value := by
    have model : left.value.toModel = right.value.toModel := by
      rw [← pack_unpack_model left.value.toModel, ← pack_unpack_model right.value.toModel]
      exact congrArg Float.Model.pack same
    exact congrArg Float.ofModel model
  obtain ⟨unsigned, unsigned'⟩ := minusNaN_of_le canonical canonical' below
  cases left
  cases right
  exact congrArg₂ Double.mk value (unsigned.trans unsigned'.symm)

/-- A double of the infinite magnitude or more is cut off to that magnitude, the limit itself
included. -/
theorem cutBound_of_le {bound : Double} (canonical : bound.IsCanonical)
    (high : infiniteBound ≤ bound) : cutBound bound = infiniteBound := by
  by_cases beyond : infiniteBound < bound
  · exact cutBound_of_lt beyond
  · obtain ⟨limitNumber, number⟩ := not_isNaN_of_le high
    have equal : bound = infiniteBound :=
      eq_of_le_of_le canonical nofun (by decide +kernel) (le_of_not_lt limitNumber number beyond)
        high
    rw [equal]
    exact cutBound_of_mem neg_infiniteBound_le (le_refl limitNumber)

theorem cutBound_of_le_neg {bound : Double} (canonical : bound.IsCanonical)
    (low : bound ≤ -infiniteBound) : cutBound bound = -infiniteBound := by
  by_cases beyond : bound < -infiniteBound
  · exact cutBound_of_lt_neg beyond
  · obtain ⟨number, limitNumber⟩ := not_isNaN_of_le low
    have equal : bound = -infiniteBound :=
      eq_of_le_of_le canonical (isCanonical_negate _) (by decide +kernel) low
        (le_of_not_lt number limitNumber beyond)
    rw [equal]
    exact cutBound_of_mem (le_refl limitNumber) neg_infiniteBound_le

/-- A restored bound is cut off to what the bound itself is cut off to. -/
theorem cutBound_restoreBound {bound : Double} (canonical : bound.IsCanonical) :
    cutBound (restoreBound bound) = cutBound bound := by
  by_cases undefined : Arith.isNaN bound
  · rw [(maps_of_isNaN undefined).2]
  · rcases restoreBound_cases undefined with ⟨high, same⟩ | ⟨low, same⟩ | ⟨_, _, same⟩
    · rw [same, cutBound_of_le canonical high]
      exact cutBound_of_lt (by decide +kernel)
    · rw [same, cutBound_of_le_neg canonical low]
      exact cutBound_of_lt_neg (by decide +kernel)
    · rw [same]

end Double

/-! ## Both maps together -/

open LawfulOrder LawfulInfinity Double

/-- Whatever the bits of a bound, cutting it off and restoring it are each idempotent, and each is
decided by the result of the other. Bounds of less than the infinite magnitude, and what is not a
number, stay as they are. Both maps keep the order of bounds, hence no pair becomes crossed, however
often it crosses the boundary. -/
theorem boundMaps_agree (bits : UInt64) :
    let bound : Double := Double.ofBits bits
    (restoreBound (cutBound bound) = restoreBound bound ∧
        cutBound (restoreBound bound) = cutBound bound) ∧
      (cutBound (cutBound bound) = cutBound bound ∧
        restoreBound (restoreBound bound) = restoreBound bound) ∧
      (-1.0e20 < bound ∧ bound < 1.0e20 ∨ Arith.isNaN bound →
        cutBound bound = bound ∧ restoreBound bound = bound) ∧
      (∀ upper, bound ≤ upper →
        cutBound bound ≤ cutBound upper ∧ restoreBound bound ≤ restoreBound upper) ∧
      ∀ upper, crossed bound upper = false →
        crossed (cutBound bound) (cutBound upper) = false ∧
          crossed (restoreBound bound) (restoreBound upper) = false ∧
          crossed (restoreBound (cutBound bound)) (restoreBound (cutBound upper)) = false := by
  intro bound
  refine ⟨⟨restoreBound_cutBound bound, cutBound_restoreBound (isCanonical_ofBits bits)⟩,
    ⟨cutBound_cutBound bound, restoreBound_restoreBound bound⟩, ?_, ?_, ?_⟩
  · rintro (⟨above, below⟩ | undefined)
    · exact maps_of_lt above below
    · exact maps_of_isNaN undefined
  · intro upper ordered
    exact ⟨cutBound_le_cutBound ordered, restoreBound_le_restoreBound ordered⟩
  · intro upper uncrossed
    have ordered := crossed_eq_false_iff.1 uncrossed
    have restored := crossed_eq_false_iff.2 (restoreBound_le_restoreBound ordered)
    refine ⟨crossed_eq_false_iff.2 (cutBound_le_cutBound ordered), restored, ?_⟩
    rw [restoreBound_cutBound, restoreBound_cutBound]
    exact restored

/-- The infinite magnitude itself is restored to an infinity, and cut off again to itself. -/
theorem boundMaps_agree_limit :
    let limit : Double := Double.ofBits 0x4415af1d78b58c40
    limit = infiniteBound ∧ restoreBound limit = Arith.infinity ∧
      cutBound (restoreBound limit) = cutBound limit ∧ crossed limit Arith.infinity = false ∧
      crossed (cutBound limit) (cutBound Arith.infinity) = false := by
  intro limit
  have uncrossed : crossed limit Arith.infinity = false := by decide +kernel
  obtain ⟨⟨_, cut⟩, _, _, _, kept⟩ := boundMaps_agree 0x4415af1d78b58c40
  refine ⟨by rfl, ?_, cut, uncrossed, (kept Arith.infinity uncrossed).1⟩
  exact LawfulInfinity.restoreBound_of_le (by decide +kernel)

end NonlinearProgram
