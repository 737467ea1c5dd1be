import NonlinearProgram.Arith.Sums
import NonlinearProgram.Proofs.Vectors

/-!
# Sums and largest magnitudes

What holds of zero and of every product, and is kept by addition, holds of an inner product,
whatever the order of its additions. It is said of two inner products at once; a property of one is
the case in which the relation looks at one side only. The largest magnitude is that of an entry.
-/

namespace NonlinearProgram

variable {R : Type} [Arith R]

/-- A relation that zero is in and that addition keeps. -/
structure IsAdditive (Related : R → R → Prop) : Prop where
  zero : Related 0 0
  add {left left' right right' : R} : Related left left' → Related right right' →
    Related (left + right) (left' + right')

namespace IsAdditive

variable {Related : R → R → Prop} (additive : IsAdditive Related)

/-- The products of two pairs are related. -/
def Products (Related : R → R → Prop) (pair pair' : R × R) : Prop :=
  Related (pair.1 * pair.2) (pair'.1 * pair'.2)

include additive

theorem join {lanes lanes' : Lanes R} (sums : ∀ lane, Related (lanes.get lane) (lanes'.get lane)) :
    Related lanes.join lanes'.join := by
  have pair (first second : Fin 8) : Related (lanes.get first + lanes.get second)
      (lanes'.get first + lanes'.get second) := additive.add (sums first) (sums second)
  exact additive.add (additive.add (additive.add (additive.add additive.zero (pair 0 4))
    (pair 1 5)) (pair 2 6)) (pair 3 7)

theorem lanes_add {lanes lanes' : Lanes R} {block block' : Vector (R × R) 8}
    (sums : ∀ lane, Related (lanes.get lane) (lanes'.get lane))
    (products : ∀ lane, Products Related (block.get lane) (block'.get lane)) (lane : Fin 8) :
    Related ((lanes.add block).get lane) ((lanes'.add block').get lane) := by
  have sum := additive.add (sums lane) (products lane)
  simpa [Lanes.add] using sum

theorem foldl {pairs pairs' : List (R × R)}
    (products : List.Forall₂ (Products Related) pairs pairs') {sum sum' : R}
    (related : Related sum sum') :
    Related (pairs.foldl (fun sum (left, right) => sum + left * right) sum)
      (pairs'.foldl (fun sum (left, right) => sum + left * right) sum') := by
  induction products generalizing sum sum' with
  | nil => exact related
  | cons product _ ih => exact ih (additive.add related product)

theorem sumProducts {pairs pairs' : List (R × R)}
    (products : List.Forall₂ (Products Related) pairs pairs') {lanes lanes' : Lanes R}
    (sums : ∀ lane, Related (lanes.get lane) (lanes'.get lane)) :
    Related (sumProducts lanes pairs) (sumProducts lanes' pairs') := by
  fun_induction NonlinearProgram.sumProducts lanes pairs generalizing lanes' pairs' with
  | case1 lanes a b c d e f g h rest ih =>
      -- Eight products at a time are added to the lanes.
      obtain _ | ⟨pa, _ | ⟨pb, _ | ⟨pc, _ | ⟨pd, _ | ⟨pe, _ | ⟨pf, _ | ⟨pg,
        _ | ⟨ph, products⟩⟩⟩⟩⟩⟩⟩⟩ := products
      apply ih products
      apply additive.lanes_add sums
      intro lane
      fin_cases lane
      exacts [pa, pb, pc, pd, pe, pf, pg, ph]
  | case2 lanes pairs short =>
      -- The products that are left are added to the sum of the lanes.
      have folded := additive.foldl products (additive.join sums)
      obtain _ | ⟨pa, _ | ⟨pb, _ | ⟨pc, _ | ⟨pd, _ | ⟨pe, _ | ⟨pf, _ | ⟨pg,
        _ | ⟨ph, products⟩⟩⟩⟩⟩⟩⟩⟩ := products
      case cons.cons.cons.cons.cons.cons.cons.cons => exact (short _ _ _ _ _ _ _ _ _ rfl).elim
      all_goals exact folded

theorem dot {size : Nat} {left right : Vector R size} (left' right' : Vector R size)
    (products : ∀ index, Related (left.get index * right.get index)
      (left'.get index * right'.get index)) :
    Related (dot left right) (NonlinearProgram.dot left' right') := by
  apply additive.sumProducts
  · rw [List.forall₂_iff_get]
    refine ⟨by simp, fun k inside _ => ?_⟩
    rw [Vector.length_toList] at inside
    simpa [Products] using products ⟨k, inside⟩
  · intro lane
    simpa [Lanes.zero] using additive.zero

end IsAdditive

/-- What holds of every product holds of the inner product. -/
theorem IsAdditive.dot_of_products {Holds : R → Prop}
    (additive : IsAdditive fun value _ => Holds value) {size : Nat} {left right : Vector R size}
    (products : ∀ index, Holds (left.get index * right.get index)) :
    Holds (NonlinearProgram.dot left right) :=
  additive.dot left right products

/-- What holds of the magnitudes of all entries, and of zero, holds of the largest of them. -/
theorem largest_of_abs {size : Nat} {values : Vector R size} (Holds : R → Prop) (zero : Holds 0)
    (abs : ∀ index, Holds (Arith.abs (values.get index))) : Holds (largest values) := by
  have everywhere : ∀ value ∈ values.toList, Holds (Arith.abs value) := forall_mem_toList.2 abs
  rw [largest]
  split
  case h_1 => exact zero
  case h_2 first rest entries =>
    rw [entries, List.forall_mem_cons] at everywhere
    obtain ⟨here, later⟩ := everywhere
    apply List.foldlRecOn rest _ here
    intro most holds value member
    split
    case isTrue => exact holds
    case isFalse => exact later value member

end NonlinearProgram
