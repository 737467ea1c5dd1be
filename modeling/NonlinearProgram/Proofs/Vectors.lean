import Mathlib

/-!
# Reading vectors

Entries are read at indices that are in range by their type. A read is simplified to one at the
number of the index, which is the form that lemmas about vectors speak of; a write shows at its own
index and nowhere else.
-/

namespace NonlinearProgram

attribute [simp] Vector.get_eq_getElem

theorem ext_get {α : Type} {size : Nat} {left right : Vector α size}
    (same : ∀ index, left.get index = right.get index) : left = right := by
  ext k inside
  exact same ⟨k, inside⟩

/-- What holds of the members of a vector is what holds of its entries. -/
theorem forall_mem_toList {α : Type} {size : Nat} {values : Vector α size} {Holds : α → Prop} :
    (∀ value ∈ values.toList, Holds value) ↔ ∀ index, Holds (values.get index) := by
  constructor
  · intro all index
    exact all _ (Vector.mem_toList_iff.2 (Vector.getElem_mem index.isLt))
  · intro all value member
    obtain ⟨k, inside, rfl⟩ := Vector.mem_iff_getElem.1 (Vector.mem_toList_iff.1 member)
    exact all ⟨k, inside⟩

theorem get_set {α : Type} {size : Nat} (values : Vector α size) (written index : Fin size)
    (value : α) :
    (values.set written value written.isLt).get index =
      if written = index then value else values.get index := by
  simp [Vector.getElem_set, Fin.ext_iff]

end NonlinearProgram
