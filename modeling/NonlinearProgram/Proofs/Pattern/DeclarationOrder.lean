import NonlinearProgram.Proofs.Pattern.FirstFit

/-!
# Colours and the order of declaration

First-fit colouring looks at the entries of a pattern twice. It counts the entries of each column,
which fixes the order of the visits, and it collects the colours of the columns that share a row
with the one that is visited. A count does not change when the entries are listed in another order,
and the first colour that is not in use does not depend on the order in which the others are listed.
So the colouring is one of the set of entries.
-/

namespace NonlinearProgram

/-- The first unused colour depends on which colours are used, not on how they are listed. -/
theorem firstUnused_congr {used used' : List Nat} (same : ∀ color, color ∈ used ↔ color ∈ used')
    (bound : Nat) : firstUnused bound used = firstUnused bound used' := by
  have marked : occurring bound used = occurring bound used' := by
    ext color inside
    rw [getElem_occurring, getElem_occurring]
    simp only [same color]
  rw [firstUnused, firstUnused, marked]

/-- Pairs in another order are gathered under the same keys. -/
theorem gather_perm {α : Type} {size : Nat} {pairs pairs' : List (Fin size × α)}
    (perm : pairs.Perm pairs') (key : Fin size) :
    ((gather pairs).get key).Perm ((gather pairs').get key) := by
  rw [get_gather, get_gather]
  apply List.Perm.map
  exact perm.filter _

namespace Coloring

variable {nrows ncols : Nat} {pairs pairs' : List (Fin nrows × Fin ncols)}

/-- Columns share a row of the entries whatever the order. -/
theorem shareRow_perm (perm : pairs.Perm pairs') (left right : Fin ncols) :
    ShareRow pairs left right ↔ ShareRow pairs' left right := by
  simp only [ShareRow, perm.mem_iff]

/-- The columns are visited in an order that the entries of each of them decide by their number. -/
theorem visitOrder_of_perm (perm : pairs.Perm pairs') :
    visitOrder (.ofPairs pairs) = visitOrder (.ofPairs pairs') := by
  have length (column : Fin ncols) : ((Incidence.ofPairs pairs).rows.get column).length =
      ((Incidence.ofPairs pairs').rows.get column).length := by
    apply List.Perm.length_eq
    exact gather_perm (perm.map Prod.swap) column
  simp only [visitOrder, length]

/-- A visit gives the same colour. -/
theorem Partial.visit_of_perm (perm : pairs.Perm pairs') (state : Partial ncols)
    (column : Fin ncols) :
    state.visit (.ofPairs pairs) column = state.visit (.ofPairs pairs') column := by
  have barred : firstUnused state.count (forbidden (.ofPairs pairs) state.colors column) =
      firstUnused state.count (forbidden (.ofPairs pairs') state.colors column) := by
    apply firstUnused_congr
    intro color
    simp only [mem_forbidden, shareRow_perm perm]
  rw [visit, visit, barred]

/-- The colouring of some entries does not depend on the order in which they are listed. -/
theorem greedy_of_perm (perm : pairs.Perm pairs') : greedy pairs = greedy pairs' := by
  have visits : Partial.visit (.ofPairs pairs) = Partial.visit (.ofPairs pairs') := by
    funext state column
    exact Partial.visit_of_perm perm state column
  rw [greedy, greedy, visitOrder_of_perm perm, visits]

end Coloring

/-- The same entries in two declared orders. -/
structure Entries.Reordering {nrows ncols : Nat} (entries entries' : Entries nrows ncols) where
  /-- Where each entry of the second declaration stands in the first. -/
  order : Fin entries'.pairs.length ≃ Fin entries.pairs.length
  /-- It is the same entry. -/
  get_order : ∀ k, entries.pairs.get (order k) = entries'.pairs.get k

namespace Entries.Reordering

variable {nrows ncols : Nat} {entries entries' : Entries nrows ncols}

theorem perm (reordering : Reordering entries entries') : entries'.pairs.Perm entries.pairs := by
  apply (List.perm_ext_iff_of_nodup entries'.nodup entries.nodup).2
  intro entry
  rw [List.mem_iff_get, List.mem_iff_get]
  apply reordering.order.exists_congr
  intro k
  rw [reordering.get_order]

/-- Two declared orders of the same entries have one colouring. -/
theorem greedy_eq (reordering : Reordering entries entries') :
    Coloring.greedy entries'.pairs = Coloring.greedy entries.pairs :=
  Coloring.greedy_of_perm reordering.perm

end Entries.Reordering

end NonlinearProgram
