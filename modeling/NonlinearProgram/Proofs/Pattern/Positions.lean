import NonlinearProgram.Proofs.Vectors
import NonlinearProgram.Relay

/-!
# Column-major positions

`flatIndex` numbers the entries of a matrix column by column. A matrix written out column by column
holds an entry at its number, and `allPairs` lists the entries in this order. A selection among them
keeps the order.
-/

namespace NonlinearProgram

variable {nrows ncols : Nat}

theorem get_flatten_flatIndex {α : Type} (columns : Vector (Vector α nrows) ncols)
    (row : Fin nrows) (column : Fin ncols) :
    columns.flatten.get (flatIndex row column) = (columns.get column).get row := by
  have positive : 0 < nrows := row.pos
  have quotient : (column * nrows + row : Nat) / nrows = column := by
    rw [Nat.mul_comm, Nat.mul_add_div positive, Nat.div_eq_of_lt row.isLt, Nat.add_zero]
  have remainder : (column * nrows + row : Nat) % nrows = row := by
    rw [Nat.mul_comm, Nat.mul_add_mod, Nat.mod_eq_of_lt row.isLt]
  simp [flatIndex, quotient, remainder]

/-- The entries of a matrix in the order in which a flattened matrix holds them. -/
theorem allPairs_eq_flatten :
    allPairs nrows ncols =
      (Vector.ofFn fun column : Fin ncols =>
        Vector.ofFn fun row => (row, column)).flatten.toList := by
  simp [allPairs, Vector.flatten, Vector.toList, List.flatMap, List.finRange, Function.comp_def,
    Vector.ofFn]

/-! ## Order -/

namespace Entries

theorem columnMajor_eq_lt_iff (left right : Fin nrows × Fin ncols) :
    columnMajor left right = .lt ↔ left.2 < right.2 ∨ left.2 = right.2 ∧ left.1 < right.1 := by
  have compared {size : Nat} (first second : Fin size) :
      compare first second = .lt ↔ first < second := Nat.compare_eq_lt
  simp [columnMajor, compareLex, compareOn, Ordering.then_eq_lt, compared]

theorem pairwise_allPairs (nrows ncols : Nat) :
    (allPairs nrows ncols).Pairwise fun left right => columnMajor left right = .lt := by
  simp only [columnMajor_eq_lt_iff, allPairs, List.pairwise_flatMap, List.pairwise_map]
  refine ⟨fun column _ => ?_, ?_⟩
  · exact (List.pairwise_lt_finRange nrows).imp fun below => .inr ⟨trivial, below⟩
  · refine (List.pairwise_lt_finRange ncols).imp fun {first second} below => ?_
    intro left leftMember right rightMember
    obtain ⟨_, _, rfl⟩ := List.mem_map.1 leftMember
    obtain ⟨_, _, rfl⟩ := List.mem_map.1 rightMember
    exact .inl below

/-- Entries that are selected stand in column-major order. -/
theorem pairwise_select (keep : Fin nrows → Fin ncols → Bool) :
    (select keep).pairs.Pairwise fun left right => columnMajor left right = .lt :=
  (pairwise_allPairs nrows ncols).filter _

theorem mem_select {keep : Fin nrows → Fin ncols → Bool} {row : Fin nrows} {column : Fin ncols} :
    (row, column) ∈ (select keep).pairs ↔ keep row column = true := by
  simp [select, allPairs]

end Entries

end NonlinearProgram
