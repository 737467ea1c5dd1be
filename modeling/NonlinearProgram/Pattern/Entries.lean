import Std.Data.TreeSet.Lemmas
import NonlinearProgram.Setup

/-!
# Entries of a matrix

Positions in a matrix, no two of them equal, in the order in which they were declared.

Declared coordinates are read from the front. The first one outside the matrix, or equal to an
earlier one, is reported; when none is, the entries stand in the order given.
-/

namespace NonlinearProgram

/-- Distinct positions in a matrix, in declared order. -/
structure Entries (nrows ncols : Nat) where
  pairs : List (Fin nrows × Fin ncols)
  nodup : pairs.Nodup

/-- Every position of a matrix, column by column. -/
def allPairs (nrows ncols : Nat) : List (Fin nrows × Fin ncols) :=
  (List.finRange ncols).flatMap fun column => (List.finRange nrows).map fun row => (row, column)

@[simp] theorem length_allPairs (nrows ncols : Nat) :
    (allPairs nrows ncols).length = ncols * nrows := by
  simp only [allPairs, List.length_flatMap, List.length_map, List.length_finRange, List.map_const',
    List.sum_replicate_nat]

theorem nodup_allPairs (nrows ncols : Nat) : (allPairs nrows ncols).Nodup := by
  simp only [allPairs, List.Nodup, List.pairwise_flatMap, List.pairwise_map]
  refine ⟨fun column _ => ?_, ?_⟩
  · exact (List.nodup_finRange nrows).imp fun different equal => different (Prod.mk.inj equal).1
  · refine (List.nodup_finRange ncols).imp fun {first second} different => ?_
    intro left leftMember right rightMember equal
    obtain ⟨_, _, rfl⟩ := List.mem_map.1 leftMember
    obtain ⟨_, _, rfl⟩ := List.mem_map.1 rightMember
    exact different (Prod.mk.inj equal).2

namespace Entries

variable {nrows ncols : Nat}

/-- All entries, column by column. -/
def full (nrows ncols : Nat) : Entries nrows ncols := ⟨allPairs nrows ncols, nodup_allPairs _ _⟩

/-- Entries selected by a test, column by column. -/
def select (keep : Fin nrows → Fin ncols → Bool) : Entries nrows ncols where
  pairs := (allPairs nrows ncols).filter fun (row, column) => keep row column
  nodup := (nodup_allPairs nrows ncols).filter _

/-- Positions are compared by column, and within a column by row. -/
abbrev columnMajor : Fin nrows × Fin ncols → Fin nrows × Fin ncols → Ordering :=
  compareLex (compareOn Prod.snd) (compareOn Prod.fst)

theorem columnMajor_eq_iff (left right : Fin nrows × Fin ncols) :
    columnMajor left right = .eq ↔ left = right := by
  simp [columnMajor, compareLex_eq_eq, compareOn, Prod.ext_iff, and_comm]

/-- Entries read so far, newest first, and the set of them. -/
structure Reader (nrows ncols : Nat) where
  entries : Entries nrows ncols
  known : Std.TreeSet (Fin nrows × Fin ncols) columnMajor
  mem_known : ∀ entry, entry ∈ known ↔ entry ∈ entries.pairs

namespace Reader

/-- Before the first entry. -/
def start : Reader nrows ncols := ⟨⟨[], List.nodup_nil⟩, ∅, by simp⟩

/-- One more entry has been read. -/
def add (reader : Reader nrows ncols) (entry : Fin nrows × Fin ncols)
    (fresh : entry ∉ reader.known) : Reader nrows ncols where
  entries :=
    { pairs := entry :: reader.entries.pairs
      nodup := List.nodup_cons.2
        ⟨fun member => fresh ((reader.mem_known entry).2 member), reader.entries.nodup⟩ }
  known := reader.known.insert entry
  mem_known other := by
    rw [Std.TreeSet.mem_insert, columnMajor_eq_iff, reader.mem_known, List.mem_cons, eq_comm]

/-- The entries in the order in which they were read. -/
def finish (reader : Reader nrows ncols) : Entries nrows ncols where
  pairs := reader.entries.pairs.reverse
  nodup := List.pairwise_reverse.2 (reader.entries.nodup.imp Ne.symm)

/-- Reads the declared coordinates that are left, the first of them at `position`, and names the
first defect. -/
def read (reader : Reader nrows ncols) (position : Nat) :
    List (Nat × Nat) → Except PatternDefect (Entries nrows ncols)
  | [] => .ok reader.finish
  | (row, column) :: rest =>
      if inside : (0 < row ∧ row ≤ nrows) ∧ 0 < column ∧ column ≤ ncols then
        let entry : Fin nrows × Fin ncols := (⟨row - 1, by omega⟩, ⟨column - 1, by omega⟩)
        if known : entry ∈ reader.known then .error (.repeated position row column)
        else (reader.add entry known).read (position + 1) rest
      else .error (.outOfRange position row column nrows ncols)

end Reader

/-- Entries declared by coordinates counted from one, kept in the order given. -/
def ofCoordinates (nrows ncols : Nat) (coordinates : List (Nat × Nat)) :
    Except PatternDefect (Entries nrows ncols) :=
  Reader.start.read 0 coordinates

end Entries

end NonlinearProgram
