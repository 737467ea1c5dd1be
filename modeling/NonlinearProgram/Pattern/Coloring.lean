import NonlinearProgram.Pattern.Basic

/-!
# Column colouring

Columns that share no row can be perturbed together: each row then sees at most one of them, and the
sum of their derivatives can be taken apart again. A colouring assigns columns to such groups.

`Coloring.greedy` visits the columns by decreasing number of entries and gives each the first colour
that no column sharing a row with it has. Those columns are looked up in an `Incidence`, which lists
the entries by column and by row, and their colours are marked, so that the work is in proportion to
the number of pairs of entries in one row. `Coloring.validFor?` decides whether a colouring
separates the columns of a pattern, and `decompress` reads the entries of a pattern off the
compressed columns.
-/

namespace NonlinearProgram

/-- A colour for each of `ncols` columns, counted from zero. -/
structure Coloring (ncols : Nat) where
  colors : Vector Nat ncols
  /-- Number of colours used. -/
  count : Nat
  deriving DecidableEq

/-- The colours below `bound`, each with whether it occurs in a list. -/
def occurring (bound : Nat) (used : List Nat) : Vector Bool bound :=
  used.foldl (fun marks color => marks.setIfInBounds color true) (.replicate bound false)

/-- First colour below `bound` that is not in the list, and `bound` when all of them are. -/
def firstUnused (bound : Nat) (used : List Nat) : Nat :=
  (occurring bound used).toArray.findIdx fun marked => !marked

theorem getElem_occurring (bound : Nat) (used : List Nat) (color : Nat) (below : color < bound) :
    (occurring bound used)[color] = decide (color ∈ used) := by
  have general (marks : Vector Bool bound) :
      (used.foldl (fun marks color => marks.setIfInBounds color true) marks)[color] =
        (marks[color] || decide (color ∈ used)) := by
    induction used generalizing marks with
    | nil => simp
    | cons first rest ih =>
      rw [List.foldl_cons, ih, Vector.getElem_setIfInBounds]
      by_cases same : first = color
      · simp [same]
      · simp [same, Ne.symm same]
  simp [occurring, general]

theorem firstUnused_le (bound : Nat) (used : List Nat) : firstUnused bound used ≤ bound := by
  have within := @Array.findIdx_le_size _ (fun marked => !marked) (occurring bound used).toArray
  simpa [firstUnused] using within

theorem mem_of_lt_firstUnused {bound color : Nat} {used : List Nat}
    (below : color < firstUnused bound used) : color ∈ used := by
  have marked := Array.not_of_lt_findIdx below
  have inside : color < bound := Nat.lt_of_lt_of_le below (firstUnused_le bound used)
  simpa [getElem_occurring _ _ _ inside] using marked

theorem firstUnused_not_mem {bound : Nat} {used : List Nat}
    (below : firstUnused bound used < bound) : firstUnused bound used ∉ used := by
  have found := @Array.findIdx_getElem _ (fun marked => !marked) (occurring bound used).toArray
    (by simpa [firstUnused] using below)
  rw [← decide_eq_false_iff_not, ← getElem_occurring _ _ _ below]
  simpa [firstUnused] using found

/-- Entries of a matrix, listed by column and by row. -/
structure Incidence (nrows ncols : Nat) where
  rows : Vector (List (Fin nrows)) ncols
  columns : Vector (List (Fin ncols)) nrows

/-- The values of keyed pairs, gathered by key in the order given. -/
def gather {α : Type} {size : Nat} (pairs : List (Fin size × α)) : Vector (List α) size :=
  pairs.foldr (fun (key, value) found => found.set key (value :: found.get key) key.isLt)
    (.replicate size [])

/-- Entries in declared order, listed by column and by row. -/
def Incidence.ofPairs {nrows ncols : Nat} (pairs : List (Fin nrows × Fin ncols)) :
    Incidence nrows ncols :=
  ⟨gather (pairs.map Prod.swap), gather pairs⟩

namespace Coloring

variable {nrows ncols : Nat}

/-- The groups of columns by colour: each column in turn is added to the group of its colour. -/
def groups (coloring : Coloring ncols) : List (List (Fin ncols)) :=
  let none : Array (Array (Fin ncols)) := .replicate coloring.count #[]
  let filled := (List.finRange ncols).foldl
    (fun groups column => groups.modify (coloring.colors.get column) (·.push column)) none
  filled.toList.map Array.toList

/-- Columns of one colour, in ascending order. -/
def columns (coloring : Coloring ncols) (color : Nat) : List (Fin ncols) :=
  coloring.groups[color]?.getD []

/-- Columns in the order in which they are coloured: most entries first, ties by position. -/
def visitOrder (entries : Incidence nrows ncols) : List (Fin ncols) :=
  (List.finRange ncols).mergeSort fun left right =>
    (entries.rows.get right).length ≤ (entries.rows.get left).length

/-- Colours already given to columns that share a row with `column`. -/
def forbidden (entries : Incidence nrows ncols) (colors : Vector (Option Nat) ncols)
    (column : Fin ncols) : List Nat :=
  (entries.rows.get column).flatMap fun row =>
    (entries.columns.get row).filterMap fun neighbor => colors.get neighbor

/-- Colours given to the columns visited so far, and how many different ones there are. -/
structure Partial (ncols : Nat) where
  colors : Vector (Option Nat) ncols
  count : Nat

/-- Colours one more column. -/
def Partial.visit (entries : Incidence nrows ncols) (state : Partial ncols) (column : Fin ncols) :
    Partial ncols :=
  let color := firstUnused state.count (forbidden entries state.colors column)
  ⟨state.colors.set column (some color) column.isLt, max state.count (color + 1)⟩

/-- First-fit colouring of the columns of a pattern. -/
def greedy (pairs : List (Fin nrows × Fin ncols)) : Coloring ncols :=
  let entries := Incidence.ofPairs pairs
  let state := (visitOrder entries).foldl (Partial.visit entries) ⟨.replicate ncols none, 0⟩
  ⟨state.colors.map (·.getD 0), state.count⟩

/-- Looks for two columns of one colour that share a row. `owner` holds the column whose entry was
last seen in a row and a colour. There is no answer if a column has no colour below the number of
colours. -/
def separates? (coloring : Coloring ncols) :
    List (Fin nrows × Fin ncols) → Vector (Vector (Option (Fin ncols)) coloring.count) nrows →
      Option Bool
  | [], _ => some true
  | (row, column) :: rest, owner =>
      if inside : coloring.colors.get column < coloring.count then
        let owners := owner.get row
        if owners[coloring.colors.get column].any (· ≠ column) then some false
        else
          let owners := owners.set (coloring.colors.get column) (some column) inside
          coloring.separates? rest (owner.set row owners row.isLt)
      else none

/-- No two columns of one colour share a row of the pattern; false when the column counts differ. -/
def validFor? (coloring : Coloring ncols) (pattern : Pattern) : Option Bool :=
  if same : pattern.ncols = ncols then
    coloring.separates? (pattern.entries.pairs.map fun (row, column) => (row, column.cast same))
      (.replicate pattern.nrows (.replicate coloring.count none))
  else some false

/-- Reads entries off compressed columns, each divided by the divisor of its column. `compressed`
gives the entry of a row and a colour; `offset` rows stand above those of the entries. -/
def decompress {R D : Type} [HDiv R D R] (coloring : Coloring ncols)
    (pairs : List (Fin nrows × Fin ncols)) (compressed : Nat → Nat → R) (offset : Nat)
    (divisors : Fin ncols → D) : List R :=
  pairs.map fun (row, column) =>
    compressed (offset + row) (coloring.colors.get column) / divisors column

end Coloring

/-- First-fit colouring of the columns of a pattern. -/
def Pattern.coloring (pattern : Pattern) : Coloring pattern.ncols :=
  .greedy pattern.entries.pairs

end NonlinearProgram
