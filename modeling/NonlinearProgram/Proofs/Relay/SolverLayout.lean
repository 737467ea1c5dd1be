import NonlinearProgram.Proofs.Pattern.Positions

/-!
# The layout of derivatives in a solver

The derivatives of a layout form a matrix over all function rows, `Layout.derivative?`: the gradient
in the objective row, and below it a derivative in every cell that the layout stores. A solver
receives the cells in the order of `Layout.cells`. The positions it is told are those of the cells,
counted from one, and the derivatives it is handed are those in the cells.
-/

namespace NonlinearProgram

namespace Layout

variable {R : Type} {nx ng : Nat}

/-- Derivative of a constraint, if the layout stores it. -/
def constraintDerivative? (row : Fin ng) (column : Fin nx) :
    (layout : Layout nx ng) → Vector R layout.length → Option R
  | dense, dg => some (dg.get (flatIndex row column))
  | sparse entries _, dg => dg[entries.pairs.idxOf (row, column)]?

theorem constraintDerivative?_dense (dg : Vector R (nx * ng)) (row : Fin ng) (column : Fin nx) :
    constraintDerivative? row column dense dg = some (dg.get (flatIndex row column)) := rfl

theorem constraintDerivative?_sparse {entries : Entries ng nx} {coloring : Coloring nx}
    (dg : Vector R entries.pairs.length) (row : Fin ng) (column : Fin nx) :
    constraintDerivative? row column (sparse entries coloring) dg =
      dg[entries.pairs.idxOf (row, column)]? := rfl

theorem isSome_constraintDerivative?_sparse {entries : Entries ng nx} {coloring : Coloring nx}
    (dg : Vector R entries.pairs.length) (row : Fin ng) (column : Fin nx) :
    (constraintDerivative? row column (sparse entries coloring) dg).isSome ↔
      (row, column) ∈ entries.pairs := by
  rw [constraintDerivative?_sparse, isSome_getElem?]
  exact List.idxOf_lt_length_iff

/-- Derivative of a function row, if the layout stores it. -/
def derivative? (layout : Layout nx ng) (df : Vector R nx) (dg : Vector R layout.length)
    (row : Fin (ng + 1)) (column : Fin nx) : Option R :=
  row.cases (some (df.get column)) fun row => layout.constraintDerivative? row column dg

/-- Cells of the derivatives a solver receives, in order. -/
def cells : Layout nx ng → List (Fin (ng + 1) × Fin nx)
  | dense => allPairs (ng + 1) nx
  | sparse entries _ =>
      (List.finRange nx).map (fun column => (objectiveRow, column)) ++
        entries.pairs.map fun (row, column) => (row.succ, column)

/-- A solver is told the cells, counted from one. -/
theorem solverPositions_eq_cells (layout : Layout nx ng) :
    layout.pattern.solverPositions =
      layout.cells.map fun (row, column) => (row.val + 1, column.val + 1) := by
  cases layout with
  | dense => rfl
  | sparse entries coloring =>
      simp only [pattern, Pattern.solverPositions, Pattern.shifted, Pattern.coordinates, cells,
        List.map_append, List.map_map]
      congr 1
      apply List.ext_getElem
      · simp
      · intro k _ _
        simp

theorem nodup_cells (layout : Layout nx ng) : layout.cells.Nodup := by
  cases layout with
  | dense => exact nodup_allPairs (ng + 1) nx
  | sparse entries coloring =>
      apply List.Nodup.append
      · apply (List.nodup_finRange nx).map
        intro left right same
        exact (Prod.mk.inj same).2
      · apply entries.nodup.map
        intro left right same
        rcases Prod.mk.inj same with ⟨sameRow, sameColumn⟩
        exact Prod.ext (Fin.succ_inj.1 sameRow) sameColumn
      · -- The objective row is apart from the rows of the constraints.
        intro cell objective constraint
        rcases List.mem_map.1 objective with ⟨_, _, rfl⟩
        rcases List.mem_map.1 constraint with ⟨_, _, same⟩
        exact Fin.succ_ne_zero _ (Prod.mk.inj same).1

theorem stackRows_eq_derivative? (df : Vector R nx) (dg : Vector R (nx * ng)) (row : Fin (ng + 1))
    (column : Fin nx) :
    some ((stackRows (df.get column)
        (.ofFn fun row : Fin ng => dg.get (flatIndex row column))).get row) =
      derivative? dense df dg row column := by
  cases row using Fin.cases with
  | zero => simp [stackRows, derivative?]
  | succ row =>
      simp only [derivative?, Fin.cases_succ, constraintDerivative?_dense]
      simp [stackRows]

theorem map_derivative?_dense (df : Vector R nx) (dg : Vector R (nx * ng)) :
    ((allPairs (ng + 1) nx).map fun (row, column) => derivative? dense df dg row column) =
      (Vector.ofFn fun column : Fin nx => stackRows (df.get column)
        (.ofFn fun row : Fin ng => dg.get (flatIndex row column))).flatten.toList.map some := by
  rw [allPairs_eq_flatten, ← Vector.toList_map, ← Vector.toList_map, Vector.map_flatten,
    Vector.map_flatten]
  apply congrArg fun columns : Vector (Vector _ _) nx => columns.flatten.toList
  apply Vector.ext
  intro column inColumns
  apply Vector.ext
  intro row inRows
  have same := stackRows_eq_derivative? df dg ⟨row, inRows⟩ ⟨column, inColumns⟩
  simpa using same.symm

theorem map_derivative?_sparse (entries : Entries ng nx) (coloring : Coloring nx)
    (df : Vector R nx) (dg : Vector R entries.pairs.length) :
    ((sparse entries coloring).cells.map fun (row, column) =>
        derivative? (sparse entries coloring) df dg row column) =
      (df ++ dg).toList.map some := by
  rw [cells, List.map_append, Vector.toList_append, List.map_append]
  congr 1
  · apply List.ext_getElem
    · simp
    · intro k _ _
      simp [derivative?]
  · apply List.ext_getElem
    · simp
    · intro k _ _
      have stored : k < entries.pairs.length := by simp_all
      simp [derivative?, constraintDerivative?_sparse, entries.nodup.idxOf_getElem, stored]

/-- A solver is handed the derivatives in the cells. -/
theorem map_derivative?_cells (layout : Layout nx ng) (df : Vector R nx)
    (dg : Vector R layout.length) :
    (layout.cells.map fun (row, column) => layout.derivative? df dg row column) =
      (layout.solverDerivatives df dg).toList.map some := by
  cases layout with
  | dense => exact map_derivative?_dense df dg
  | sparse entries coloring => exact map_derivative?_sparse entries coloring df dg

/-- The cells are those that hold a derivative. -/
theorem mem_cells_iff (layout : Layout nx ng) (df : Vector R nx) (dg : Vector R layout.length)
    (row : Fin (ng + 1)) (column : Fin nx) :
    (row, column) ∈ layout.cells ↔ (layout.derivative? df dg row column).isSome := by
  cases layout with
  | dense =>
      have whole : (row, column) ∈ allPairs (ng + 1) nx := by simp [allPairs]
      cases row using Fin.cases with
      | zero => exact iff_of_true whole rfl
      | succ row => exact iff_of_true whole rfl
  | sparse entries coloring =>
      cases row using Fin.cases with
      | zero => simp [cells, derivative?]
      | succ row =>
          have declared : (row.succ, column) ∈ (sparse entries coloring).cells ↔
              (row, column) ∈ entries.pairs := by
            simp [cells, (Fin.succ_ne_zero row).symm]
          exact declared.trans (isSome_constraintDerivative?_sparse dg row column).symm

end Layout

end NonlinearProgram
