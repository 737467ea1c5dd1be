import NonlinearProgram.AugmentedLagrangian.Evaluation
import NonlinearProgram.Proofs.Vectors

/-!
# Assembled values and derivatives

A Jacobian is assembled by adding derivatives to a matrix of zeros, each at its position, so that an
entry is the sum of what is added there. Where the positions are distinct and there is no linear
part, a position holds zero plus its derivative and the rest of the matrix is zero. To the function
values the linear part is added row by row.
-/

namespace NonlinearProgram.AugmentedLagrangian

variable {R : Type} [Arith R] {n nf neg : Nat}

/-! ## Sums of entries -/

theorem get_addEntry (columns : Columns R n nf) (row row' : Fin nf) (column column' : Fin n)
    (value : R) :
    ((addEntry columns row' column' value).get column).get row =
      if (row', column') = (row, column) then (columns.get column).get row + value
      else (columns.get column).get row := by
  simp only [addEntry, get_set, Prod.mk.injEq]
  by_cases sameColumn : column' = column
  · rw [if_pos sameColumn, get_set]
    by_cases sameRow : row' = row
    · rw [if_pos sameRow, if_pos ⟨sameRow, sameColumn⟩, sameRow, sameColumn]
    · rw [if_neg sameRow, if_neg fun same => sameRow same.1, sameColumn]
  · rw [if_neg sameColumn, if_neg fun same => sameColumn same.2]

/-- Adds derivatives at their positions, one after the other. -/
def addEntries (columns : Columns R n nf) (entries : List ((Fin nf × Fin n) × R)) :
    Columns R n nf :=
  entries.foldl (fun columns ((row, column), value) => addEntry columns row column value) columns

theorem addEntries_cons (columns : Columns R n nf) (row : Fin nf) (column : Fin n) (value : R)
    (rest : List ((Fin nf × Fin n) × R)) :
    addEntries columns (((row, column), value) :: rest) =
      addEntries (addEntry columns row column value) rest := rfl

/-- What is added to a cell, in order. -/
def amountsAt (entries : List ((Fin nf × Fin n) × R)) (row : Fin nf) (column : Fin n) : List R :=
  (entries.filter (·.1 = (row, column))).map Prod.snd

/-- A cell gets what is added to it, and nothing else. -/
theorem get_addEntries (columns : Columns R n nf) (entries : List ((Fin nf × Fin n) × R))
    (row : Fin nf) (column : Fin n) :
    ((addEntries columns entries).get column).get row =
      (amountsAt entries row column).foldl (· + ·) ((columns.get column).get row) := by
  induction entries generalizing columns with
  | nil => rfl
  | cons entry rest ih =>
      rcases entry with ⟨⟨row', column'⟩, value⟩
      rw [addEntries_cons, ih, get_addEntry, amountsAt, amountsAt]
      by_cases here : (row', column') = (row, column)
      · rw [if_pos here, List.filter_cons_of_pos (by simpa using here)]
        rfl
      · rw [if_neg here, List.filter_cons_of_neg (by simpa using here)]

omit [Arith R] in
theorem amountsAt_of_not_mem {entries : List ((Fin nf × Fin n) × R)} {row : Fin nf}
    {column : Fin n} (outside : (row, column) ∉ entries.map Prod.fst) :
    amountsAt entries row column = [] := by
  rw [amountsAt, List.map_eq_nil_iff, List.filter_eq_nil_iff]
  intro entry member here
  exact outside (List.mem_map.2 ⟨entry, member, of_decide_eq_true here⟩)

omit [Arith R] in
theorem amountsAt_of_mem {entries : List ((Fin nf × Fin n) × R)}
    (distinct : (entries.map Prod.fst).Nodup) {row : Fin nf} {column : Fin n} {value : R}
    (member : ((row, column), value) ∈ entries) : amountsAt entries row column = [value] := by
  induction entries with
  | nil => cases member
  | cons entry rest ih =>
      rw [List.map_cons, List.nodup_cons] at distinct
      cases member with
      | head =>
          rw [amountsAt, List.filter_cons_of_pos (by simp), List.map_cons]
          exact congrArg (value :: ·) (amountsAt_of_not_mem distinct.1)
      | tail _ member =>
          have other : entry.1 ≠ (row, column) := by
            intro same
            exact distinct.1 (same ▸ List.mem_map.2 ⟨_, member, rfl⟩)
          rw [amountsAt, List.filter_cons_of_neg (by simpa using other)]
          exact ih distinct.2 member

/-! ## The Jacobian of a program -/

/-- All that is added to the Jacobian of a program: the nonlinear derivatives, then the
coefficients of the linear part. -/
def Program.amounts (program : Program R n nf neg) (g : Vector R neg) :
    List ((Fin nf × Fin n) × R) :=
  (program.entries.zip g).toList ++
    program.linear.map fun term => ((term.1, term.2.1), term.2.2)

theorem assembleJacobian_eq_addEntries (program : Program R n nf neg) (g : Vector R neg) :
    assembleJacobian program g =
      addEntries (.replicate n (.replicate nf 0)) (program.amounts g) := by
  rw [addEntries, Program.amounts, List.foldl_append, List.foldl_map]
  rfl

/-- An entry of the Jacobian is the sum of what is added at its cell. -/
theorem get_assembleJacobian_eq_sum (program : Program R n nf neg) (g : Vector R neg)
    (row : Fin nf) (column : Fin n) :
    ((assembleJacobian program g).get column).get row =
      (amountsAt (program.amounts g) row column).foldl (· + ·) 0 := by
  rw [assembleJacobian_eq_addEntries, get_addEntries]
  simp

omit [Arith R] in
theorem map_fst_amounts {program : Program R n nf neg} (linear : program.linear = [])
    (g : Vector R neg) : (program.amounts g).map Prod.fst = program.entries.toList := by
  rw [Program.amounts, linear, List.map_nil, List.append_nil, ← Vector.toList_map,
    Vector.map_fst_zip]

/-- A position holds zero plus its derivative. -/
theorem get_assembleJacobian {program : Program R n nf neg} (linear : program.linear = [])
    (distinct : program.entries.toList.Nodup) (g : Vector R neg) {k : Nat} (inside : k < neg)
    {row : Fin nf} {column : Fin n} (position : program.entries[k] = (row, column)) :
    ((assembleJacobian program g).get column).get row = 0 + g[k] := by
  have member : ((row, column), g[k]) ∈ program.amounts g := by
    apply List.mem_append_left
    rw [← position, ← Vector.getElem_zip]
    exact Vector.mem_toList_iff.2 (Vector.getElem_mem inside)
  have once : amountsAt (program.amounts g) row column = [g[k]] :=
    amountsAt_of_mem ((map_fst_amounts linear g).symm ▸ distinct) member
  rw [get_assembleJacobian_eq_sum, once]
  rfl

/-- A cell without a derivative is zero. -/
theorem get_assembleJacobian_of_not_mem {program : Program R n nf neg}
    (linear : program.linear = []) (g : Vector R neg) {row : Fin nf} {column : Fin n}
    (outside : (row, column) ∉ program.entries.toList) :
    ((assembleJacobian program g).get column).get row = 0 := by
  have nowhere : amountsAt (program.amounts g) row column = [] :=
    amountsAt_of_not_mem ((map_fst_amounts linear g).symm ▸ outside)
  rw [get_assembleJacobian_eq_sum, nowhere]
  rfl

/-! ## Function values -/

/-- A function value is what the callback gave for its row, and then the terms of that row. -/
theorem get_assembleValues (linear : List (Fin nf × Fin n × R)) (x : Vector R n)
    (f : Vector R nf) (row : Fin nf) :
    (assembleValues linear x f).get row =
      (linear.filter (·.1 = row)).foldl (fun sum term => sum + term.2.2 * x.get term.2.1)
        (f.get row) := by
  induction linear generalizing f with
  | nil => rfl
  | cons term rest ih =>
      rcases term with ⟨row', column, a⟩
      change (assembleValues rest x
        (f.set row' (f.get row' + a * x.get column) row'.isLt)).get row = _
      rw [ih, get_set]
      by_cases here : row' = row
      · rw [if_pos here, List.filter_cons_of_pos (by simpa using here), List.foldl_cons, here]
      · rw [if_neg here, List.filter_cons_of_neg (by simpa using here)]

end NonlinearProgram.AugmentedLagrangian
