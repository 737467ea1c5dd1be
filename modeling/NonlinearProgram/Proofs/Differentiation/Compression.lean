import NonlinearProgram.Proofs.Differentiation.Difference
import NonlinearProgram.Proofs.Pattern.FirstFit
import NonlinearProgram.Proofs.Problem.Dependence

/-!
# Perturbing variables together

A row takes from a joint perturbation what it takes from the perturbation of its own variables. In
the row of an entry, the variables that have the colour of the entry's column are perturbed together
and this column is the only one that the row depends on, so the difference found there is the one
that a perturbation of this variable alone gives.
-/

namespace NonlinearProgram

variable {R σ : Type} {nx ng : Nat}

/-- Two sets of columns that agree on the entries of a row. -/
def SameInRow (pairs : List (Fin ng × Fin nx)) (row : Fin ng) (left right : List (Fin nx)) : Prop :=
  ∀ column, (row, column) ∈ pairs → (column ∈ left ↔ column ∈ right)

/-- A constraint sees no difference between points that are altered alike in its own variables. -/
theorem RespectsEntries.constraint_alter {T : Type} {pairs : List (Fin ng × Fin nx)}
    {evaluate : Vector T nx → Vector T ng → StateM σ (Evaluation T ng)}
    (respects : RespectsEntries pairs evaluate) {row : Fin ng} {left right : List (Fin nx)}
    (same : SameInRow pairs row left right) {point : Vector T nx} {change : Fin nx → T → T}
    {rows rows' : Vector T (ng + 1)} (sample : IsSample (evaluate (alter left point change)) rows)
    (sample' : IsSample (evaluate (alter right point change)) rows') :
    rows.get row.succ = rows'.get row.succ := by
  refine respects.constraint row ?_ sample sample'
  intro column member
  rw [get_alter, get_alter]
  simp only [same column member]

section Differences

variable [Arith R] [Precision R] {problem : Problem R σ} {x : Vector R nx} {scheme : Scheme}
variable {pairs : List (Fin ng × Fin nx)} {base raw raw' : Vector R (ng + 1)}

/-- The difference of a row is decided by what the row takes from the samples. -/
theorem IsJointDifference.row_eq {left right : List (Fin nx)} (row : Fin (ng + 1))
    (real : ∀ {change rows rows'}, IsSample (problem.real (alter left x change)) rows →
      IsSample (problem.real (alter right x change)) rows' → rows.get row = rows'.get row)
    (complex : ∀ {point change rows rows'},
      IsSample (problem.complex (alter left point change)) rows →
      IsSample (problem.complex (alter right point change)) rows' → rows.get row = rows'.get row)
    (joint : IsJointDifference problem x left scheme base raw)
    (joint' : IsJointDifference problem x right scheme base raw') : raw.get row = raw'.get row := by
  cases scheme with
  | forward =>
      rcases joint with ⟨plus, isPlus, rfl⟩
      rcases joint' with ⟨plus', isPlus', rfl⟩
      have samePlus := real isPlus isPlus'
      simp only [Vector.get_eq_getElem] at samePlus
      simp [samePlus]
  | central =>
      rcases joint with ⟨plus, minus, isPlus, isMinus, rfl⟩
      rcases joint' with ⟨plus', minus', isPlus', isMinus', rfl⟩
      have samePlus := real isPlus isPlus'
      have sameMinus := real isMinus isMinus'
      simp only [Vector.get_eq_getElem] at samePlus sameMinus
      simp [samePlus, sameMinus]
  | complexStep =>
      rcases joint with ⟨rows, isSample, rfl⟩
      rcases joint' with ⟨rows', isSample', rfl⟩
      have same := complex isSample isSample'
      simp only [Vector.get_eq_getElem] at same
      simp [same]

/-- The difference of a constraint is the same for sets of variables that agree on its entries. -/
theorem IsJointDifference.constraint_eq (real : RespectsEntries pairs problem.real)
    (complex : RespectsEntries pairs problem.complex) {row : Fin ng} {left right : List (Fin nx)}
    (same : SameInRow pairs row left right)
    (joint : IsJointDifference problem x left scheme base raw)
    (joint' : IsJointDifference problem x right scheme base raw') :
    raw.get row.succ = raw'.get row.succ :=
  joint.row_eq row.succ (real.constraint_alter same) (complex.constraint_alter same) joint'

/-- The quotients in one variable are determined. -/
theorem IsQuotientColumn.eq (real : RespectsEntries pairs problem.real)
    (complex : RespectsEntries pairs problem.complex) {column : Fin nx}
    {quotients quotients' : Vector R (ng + 1)}
    (isQuotient : IsQuotientColumn problem scheme x base column quotients)
    (isQuotient' : IsQuotientColumn problem scheme x base column quotients') :
    quotients = quotients' := by
  rcases isQuotient with ⟨raw, joint, rfl⟩
  rcases isQuotient' with ⟨raw', joint', rfl⟩
  have same : raw = raw' := by
    ext row inside
    refine joint.row_eq ⟨row, inside⟩ ?_ ?_ joint'
    · intro _ _ _ sample sample'
      rw [real.rows_eq sample sample']
    · intro _ _ _ _ sample sample'
      rw [complex.rows_eq sample sample']
  rw [same]

/-- In a row of a column's entries, the colour of the column stands for the column alone. -/
theorem Coloring.FirstFit.sameInRow {coloring : Coloring nx} (fit : coloring.FirstFit pairs)
    {row : Fin ng} {column : Fin nx} (member : (row, column) ∈ pairs) :
    SameInRow pairs row (coloring.columns (coloring.colors.get column)) [column] := by
  intro other otherMember
  rw [Coloring.mem_columns _ (fit.color_lt column), List.mem_singleton]
  constructor
  · intro sameColor
    by_contra different
    exact fit.separates different ⟨row, otherMember, member⟩ sameColor
  · rintro rfl
    rfl

end Differences

end NonlinearProgram
