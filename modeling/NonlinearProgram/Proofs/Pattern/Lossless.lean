import Mathlib
import NonlinearProgram.Proofs.Pattern.FirstFit

/-!
# When compression loses nothing

Compressing a matrix adds up its columns of each colour. Whether the entries of a pattern can be
read off the sums is a question about the colouring and the pattern alone: they can, for every
matrix that vanishes elsewhere, exactly if no two columns of one colour share a row. Where two do,
a matrix with a single entry in one of them shows it in the other as well.

`Coloring.validFor?` decides this with a table of owners that keeps one column for each row and
colour. The invariant is `Coloring.Owns`: as long as no two columns have met, the column that is
kept is the only one there is.
-/

namespace NonlinearProgram

namespace Coloring

variable {nrows ncols : Nat}

/-- Different columns that share a row have different colours. -/
def Separates (coloring : Coloring ncols) (pairs : List (Fin nrows × Fin ncols)) : Prop :=
  ∀ left right : Fin ncols, left ≠ right →
    coloring.colors.get left = coloring.colors.get right → ¬ShareRow pairs left right

/-- A table of owners after some entries: a row and a colour are owned by the one column of the
colour that has been seen in the row. -/
def Owns (coloring : Coloring ncols) (seen : List (Fin nrows × Fin ncols))
    (owner : Vector (Vector (Option (Fin ncols)) coloring.count) nrows) : Prop :=
  ∀ (row : Fin nrows) (color : Nat) (inside : color < coloring.count) (column : Fin ncols),
    (owner.get row)[color] = some column ↔
      (row, column) ∈ seen ∧ coloring.colors.get column = color

section Owners

variable {coloring : Coloring ncols} {seen : List (Fin nrows × Fin ncols)}
variable {owner : Vector (Vector (Option (Fin ncols)) coloring.count) nrows}

theorem owns_nil (coloring : Coloring ncols) :
    coloring.Owns ([] : List (Fin nrows × Fin ncols)) (.replicate nrows (.replicate _ none)) := by
  intro row color inside column
  simp

/-- One more entry, in a row where its column meets no other of its colour. -/
theorem Owns.append (owns : coloring.Owns seen owner) {row : Fin nrows} {column : Fin ncols}
    (inside : coloring.colors.get column < coloring.count)
    (alone : ∀ other, (owner.get row)[coloring.colors.get column] = some other → other = column) :
    let owners := (owner.get row).set (coloring.colors.get column) (some column) inside
    coloring.Owns (seen ++ [(row, column)]) (owner.set row owners row.isLt) := by
  intro owners row' color inside' column'
  rw [get_set]
  by_cases sameRow : row = row'
  case neg =>
    rw [if_neg sameRow, owns row' color inside' column']
    simp [Ne.symm sameRow]
  case pos =>
    subst sameRow
    rw [if_pos rfl, Vector.getElem_set]
    by_cases sameColor : coloring.colors.get column = color
    case neg =>
      have other : column' = column → coloring.colors.get column' ≠ color := by
        rintro rfl
        exact sameColor
      rw [if_neg sameColor, owns row color inside' column']
      simp only [List.mem_append, List.mem_singleton, Prod.mk.injEq, true_and]
      grind
    case pos =>
      subst sameColor
      rw [if_pos rfl, Option.some_inj]
      constructor
      · rintro rfl
        simp
      · rintro ⟨member, colored⟩
        rcases List.mem_append.1 member with earlier | now
        · exact (alone column' ((owns row _ inside column').2 ⟨earlier, colored⟩)).symm
        · exact (Prod.mk.inj (List.mem_singleton.1 now)).2.symm

/-- Entries with an owner each are separated. -/
theorem Owns.separates (owns : coloring.Owns seen owner)
    (colored : ∀ column, coloring.colors.get column < coloring.count) :
    coloring.Separates seen := by
  rintro left right different same ⟨row, inLeft, inRight⟩
  have ownsLeft := (owns row _ (colored left) left).2 ⟨inLeft, rfl⟩
  have ownsRight := (owns row _ (colored left) right).2 ⟨inRight, same.symm⟩
  exact different (Option.some_inj.1 (ownsLeft.symm.trans ownsRight))

/-- The search answers whenever the colours are in range, and answers rightly. -/
theorem Owns.separates?_eq (owns : coloring.Owns seen owner)
    (colored : ∀ column, coloring.colors.get column < coloring.count)
    (pairs : List (Fin nrows × Fin ncols)) :
    ∃ answer, coloring.separates? pairs owner = some answer ∧
      (answer = true ↔ coloring.Separates (seen ++ pairs)) := by
  induction pairs generalizing seen owner with
  | nil => exact ⟨true, rfl, by simpa using owns.separates colored⟩
  | cons entry rest ih =>
    rcases entry with ⟨row, column⟩
    have inside := colored column
    simp only [separates?, dif_pos inside]
    by_cases met : (owner.get row)[coloring.colors.get column].any (· ≠ column)
    case neg =>
      have alone : ∀ other,
          (owner.get row)[coloring.colors.get column] = some other → other = column := by
        intro other owned
        rw [owned] at met
        simpa using met
      obtain ⟨answer, answers, right⟩ := ih (owns.append inside alone)
      rw [List.append_assoc, List.singleton_append] at right
      exact ⟨answer, by rw [if_neg met, answers], right⟩
    case pos =>
      obtain ⟨other, owned, different⟩ := (Option.any_eq_true _ _).1 met
      obtain ⟨member, same⟩ := (owns row _ inside other).1 owned
      refine ⟨false, if_pos met, iff_of_false Bool.false_ne_true fun separates => ?_⟩
      refine separates other column (by simpa using different) same ⟨row, ?_, ?_⟩
      · exact List.mem_append_left _ member
      · exact List.mem_append_right _ List.mem_cons_self

end Owners

/-- A check of a pattern of the same columns is a search through its entries. -/
theorem validFor?_sparse (coloring : Coloring ncols) (entries : Entries nrows ncols) :
    coloring.validFor? (.sparse nrows ncols entries) =
      coloring.separates? entries.pairs (.replicate nrows (.replicate _ none)) := by
  have same : (Pattern.sparse nrows ncols entries).ncols = ncols := rfl
  rw [validFor?, dif_pos same]
  congr 1
  exact List.map_id _

/-- A colouring is valid for a pattern of its columns exactly if it separates them. -/
theorem validFor?_iff_separates (coloring : Coloring ncols)
    (colored : ∀ column, coloring.colors.get column < coloring.count)
    (entries : Entries nrows ncols) :
    coloring.validFor? (.sparse nrows ncols entries) = some true ↔
      coloring.Separates entries.pairs := by
  obtain ⟨answer, answers, right⟩ := (owns_nil coloring).separates?_eq colored entries.pairs
  rw [validFor?_sparse, answers, Option.some_inj, right, List.nil_append]

/-- A check answers for every pattern: no colour is looked up that is not in use. -/
theorem isSome_validFor? (coloring : Coloring ncols)
    (colored : ∀ column, coloring.colors.get column < coloring.count) (pattern : Pattern) :
    (coloring.validFor? pattern).isSome := by
  rw [validFor?]
  split
  case isTrue same =>
    obtain ⟨answer, answers, -⟩ := (owns_nil coloring).separates?_eq colored
      (pattern.entries.pairs.map fun entry => (entry.1, entry.2.cast same))
    rw [answers]
    rfl
  case isFalse => rfl

/-! ## Compressed matrices -/

section Compression

variable {G D : Type} [AddCommGroup G] {coloring : Coloring ncols}
variable {pairs : List (Fin nrows × Fin ncols)} {offset : Nat}

/-- Sum of the columns of one colour. -/
def colorSum (coloring : Coloring ncols) (matrix : Matrix (Fin nrows) (Fin ncols) G)
    (row : Fin nrows) (color : Nat) : G :=
  ((coloring.columns color).map (matrix row)).sum

/-- A sum to which only one column contributes. -/
theorem colorSum_eq_of_forall_ne {matrix : Matrix (Fin nrows) (Fin ncols) G} {row : Fin nrows}
    {column : Fin ncols}
    (inside : coloring.colors.get column < coloring.count)
    (alone : ∀ other, other ≠ column → coloring.colors.get other = coloring.colors.get column →
      matrix row other = 0) :
    coloring.colorSum matrix row (coloring.colors.get column) = matrix row column := by
  have vanish : ∀ other, other ≠ column →
      other ∈ coloring.columns (coloring.colors.get column) → matrix row other = 0 := by
    intro other different sameColor
    exact alone other different ((mem_columns _ inside _).1 sameColor)
  rw [colorSum, List.sum_map_eq_nsmul_single column _ vanish, count_columns _ inside, if_pos rfl,
    one_nsmul]

/-- A table holds the columns of a matrix summed by colour, below some leading rows. What it holds
in the leading rows, or for numbers that are no colours, is left open. -/
def IsCompressed (coloring : Coloring ncols) (offset : Nat)
    (matrix : Matrix (Fin nrows) (Fin ncols) G) (table : Nat → Nat → G) : Prop :=
  ∀ (row : Fin nrows) (color : Nat), color < coloring.count →
    table (offset + row) color = coloring.colorSum matrix row color

/-- A table that a matrix is compressed to, with leading rows of zeros. -/
def compress (coloring : Coloring ncols) (offset : Nat)
    (matrix : Matrix (Fin nrows) (Fin ncols) G) : Nat → Nat → G :=
  fun position color =>
    if inside : position - offset < nrows then coloring.colorSum matrix ⟨_, inside⟩ color else 0

theorem compress_row (coloring : Coloring ncols) (offset : Nat)
    (matrix : Matrix (Fin nrows) (Fin ncols) G) (row : Fin nrows) (color : Nat) :
    coloring.compress offset matrix (offset + row) color = coloring.colorSum matrix row color := by
  simp [compress]

variable [HDiv G D G] {one : D}

/-- Every matrix that vanishes outside some entries has these read off any table it is compressed
to, all divisors being the same. -/
def IsLossless (coloring : Coloring ncols) (pairs : List (Fin nrows × Fin ncols)) (offset : Nat)
    (G : Type) [AddCommGroup G] [HDiv G D G] (one : D) : Prop :=
  ∀ (matrix : Matrix (Fin nrows) (Fin ncols) G) (table : Nat → Nat → G),
    (∀ row column, (row, column) ∉ pairs → matrix row column = 0) →
    coloring.IsCompressed offset matrix table →
      coloring.decompress pairs table offset (fun _ => one) =
        pairs.map fun entry => matrix entry.1 entry.2

theorem Separates.isLossless (separates : coloring.Separates pairs)
    (colored : ∀ column : Fin ncols, coloring.colors.get column < coloring.count)
    (div_one : ∀ value : G, value / one = value) (offset : Nat) :
    coloring.IsLossless pairs offset G one := by
  intro matrix table vanishes compressed
  refine List.map_congr_left ?_
  rintro ⟨row, column⟩ declared
  have alone : ∀ other, other ≠ column →
      coloring.colors.get other = coloring.colors.get column → matrix row other = 0 := by
    intro other different sameColor
    refine vanishes row other fun declared' => ?_
    exact separates other column different sameColor ⟨row, declared', declared⟩
  calc table (offset + row) (coloring.colors.get column) / one
      = table (offset + row) (coloring.colors.get column) := div_one _
    _ = coloring.colorSum matrix row (coloring.colors.get column) :=
        compressed row _ (colored column)
    _ = matrix row column := colorSum_eq_of_forall_ne (colored column) alone

/-- A matrix with a single entry in one column is spoilt in any other column of the colour that
shares its row. -/
theorem IsLossless.separates [Nontrivial G] (lossless : coloring.IsLossless pairs offset G one)
    (colored : ∀ column : Fin ncols, coloring.colors.get column < coloring.count)
    (div_one : ∀ value : G, value / one = value) : coloring.Separates pairs := by
  rintro left right different sameColor ⟨row, inLeft, inRight⟩
  obtain ⟨value, nonzero⟩ := exists_ne (0 : G)
  have vanishes : ∀ row' column, (row', column) ∉ pairs →
      Matrix.single row left value row' column = 0 := by
    intro row' column undeclared
    refine Matrix.single_apply_of_ne _ _ _ _ _ ?_
    rintro ⟨rfl, rfl⟩
    exact undeclared inLeft
  have read := lossless (Matrix.single row left value)
    (coloring.compress offset (Matrix.single row left value)) vanishes
    fun row color _ => coloring.compress_row offset _ row color
  have spoilt : coloring.compress offset (Matrix.single row left value) (offset + row)
      (coloring.colors.get right) / one = Matrix.single row left value row right :=
    List.map_inj_left.1 read (row, right) inRight
  have sum : coloring.colorSum (Matrix.single row left value) row (coloring.colors.get left) =
      value := by
    rw [colorSum_eq_of_forall_ne (colored left) fun other apart _ =>
      Matrix.single_apply_of_ne _ _ _ _ _ fun same => apart same.2.symm]
    exact Matrix.single_apply_same _ _ _
  rw [div_one, compress_row, ← sameColor, sum,
    Matrix.single_apply_of_ne _ _ _ _ _ fun same => different same.2] at spoilt
  exact nonzero spoilt

end Compression

/-- The check of a colouring made for one pattern decides for any other whether entries are read off
compressed columns without loss. It answers for every pattern, and the colours that it and the
reading look up are in range. -/
theorem validFor_iff_isLossless (pattern : Pattern) {nrows : Nat}
    (entries : Entries nrows pattern.ncols) {G D : Type} [AddCommGroup G] [Nontrivial G]
    [HDiv G D G] {one : D} (div_one : ∀ value : G, value / one = value) (offset : Nat) :
    let coloring := pattern.coloring
    (coloring.validFor? (.sparse nrows pattern.ncols entries) = some true ↔
        coloring.Separates entries.pairs) ∧
      (coloring.validFor? (.sparse nrows pattern.ncols entries) = some true ↔
        coloring.IsLossless entries.pairs offset G one) ∧
      (∀ other : Pattern, other.ncols ≠ pattern.ncols →
        coloring.validFor? other = some false) ∧
      (∀ other : Pattern, (coloring.validFor? other).isSome) ∧
      ∀ column, coloring.colors.get column < coloring.count := by
  intro coloring
  have colored : ∀ column, coloring.colors.get column < coloring.count :=
    fun column => (greedy_firstFit pattern.entries.pairs).color_lt column
  have valid := coloring.validFor?_iff_separates colored entries
  refine ⟨valid, valid.trans ⟨?_, ?_⟩, ?_, coloring.isSome_validFor? colored, colored⟩
  · intro separates
    exact separates.isLossless colored div_one offset
  · intro lossless
    exact lossless.separates colored div_one
  · intro other different
    exact dif_neg different

/-- The columns of a diagonal matrix have one colour. With this colour the entries of a single row
are lost. -/
theorem validFor_iff_isLossless_diagonal :
    let coloring := (Pattern.sparse 2 2 ⟨[(0, 0), (1, 1)], by decide⟩).coloring
    (∀ value : ℤ, value / 1 = value) ∧
      coloring.IsLossless ([(0, 0), (1, 1)] : List (Fin 2 × Fin 2)) 1 ℤ (1 : ℤ) ∧
      ¬coloring.IsLossless ([(0, 0), (0, 1)] : List (Fin 2 × Fin 2)) 1 ℤ (1 : ℤ) := by
  intro coloring
  let diagonal : Entries 2 2 := ⟨[(0, 0), (1, 1)], by decide⟩
  let row : Entries 2 2 := ⟨[(0, 0), (0, 1)], by decide⟩
  have onDiagonal := validFor_iff_isLossless (.sparse 2 2 diagonal) diagonal Int.ediv_one 1
  have onRow := validFor_iff_isLossless (.sparse 2 2 diagonal) row Int.ediv_one 1
  refine ⟨Int.ediv_one, onDiagonal.2.1.1 (by cbv), ?_⟩
  intro lossless
  have valid := onRow.2.1.2 lossless
  have refused : coloring.validFor? (.sparse 2 2 row) = some false := by cbv
  exact absurd (valid.symm.trans refused) (by decide)

end Coloring

end NonlinearProgram
