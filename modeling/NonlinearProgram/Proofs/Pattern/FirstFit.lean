import NonlinearProgram.Pattern.Coloring
import NonlinearProgram.Proofs.Vectors

/-!
# First-fit colouring

`Coloring.greedy` colours the columns of any pattern one by one. The invariant of a partial run,
`Partial.Proper`, relates the columns visited so far, their colours and the number of colours; each
visit preserves it. A finished run is a first-fit colouring: columns that share a row are told
apart, and a column has the colour it has because every smaller one was taken by such a column.

The number of colours is bounded by the number of columns, and by one more than the largest number
of other columns that a column shares a row with.
-/

namespace NonlinearProgram

theorem get_gather {α : Type} {size : Nat} (pairs : List (Fin size × α)) (key : Fin size) :
    (gather pairs).get key = (pairs.filter fun pair => pair.1 == key).map Prod.snd := by
  induction pairs with
  | nil => simp [gather]
  | cons first rest ih =>
    rw [gather] at ih ⊢
    rw [List.foldr_cons, get_set]
    by_cases same : first.1 = key
    · simp [same, ← ih]
    · simp [same, ← ih]

namespace Incidence

variable {nrows ncols : Nat}

theorem mem_rows (pairs : List (Fin nrows × Fin ncols)) (row : Fin nrows) (column : Fin ncols) :
    row ∈ (ofPairs pairs).rows.get column ↔ (row, column) ∈ pairs := by
  rw [ofPairs, get_gather]
  simp

theorem mem_columns (pairs : List (Fin nrows × Fin ncols)) (row : Fin nrows)
    (column : Fin ncols) : column ∈ (ofPairs pairs).columns.get row ↔ (row, column) ∈ pairs := by
  rw [ofPairs, get_gather]
  simp

end Incidence

namespace Coloring

variable {nrows ncols : Nat}

/-- Two columns have an entry in one row. -/
def ShareRow (pairs : List (Fin nrows × Fin ncols)) (left right : Fin ncols) : Prop :=
  ∃ row, (row, left) ∈ pairs ∧ (row, right) ∈ pairs

instance (pairs : List (Fin nrows × Fin ncols)) : DecidableRel (ShareRow pairs) :=
  fun left right => inferInstanceAs (Decidable (∃ row, (row, left) ∈ pairs ∧ (row, right) ∈ pairs))

theorem ShareRow.symm {pairs : List (Fin nrows × Fin ncols)} {left right : Fin ncols}
    (shared : ShareRow pairs left right) : ShareRow pairs right left := by
  rcases shared with ⟨row, inLeft, inRight⟩
  exact ⟨row, inRight, inLeft⟩

/-- The other columns that a column shares a row with. -/
def neighbors (pairs : List (Fin nrows × Fin ncols)) (column : Fin ncols) : Finset (Fin ncols) :=
  Finset.univ.filter fun other => other ≠ column ∧ ShareRow pairs column other

/-- The colours barred to a column are those of the columns that it shares a row with. -/
theorem mem_forbidden (pairs : List (Fin nrows × Fin ncols)) (colors : Vector (Option Nat) ncols)
    (column : Fin ncols) (color : Nat) :
    color ∈ forbidden (.ofPairs pairs) colors column ↔
      ∃ other, ShareRow pairs column other ∧ colors.get other = some color := by
  simp only [forbidden, List.mem_flatMap, List.mem_filterMap, Incidence.mem_rows,
    Incidence.mem_columns, ShareRow]
  constructor
  · rintro ⟨row, inColumn, other, inOther, colored⟩
    exact ⟨other, ⟨row, inColumn, inOther⟩, colored⟩
  · rintro ⟨other, ⟨row, inColumn, inOther⟩, colored⟩
    exact ⟨row, inColumn, other, inOther, colored⟩

/-! ## A run, column by column -/

namespace Partial

/-- The colours given when some columns have been visited. -/
def after (pairs : List (Fin nrows × Fin ncols)) (visited : List (Fin ncols)) : Partial ncols :=
  visited.foldl (Partial.visit (.ofPairs pairs)) ⟨.replicate ncols none, 0⟩

/-- Colour that the next column receives. -/
def next (pairs : List (Fin nrows × Fin ncols)) (state : Partial ncols) (column : Fin ncols) :
    Nat :=
  firstUnused state.count (forbidden (.ofPairs pairs) state.colors column)

@[simp] theorem visit_count (pairs : List (Fin nrows × Fin ncols)) (state : Partial ncols)
    (column : Fin ncols) :
    (state.visit (.ofPairs pairs) column).count = max state.count (next pairs state column + 1) :=
  rfl

theorem get_visit (pairs : List (Fin nrows × Fin ncols)) (state : Partial ncols)
    (column other : Fin ncols) :
    (state.visit (.ofPairs pairs) column).colors.get other =
      if column = other then some (next pairs state column) else state.colors.get other := by
  rw [visit, get_set, next]

/-- First-fit so far: the visited columns are the coloured ones, and their colours are used from
zero on, tell columns that share a row apart, and are the least possible. -/
structure Proper (pairs : List (Fin nrows × Fin ncols)) (visited : List (Fin ncols))
    (state : Partial ncols) : Prop where
  colored_iff : ∀ column : Fin ncols,
    (∃ color, state.colors.get column = some color) ↔ column ∈ visited
  color_lt : ∀ {column : Fin ncols} {color}, state.colors.get column = some color →
    color < state.count
  separates : ∀ {left right : Fin ncols} {color}, left ≠ right → ShareRow pairs left right →
    state.colors.get left = some color → state.colors.get right ≠ some color
  filled : ∀ {column : Fin ncols} {color}, state.colors.get column = some color → ∀ lower < color,
    ∃ other, ShareRow pairs column other ∧ state.colors.get other = some lower
  used : ∀ color < state.count, ∃ column : Fin ncols, state.colors.get column = some color

theorem Proper.start (pairs : List (Fin nrows × Fin ncols)) :
    Proper pairs [] ⟨.replicate ncols none, 0⟩ where
  colored_iff := by simp
  color_lt := by simp
  separates := by simp
  filled := by simp
  used := by simp

/-- No colour that is looked up when the next column is coloured is out of range. -/
theorem Proper.forbidden_lt {pairs : List (Fin nrows × Fin ncols)} {visited : List (Fin ncols)}
    {state : Partial ncols} (proper : Proper pairs visited state) (column : Fin ncols) {color : Nat}
    (barred : color ∈ forbidden (.ofPairs pairs) state.colors column) : color < state.count := by
  rcases (mem_forbidden pairs state.colors column color).1 barred with ⟨other, _, colored⟩
  exact proper.color_lt colored

/-- The next colour differs from those of the columns that share a row with the next column. -/
theorem Proper.next_fresh {pairs : List (Fin nrows × Fin ncols)} {visited : List (Fin ncols)}
    {state : Partial ncols} (proper : Proper pairs visited state) {column other : Fin ncols}
    (shared : ShareRow pairs column other) :
    state.colors.get other ≠ some (next pairs state column) := by
  intro colored
  have below : next pairs state column < state.count := proper.color_lt colored
  exact firstUnused_not_mem below
    ((mem_forbidden pairs state.colors column _).2 ⟨other, shared, colored⟩)

/-- Every smaller colour is taken by a column that shares a row with the next column. -/
theorem exists_of_lt_next {pairs : List (Fin nrows × Fin ncols)} {state : Partial ncols}
    {column : Fin ncols} {lower : Nat} (below : lower < next pairs state column) :
    ∃ other, ShareRow pairs column other ∧ state.colors.get other = some lower :=
  (mem_forbidden pairs state.colors column lower).1 (mem_of_lt_firstUnused below)

/-- The next colour is used already or the first one that is not. -/
theorem next_le (pairs : List (Fin nrows × Fin ncols)) (state : Partial ncols)
    (column : Fin ncols) : next pairs state column ≤ state.count :=
  firstUnused_le _ _

/-- A visit of a column that has no colour yet leaves every colour given before. -/
theorem Proper.kept {pairs : List (Fin nrows × Fin ncols)} {visited : List (Fin ncols)}
    {state : Partial ncols} (proper : Proper pairs visited state) {column other : Fin ncols}
    (fresh : column ∉ visited) {color : Nat} (colored : state.colors.get other = some color) :
    (state.visit (.ofPairs pairs) column).colors.get other = some color := by
  have different : column ≠ other := by
    rintro rfl
    exact fresh ((proper.colored_iff column).1 ⟨color, colored⟩)
  rw [get_visit, if_neg different, colored]

/-- A visit of one more column keeps a partial run first-fit. -/
theorem Proper.visit {pairs : List (Fin nrows × Fin ncols)} {visited : List (Fin ncols)}
    {state : Partial ncols} (proper : Proper pairs visited state) {column : Fin ncols}
    (fresh : column ∉ visited) :
    Proper pairs (visited ++ [column]) (state.visit (.ofPairs pairs) column) where
  colored_iff other := by
    rw [get_visit, List.mem_append, List.mem_singleton]
    by_cases same : column = other
    · simp [same]
    · rw [if_neg same, proper.colored_iff]
      exact ⟨Or.inl, fun member => member.resolve_right (Ne.symm same)⟩
  color_lt {other color} colored := by
    rw [get_visit] at colored
    rw [visit_count]
    split at colored
    · cases colored
      omega
    · have := proper.color_lt colored
      omega
  separates {left right color} different shared colored := by
    rw [get_visit] at colored ⊢
    by_cases isLeft : column = left
    · rw [if_pos isLeft] at colored
      rw [if_neg (isLeft ▸ different), ← colored]
      exact proper.next_fresh (isLeft ▸ shared)
    · rw [if_neg isLeft] at colored
      split
      case isTrue isRight =>
        rw [← colored]
        exact (proper.next_fresh (isRight ▸ shared.symm)).symm
      case isFalse => exact proper.separates different shared colored
  filled {other color} colored lower below := by
    rw [get_visit] at colored
    split at colored
    case isTrue same =>
      cases colored
      rcases exists_of_lt_next below with ⟨taken, shared, known⟩
      exact ⟨taken, same ▸ shared, proper.kept fresh known⟩
    case isFalse =>
      rcases proper.filled colored lower below with ⟨taken, shared, known⟩
      exact ⟨taken, shared, proper.kept fresh known⟩
  used color below := by
    rw [visit_count] at below
    by_cases known : color < state.count
    · rcases proper.used color known with ⟨other, colored⟩
      exact ⟨other, proper.kept fresh colored⟩
    · -- The number of colours grows only if the new colour is the one it was before.
      have isNext : color = next pairs state column := by
        have := next_le pairs state column
        omega
      exact ⟨column, by rw [get_visit, if_pos rfl, isNext]⟩

/-- Every partial run is first-fit. -/
theorem Proper.after {pairs : List (Fin nrows × Fin ncols)} {visited : List (Fin ncols)}
    (distinct : visited.Nodup) : Proper pairs visited (after pairs visited) := by
  induction visited using List.reverseRecOn with
  | nil => exact .start pairs
  | append_singleton visited column ih =>
      have parts := List.nodup_append.1 distinct
      have fresh : column ∉ visited := fun member =>
        parts.2.2 column member column (List.mem_singleton_self column) rfl
      rw [Partial.after, List.foldl_append]
      exact (ih parts.1).visit fresh

end Partial

/-! ## A finished run -/

theorem visitOrder_perm (entries : Incidence nrows ncols) :
    (visitOrder entries).Perm (List.finRange ncols) :=
  List.mergeSort_perm _ _

theorem nodup_visitOrder (entries : Incidence nrows ncols) : (visitOrder entries).Nodup :=
  (visitOrder_perm entries).nodup_iff.2 (List.nodup_finRange ncols)

theorem mem_visitOrder (entries : Incidence nrows ncols) (column : Fin ncols) :
    column ∈ visitOrder entries :=
  (visitOrder_perm entries).mem_iff.2 (List.mem_finRange column)

/-- First-fit for a pattern: colours are used from zero on, tell columns that share a row apart, and
are the least possible. -/
structure FirstFit (pairs : List (Fin nrows × Fin ncols)) (coloring : Coloring ncols) : Prop where
  color_lt : ∀ column : Fin ncols, coloring.colors.get column < coloring.count
  separates : ∀ {left right : Fin ncols}, left ≠ right → ShareRow pairs left right →
    coloring.colors.get left ≠ coloring.colors.get right
  filled : ∀ column : Fin ncols, ∀ lower < coloring.colors.get column,
    ∃ other, ShareRow pairs column other ∧ coloring.colors.get other = lower
  used : ∀ color < coloring.count, ∃ column : Fin ncols, coloring.colors.get column = color

/-- The colouring of a run that has visited every column. -/
theorem Partial.Proper.finish {pairs : List (Fin nrows × Fin ncols)} {visited : List (Fin ncols)}
    {state : Partial ncols} (proper : Proper pairs visited state)
    (complete : ∀ column, column ∈ visited) :
    FirstFit pairs ⟨state.colors.map (·.getD 0), state.count⟩ := by
  have colored (column : Fin ncols) :
      state.colors.get column = some ((state.colors.map (·.getD 0)).get column) := by
    rcases (proper.colored_iff column).2 (complete column) with ⟨color, known⟩
    rw [Vector.get_eq_getElem] at known
    simp [known]
  constructor
  · intro column
    exact proper.color_lt (colored column)
  · intro left right different shared same
    exact proper.separates different shared (colored left) (same ▸ colored right)
  · intro column lower below
    rcases proper.filled (colored column) lower below with ⟨other, shared, known⟩
    exact ⟨other, shared, Option.some.inj ((colored other).symm.trans known)⟩
  · intro color below
    rcases proper.used color below with ⟨column, known⟩
    exact ⟨column, Option.some.inj ((colored column).symm.trans known)⟩

/-- Colouring greedily is first-fit, for any list of entries. -/
theorem greedy_firstFit (pairs : List (Fin nrows × Fin ncols)) : FirstFit pairs (greedy pairs) :=
  (Partial.Proper.after (nodup_visitOrder (.ofPairs pairs))).finish (mem_visitOrder _)

/-! ## Numbers of colours -/

namespace FirstFit

variable {pairs : List (Fin nrows × Fin ncols)} {coloring : Coloring ncols}

/-- There are at most as many colours as columns. -/
theorem count_le (fit : FirstFit pairs coloring) : coloring.count ≤ ncols := by
  have covered : Finset.range coloring.count ⊆
      Finset.univ.image fun column : Fin ncols => coloring.colors.get column := by
    intro color member
    rcases fit.used color (Finset.mem_range.1 member) with ⟨column, colored⟩
    exact Finset.mem_image.2 ⟨column, Finset.mem_univ column, colored⟩
  calc coloring.count = (Finset.range coloring.count).card := (Finset.card_range _).symm
    _ ≤ _ := Finset.card_le_card covered
    _ ≤ (Finset.univ : Finset (Fin ncols)).card := Finset.card_image_le
    _ = ncols := Finset.card_fin ncols

/-- There is no colour exactly if there is no column. -/
theorem count_eq_zero_iff (fit : FirstFit pairs coloring) : coloring.count = 0 ↔ ncols = 0 := by
  constructor
  · intro empty
    by_contra some
    have := fit.color_lt ⟨0, Nat.pos_of_ne_zero some⟩
    omega
  · intro empty
    have := fit.count_le
    omega

/-- Below the colour of a column there are as many columns that it shares a row with. -/
theorem color_le_degree (fit : FirstFit pairs coloring) (column : Fin ncols) :
    coloring.colors.get column ≤ (neighbors pairs column).card := by
  have covered : Finset.range (coloring.colors.get column) ⊆
      (neighbors pairs column).image fun other => coloring.colors.get other := by
    intro lower member
    have below := Finset.mem_range.1 member
    rcases fit.filled column lower below with ⟨other, shared, colored⟩
    have different : other ≠ column := by
      rintro rfl
      omega
    exact Finset.mem_image.2 ⟨other, by simp [neighbors, different, shared], colored⟩
  calc coloring.colors.get column = (Finset.range (coloring.colors.get column)).card :=
        (Finset.card_range _).symm
    _ ≤ _ := Finset.card_le_card covered
    _ ≤ (neighbors pairs column).card := Finset.card_image_le

/-- There is at most one colour more than other columns that some column shares a row with. -/
theorem count_le_degree (fit : FirstFit pairs coloring) :
    coloring.count ≤ 1 + Finset.univ.sup fun column => (neighbors pairs column).card := by
  by_cases empty : coloring.count = 0
  · omega
  · -- A column of the last colour has neighbours of all the others.
    rcases fit.used (coloring.count - 1) (by omega) with ⟨column, last⟩
    have few := fit.color_le_degree column
    have most : (neighbors pairs column).card ≤
        Finset.univ.sup fun column => (neighbors pairs column).card :=
      Finset.le_sup (f := fun column => (neighbors pairs column).card) (Finset.mem_univ column)
    omega

end FirstFit

/-! ## Groups -/

/-- Filling groups appends to each the values that belong there, in order. -/
theorem getElem?_foldl_modify_push {α : Type} (key : α → Nat) (values : List α)
    (groups : Array (Array α)) (index : Nat) :
    (values.foldl (fun groups value => groups.modify (key value) (·.push value)) groups)[index]? =
      groups[index]?.map (· ++ (values.filter fun value => key value == index).toArray) := by
  induction values generalizing groups with
  | nil => simp
  | cons value rest ih =>
    rw [List.foldl_cons, ih, Array.getElem?_modify]
    by_cases same : key value = index
    · rw [if_pos same, Option.map_map, List.filter_cons_of_pos (by simpa using same)]
      congr 1
      funext group
      simp
    · rw [if_neg same, List.filter_cons_of_neg (by simpa using same)]

theorem groups_eq (coloring : Coloring ncols) :
    coloring.groups = (List.range coloring.count).map fun color =>
      (List.finRange ncols).filter fun column => coloring.colors.get column == color := by
  refine List.ext_getElem? fun index => ?_
  rw [groups, List.getElem?_map, Array.getElem?_toList, getElem?_foldl_modify_push,
    Array.getElem?_replicate, List.getElem?_map]
  by_cases inside : index < coloring.count
  · simp [inside]
  · simp [inside]

theorem columns_eq (coloring : Coloring ncols) {color : Nat} (inside : color < coloring.count) :
    coloring.columns color =
      (List.finRange ncols).filter fun column => coloring.colors.get column == color := by
  simp [columns, groups_eq, inside]

/-- A column stands in the group of its own colour, once, and in no other. -/
theorem count_columns (coloring : Coloring ncols) {color : Nat} (inside : color < coloring.count)
    (column : Fin ncols) :
    (coloring.columns color).count column =
      if coloring.colors.get column = color then 1 else 0 := by
  rw [coloring.columns_eq inside, ((List.nodup_finRange ncols).filter _).count]
  simp

theorem mem_columns (coloring : Coloring ncols) {color : Nat} (inside : color < coloring.count)
    (column : Fin ncols) :
    column ∈ coloring.columns color ↔ coloring.colors.get column = color := by
  simp [coloring.columns_eq inside]

/-- The groups divide the columns: there is one for each colour, it is not empty, and it lists the
columns of its colour in ascending order, each once. -/
structure Partitions (coloring : Coloring ncols) : Prop where
  length_groups : coloring.groups.length = coloring.count
  count_group : ∀ color (inside : color < coloring.groups.length) (column : Fin ncols),
    coloring.groups[color].count column = if coloring.colors.get column = color then 1 else 0
  ascending : ∀ group ∈ coloring.groups, group.Pairwise (· < ·)
  nonempty : ∀ group ∈ coloring.groups, group ≠ []

theorem FirstFit.partitions {pairs : List (Fin nrows × Fin ncols)} {coloring : Coloring ncols}
    (fit : FirstFit pairs coloring) : coloring.Partitions where
  length_groups := by simp [groups_eq]
  count_group color inside column := by
    have below : color < coloring.count := by simpa [groups_eq] using inside
    have counted := coloring.count_columns below column
    rwa [columns, List.getElem?_eq_getElem inside, Option.getD_some] at counted
  ascending group member := by
    rw [groups_eq] at member
    rcases List.mem_map.1 member with ⟨color, _, rfl⟩
    exact (List.pairwise_lt_finRange ncols).filter _
  nonempty group member := by
    rw [groups_eq] at member
    rcases List.mem_map.1 member with ⟨color, inside, rfl⟩
    rcases fit.used color (List.mem_range.1 inside) with ⟨column, colored⟩
    exact List.ne_nil_of_mem
      (List.mem_filter.2 ⟨List.mem_finRange column, beq_iff_eq.2 colored⟩)

/-- The colouring of a pattern is first-fit, its groups divide the columns, and the number of
colours is bounded by the columns and by their degrees. On the way no colour is looked up that is
not in use. -/
theorem firstFit_partitions_count_le (pattern : Pattern) :
    let pairs := pattern.entries.pairs
    let coloring := pattern.coloring
    FirstFit pairs coloring ∧ coloring.Partitions ∧
      (coloring.count = 0 ↔ pattern.ncols = 0) ∧ coloring.count ≤ pattern.ncols ∧
      coloring.count ≤ 1 + (Finset.univ.sup fun column => (neighbors pairs column).card) ∧
      ∀ visited column rest, visitOrder (.ofPairs pairs) = visited ++ column :: rest →
        ∀ color ∈ forbidden (.ofPairs pairs) (Partial.after pairs visited).colors column,
          color < (Partial.after pairs visited).count := by
  intro pairs coloring
  have fit : FirstFit pairs coloring := greedy_firstFit pairs
  refine ⟨fit, fit.partitions, fit.count_eq_zero_iff, fit.count_le, fit.count_le_degree, ?_⟩
  intro visited column rest order color barred
  have distinct : visited.Nodup := by
    have all := nodup_visitOrder (.ofPairs pairs)
    rw [order] at all
    exact (List.nodup_append.1 all).1
  exact (Partial.Proper.after distinct).forbidden_lt column barred

end Coloring

end NonlinearProgram
