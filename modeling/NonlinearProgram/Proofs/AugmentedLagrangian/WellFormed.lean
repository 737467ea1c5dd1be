import NonlinearProgram.Proofs.AugmentedLagrangian.AcceptedCall
import NonlinearProgram.Proofs.Setup
import NonlinearProgram.Proofs.Solver.InfiniteBound

/-!
# Well-formed calls

A call describes a program exactly when its lists have the lengths of the problem, its indices count
from one to these lengths, no pair of bounds is crossed, and its coefficients and its starting point
are finite, `EngineCall.isSome_program?_iff`. The bounds of an accepted program are in order: no
lower bound exceeds its upper bound once infinities are restored.
-/

namespace NonlinearProgram

namespace AugmentedLagrangian

variable {n nf neg : Nat}

theorem sized?_of_size {α : Type} {values : Array α} (same : values.size = n) :
    sized? n values = some ⟨values, same⟩ :=
  dif_pos same

theorem isSome_sized?_iff {α : Type} {values : Array α} :
    (sized? n values).isSome ↔ values.size = n := by
  rw [sized?]
  split <;> simp [*]

/-- An index that counts from one lies within a length. -/
def IsPosition (n : Nat) (index : Int) : Prop := 1 ≤ index ∧ index ≤ n

theorem isSome_position?_iff {index : Int} :
    (position? n index).isSome ↔ IsPosition n index := by
  rw [position?, IsPosition]
  split <;> simp [*]

theorem isSome_cell?_iff {indices : Int × Int} :
    (cell? nf n indices).isSome ↔ IsPosition nf indices.1 ∧ IsPosition n indices.2 := by
  rw [← isSome_position?_iff, ← isSome_position?_iff, cell?]
  cases position? nf indices.1 <;> cases position? n indices.2 <;> simp

/-- A traversal succeeds where each of its steps does. -/
theorem isSome_mapM_iff {α β : Type} {find : α → Option β} {values : List α} :
    (values.mapM find).isSome ↔ ∀ value ∈ values, (find value).isSome := by
  induction values with
  | nil => simp
  | cons value rest ih =>
      rw [List.mapM_cons, List.forall_mem_cons, ← ih]
      cases find value <;> cases rest.mapM find <;> simp

theorem forall_mem_zip_fst {α β : Type} {left : List α} {right : List β} {P : α → Prop}
    (fits : left.length ≤ right.length) :
    (∀ pair ∈ left.zip right, P pair.1) ↔ ∀ value ∈ left, P value := by
  conv_rhs => rw [← List.map_fst_zip fits]
  exact List.forall_mem_map.symm

theorem forall_mem_zip_snd {α β : Type} {left : List α} {right : List β} {P : β → Prop}
    (fits : right.length ≤ left.length) :
    (∀ pair ∈ left.zip right, P pair.2) ↔ ∀ value ∈ right, P value := by
  conv_rhs => rw [← List.map_snd_zip fits]
  exact List.forall_mem_map.symm

theorem isSome_mapM_toList {α β : Type} {find : α → Option β} {values : Vector α n} :
    (values.mapM find).isSome ↔ ∀ value ∈ values.toList, (find value).isSome := by
  have converted : Vector.toArray <$> values.mapM find =
      List.toArray <$> values.toList.mapM find := by
    rw [Vector.toArray_mapM, Array.mapM_eq_mapM_toList, Vector.toList_toArray]
  have both := congrArg Option.isSome converted
  rw [← isSome_mapM_iff, ← Option.isSome_map, ← Option.map_eq_map, both, Option.map_eq_map,
    Option.isSome_map]

theorem isSome_cells_iff {rows columns : Vector Int neg} :
    (∀ cell ∈ (rows.zip columns).toList, (cell? nf n cell).isSome) ↔
      (∀ row ∈ rows.toList, IsPosition nf row) ∧
        ∀ column ∈ columns.toList, IsPosition n column := by
  have same : rows.toList.length = columns.toList.length := by simp
  simp only [isSome_cell?_iff, Vector.toList_zip, forall₂_and]
  exact and_congr (forall_mem_zip_fst same.le) (forall_mem_zip_snd same.ge)

variable {R : Type} [Arith R]

theorem isSome_bounds?_iff {lower upper : Array R} :
    (bounds? n lower upper).isSome ↔ AreBounds n lower upper := by
  constructor
  · intro paired
    obtain ⟨pair, isPair⟩ := Option.isSome_iff_exists.1 paired
    simp only [bounds?, Option.bind_eq_bind, Option.bind_eq_some_iff] at isPair
    obtain ⟨low, isLow, high, isHigh, isPair⟩ := isPair
    split at isPair
    case isTrue => cases isPair
    case isFalse ordered =>
      have known : ∀ pair ∈ (low.zip high).toList, crossed pair.1 pair.2 = false := by
        simpa using ordered
      cases sized?_eq_some isLow
      cases sized?_eq_some isHigh
      exact ⟨low.size_toArray, high.size_toArray, by simpa [Vector.toList_toArray] using known⟩
  · rintro ⟨lowerSize, upperSize, ordered⟩
    have uncrossed : (((⟨lower, lowerSize⟩ : Vector R n).zip ⟨upper, upperSize⟩).toList.any
        fun pair => crossed pair.1 pair.2) = false := by
      simpa using ordered
    simp only [bounds?, sized?_of_size lowerSize, sized?_of_size upperSize, Option.bind_eq_bind,
      Option.bind_some]
    rw [if_neg]
    · rfl
    · exact ne_true_of_eq_false uncrossed

end AugmentedLagrangian

namespace EngineCall

open AugmentedLagrangian

variable {R : Type} [Arith R] {n nf neg : Nat}

/-- Everything about a call that is checked before it is described by a program. -/
structure IsWellFormed (call : EngineCall R n nf neg) : Prop where
  nonempty : n ≠ 0
  objective : IsPosition nf call.objectiveRow
  state : call.state.Fits n nf
  xBounds : AreBounds n call.xLower call.xUpper
  fBounds : AreBounds nf call.fLower call.fUpper
  columns : call.columns.size = neg
  linearRows : call.linearRows.size = call.linear.size
  linearColumns : call.linearColumns.size = call.linear.size
  linear : ∀ coefficient ∈ call.linear.toList, Arith.isFinite coefficient
  linearRowsInside : ∀ row ∈ call.linearRows.toList, IsPosition nf row
  linearColumnsInside : ∀ column ∈ call.linearColumns.toList, IsPosition n column
  rowsInside : ∀ row ∈ call.rows.toList, IsPosition nf row
  columnsInside : ∀ column ∈ call.columns.toList, IsPosition n column
  xNames : namesFit n call.xNames
  fNames : namesFit nf call.fNames
  start : ∀ value ∈ call.state.x.toList, Arith.isFinite value

variable {call : EngineCall R n nf neg}

theorem isSome_linear?_iff :
    call.linear?.isSome ↔ call.linearRows.size = call.linear.size ∧
      call.linearColumns.size = call.linear.size ∧
      (∀ coefficient ∈ call.linear.toList, Arith.isFinite coefficient) ∧
      (∀ row ∈ call.linearRows.toList, IsPosition nf row) ∧
      ∀ column ∈ call.linearColumns.toList, IsPosition n column := by
  by_cases rowsSize : call.linearRows.size = call.linear.size
  · by_cases columnsSize : call.linearColumns.size = call.linear.size
    · simp only [linear?, sized?_of_size rowsSize, sized?_of_size columnsSize, Option.bind_eq_bind,
        Option.bind_some, rowsSize, columnsSize, true_and]
      split
      case isTrue infinite =>
        simp only [any_not_isFinite.1 infinite, Option.isSome_none, Bool.false_eq_true, false_and]
      case isFalse finite =>
        have finite := not_not.1 (mt any_not_isFinite.2 finite)
        -- The coefficients have been looked at, so that only the cells are left to read.
        have cells : (∀ term ∈ ((⟨call.linearRows, rowsSize⟩ : Vector Int _).zip
            ⟨call.linearColumns, columnsSize⟩).toList.zip call.linear.toList,
            (cell? nf n term.1).isSome) ↔ _ :=
          (forall_mem_zip_fst (by simp [rowsSize])).trans isSome_cells_iff
        rw [isSome_mapM_iff, and_iff_right finite]
        refine Iff.trans (forall₂_congr ?_) cells
        intro term _
        cases cell? nf n term.1 <;> rfl
    · simp [linear?, sized?, columnsSize]
  · simp [linear?, sized?, rowsSize]

theorem isSome_program?_iff : call.program?.isSome ↔ call.IsWellFormed := by
  constructor
  · intro described
    obtain ⟨program, described⟩ := Option.isSome_iff_exists.1 described
    rw [program?] at described
    split at described
    case isTrue => cases described
    case isFalse nonempty =>
      simp only [Option.bind_eq_bind, Option.bind_eq_some_iff] at described
      obtain ⟨objective, isObjective, x, isX, xState, isXState, xMul, isXMul, xBounds, isXBounds, f,
        isF, fState, isFState, fMul, isFMul, fBounds, isFBounds, columns, isColumns, linear,
        isLinear, entries, isEntries, described⟩ := described
      have sizeOf : ∀ {α : Type} {size : Nat} {values : Array α} {vector : Vector α size},
          sized? size values = some vector → values.size = size :=
        fun sized => isSome_sized?_iff.1 (Option.isSome_of_eq_some sized)
      split at described
      case isTrue => cases described
      case isFalse names =>
        split at described
        case isTrue => cases described
        case isFalse finite =>
          obtain ⟨linearRows, linearColumns, coefficients, linearRowsInside, linearColumnsInside⟩ :=
            isSome_linear?_iff.1 (Option.isSome_of_eq_some isLinear)
          obtain ⟨rowsInside, columnsInside⟩ :=
            isSome_cells_iff.1 (isSome_mapM_toList.1 (Option.isSome_of_eq_some isEntries))
          rw [← Vector.toList_toArray, sized?_eq_some isColumns] at columnsInside
          rw [Bool.or_eq_true, not_or, Bool.not_eq_true', Bool.not_eq_true', Bool.not_eq_false,
            Bool.not_eq_false] at names
          exact
            { nonempty
              objective := isSome_position?_iff.1 (Option.isSome_of_eq_some isObjective)
              state := ⟨sizeOf isX, sizeOf isXState, sizeOf isXMul, sizeOf isF, sizeOf isFState,
                sizeOf isFMul⟩
              xBounds := isSome_bounds?_iff.1 (Option.isSome_of_eq_some isXBounds)
              fBounds := isSome_bounds?_iff.1 (Option.isSome_of_eq_some isFBounds)
              columns := sizeOf isColumns
              linearRows
              linearColumns
              linear := coefficients
              linearRowsInside
              linearColumnsInside
              rowsInside
              columnsInside
              xNames := names.1
              fNames := names.2
              start := by
                rw [← sized?_eq_some isX]
                exact not_not.1 (mt any_not_isFinite.2 finite) }
  · intro wellFormed
    obtain ⟨objective, isObjective⟩ :=
      Option.isSome_iff_exists.1 (isSome_position?_iff.2 wellFormed.objective)
    obtain ⟨xBounds, isXBounds⟩ :=
      Option.isSome_iff_exists.1 (isSome_bounds?_iff.2 wellFormed.xBounds)
    obtain ⟨fBounds, isFBounds⟩ :=
      Option.isSome_iff_exists.1 (isSome_bounds?_iff.2 wellFormed.fBounds)
    obtain ⟨linear, isLinear⟩ := Option.isSome_iff_exists.1 (isSome_linear?_iff.2
      ⟨wellFormed.linearRows, wellFormed.linearColumns, wellFormed.linear,
        wellFormed.linearRowsInside, wellFormed.linearColumnsInside⟩)
    have cells : ∀ cell ∈ (call.rows.zip ⟨call.columns, wellFormed.columns⟩).toList,
        (cell? nf n cell).isSome :=
      isSome_cells_iff.2 ⟨wellFormed.rowsInside, wellFormed.columnsInside⟩
    obtain ⟨entries, isEntries⟩ := Option.isSome_iff_exists.1 (isSome_mapM_toList.2 cells)
    have names : (!namesFit n call.xNames || !namesFit nf call.fNames) = false := by
      rw [wellFormed.xNames, wellFormed.fNames]
      rfl
    have finite := mt any_not_isFinite.1 (not_not_intro wellFormed.start)
    simp only [program?, if_neg wellFormed.nonempty, isObjective, isXBounds, isFBounds,
      sized?_of_size wellFormed.state.x, sized?_of_size wellFormed.state.xState,
      sized?_of_size wellFormed.state.xMul, sized?_of_size wellFormed.state.f,
      sized?_of_size wellFormed.state.fState, sized?_of_size wellFormed.state.fMul,
      sized?_of_size wellFormed.columns, isLinear, isEntries, names, Option.bind_eq_bind,
      Option.bind_some]
    rw [if_neg Bool.false_ne_true, if_neg]
    · rfl
    · exact finite

/-! ## Acceptance -/

/-- A warm start brings a number of superbasic variables that does not fit. -/
def HasBadBasis (call : EngineCall R n nf neg) : Prop :=
  call.mode = .warm ∧ ¬(0 ≤ call.state.superbasics ∧ call.state.superbasics ≤ n)

theorem accept_of_not_isWellFormed (malformed : ¬call.IsWellFormed) :
    call.accept = .error .invalidInput := by
  rw [← isSome_program?_iff, Option.not_isSome_iff_eq_none] at malformed
  rw [accept, malformed]

theorem accept_of_hasBadBasis (wellFormed : call.IsWellFormed) (bad : call.HasBadBasis) :
    call.accept = .error .badBasis := by
  obtain ⟨program, described⟩ := Option.isSome_iff_exists.1 (isSome_program?_iff.2 wellFormed)
  simp only [accept, described]
  exact if_pos bad

theorem exists_accept_eq_ok (wellFormed : call.IsWellFormed) (good : ¬call.HasBadBasis)
    (stored : checkStorage call.workspace call.storageRequest = none) :
    ∃ program, call.accept = .ok program := by
  obtain ⟨program, described⟩ := Option.isSome_iff_exists.1 (isSome_program?_iff.2 wellFormed)
  refine ⟨program, ?_⟩
  simp only [accept, described, stored]
  exact if_neg good

theorem program?_of_accept {program : Program R n nf neg} (accepted : call.accept = .ok program) :
    call.program? = some program := by
  rcases described : call.program? with _ | program'
  · simp [accept, described] at accepted
  · simp only [accept, described] at accepted
    split at accepted
    case isTrue => cases accepted
    case isFalse => split at accepted <;> cases accepted; rfl

end EngineCall

namespace AugmentedLagrangian

variable {R : Type} [Arith R] {n nf neg : Nat}

/-- No lower bound exceeds its upper bound. -/
structure Program.IsOrdered (program : Program R n nf neg) : Prop where
  x : ∀ j, program.xLower.get j ≤ program.xUpper.get j
  f : ∀ i, program.fLower.get i ≤ program.fUpper.get i

omit [Arith R] in
theorem get_of_toArray_eq {values : Array R} {vector : Vector R n} (same : vector.toArray = values)
    {j : Fin n} {value : R} (isValue : values[j.val]? = some value) : vector.get j = value := by
  rw [← same] at isValue
  simpa using isValue

omit [Arith R] in
theorem get_of_toArray_eq_map {α : Type} {change : α → R} {values : Array α} {vector : Vector R n}
    (isMap : vector.toArray = values.map change) {j : Fin n} {value : α}
    (isValue : values[j.val]? = some value) : vector.get j = change value := by
  apply get_of_toArray_eq isMap
  rw [Array.getElem?_map, isValue]
  rfl

variable [LawfulInfinity R]

/-- A pair of bounds that has passed its check is in order. -/
theorem le_of_areBounds {lower upper : Array R} (bounds : AreBounds n lower upper) {k : Nat}
    {low high : R} (isLow : lower[k]? = some low) (isHigh : upper[k]? = some high) :
    low ≤ high := by
  apply LawfulOrder.crossed_eq_false_iff.1
  apply bounds.ordered (low, high)
  apply List.mem_of_getElem?
  exact List.getElem?_zip_eq_some.2 ⟨by simpa using isLow, by simpa using isHigh⟩

theorem get_le_get_of_areBounds {lower upper : Array R} {low high : Vector R n}
    (bounds : AreBounds n lower upper) (isLow : low.toArray = lower.map restoreBound)
    (isHigh : high.toArray = upper.map restoreBound) (j : Fin n) : low.get j ≤ high.get j := by
  have inLower : lower[j.val]? = some _ :=
    Array.getElem?_eq_getElem (bounds.lower_size.symm ▸ j.isLt)
  have inUpper : upper[j.val]? = some _ :=
    Array.getElem?_eq_getElem (bounds.upper_size.symm ▸ j.isLt)
  rw [get_of_toArray_eq_map isLow inLower, get_of_toArray_eq_map isHigh inUpper]
  exact LawfulInfinity.restoreBound_le_restoreBound (le_of_areBounds bounds inLower inUpper)

/-- The bounds of an accepted program are in order. -/
theorem isOrdered_of_accept {call : EngineCall R n nf neg} {program : Program R n nf neg}
    (accepted : call.accept = .ok program) : program.IsOrdered := by
  have wellFormed := EngineCall.isSome_program?_iff.1
    (Option.isSome_of_eq_some (EngineCall.program?_of_accept accepted))
  have describes := EngineCall.describes_of_accept accepted
  exact ⟨get_le_get_of_areBounds wellFormed.xBounds describes.xLower describes.xUpper,
    get_le_get_of_areBounds wellFormed.fBounds describes.fLower describes.fUpper⟩

end AugmentedLagrangian

end NonlinearProgram
