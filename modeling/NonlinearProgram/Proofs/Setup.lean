import Mathlib
import NonlinearProgram.Bounds
import NonlinearProgram.Solver.Start

/-!
# Data that pass their checks

Checks are made one after the other, and the first that fails ends them; they succeed where all of
them do. Bounds pass if they have the lengths of the problem and no pair is crossed, a start if its
parts have these lengths and its point is finite.
-/

namespace NonlinearProgram

/-- A sequence of checks succeeds if each of them does. -/
theorem bind_eq_ok {ε α β : Type} {first : Except ε α} {next : α → Except ε β} {value : β} :
    (first >>= next) = .ok value ↔ ∃ given, first = .ok given ∧ next given = .ok value := by
  cases first with
  | error failure => exact ⟨nofun, nofun⟩
  | ok given =>
      constructor
      · intro rest
        exact ⟨given, rfl, rest⟩
      · rintro ⟨_, same, rest⟩
        cases same
        exact rest

/-- A sequence of checks without a result. -/
theorem then_eq_ok {ε β : Type} {first : Except ε Unit} {next : Except ε β} {value : β} :
    (first >>= fun _ => next) = .ok value ↔ first = .ok () ∧ next = .ok value := by
  rw [bind_eq_ok]
  exact ⟨fun ⟨_, passed, rest⟩ => ⟨passed, rest⟩, fun ⟨passed, rest⟩ => ⟨(), passed, rest⟩⟩

/-- The first check that fails decides how a sequence of checks fails. -/
theorem then_eq_error {ε β : Type} {first : Except ε Unit} {next : Except ε β} {failure : ε} :
    (first >>= fun _ => next) = .error failure ↔
      first = .error failure ∨ first = .ok () ∧ next = .error failure := by
  cases first with
  | error earlier =>
      constructor
      · intro failed
        cases failed
        exact .inl rfl
      · rintro (failed | ⟨passed, _⟩)
        · cases failed
          rfl
        · cases passed
  | ok passed =>
      constructor
      · intro failed
        exact .inr ⟨rfl, failed⟩
      · rintro (failed | ⟨_, failed⟩)
        · cases failed
        · exact failed

/-- Results that agree where checks succeed. -/
theorem map_congr {ε α β : Type} {checked : Except ε α} {report report' : α → β}
    (same : ∀ given, checked = .ok given → report given = report' given) :
    checked.map report = checked.map report' := by
  cases checked with
  | error failure => rfl
  | ok given => exact congrArg Except.ok (same given rfl)

theorem forM_eq_ok {ε α : Type} {check : α → Except ε PUnit} {values : List α} :
    values.forM check = .ok () ↔ ∀ value ∈ values, check value = .ok () := by
  induction values with
  | nil => exact iff_of_true rfl nofun
  | cons value rest ih =>
      rw [List.forall_mem_cons, ← ih, List.forM_eq_forM, List.forM_cons]
      exact then_eq_ok

/-- Checks fail as the first of them does that fails. -/
theorem forM_eq_error {ε ι : Type} {check : ι → Except ε Unit} {items : List ι} {failure : ε} :
    items.forM check = .error failure ↔ ∃ earlier item later, items = earlier ++ item :: later ∧
      (∀ other ∈ earlier, check other = .ok ()) ∧ check item = .error failure := by
  induction items with
  | nil =>
      apply iff_of_false nofun
      rintro ⟨earlier, item, later, split, _⟩
      simp at split
  | cons first rest ih =>
      rw [List.forM_eq_forM, List.forM_cons, then_eq_error]
      constructor
      · rintro (failed | ⟨passed, failed⟩)
        · exact ⟨[], first, rest, rfl, nofun, failed⟩
        · obtain ⟨earlier, item, later, rfl, all, here⟩ := ih.1 failed
          exact ⟨first :: earlier, item, later, rfl, List.forall_mem_cons.2 ⟨passed, all⟩, here⟩
      · rintro ⟨earlier, item, later, split, all, here⟩
        cases earlier with
        | nil =>
            cases split
            exact .inl here
        | cons other earlier =>
            cases split
            obtain ⟨passed, all⟩ := List.forall_mem_cons.1 all
            exact .inr ⟨passed, ih.2 ⟨earlier, item, later, rfl, all, here⟩⟩

theorem exists_of_forM_eq_error {ε α : Type} {check : α → Except ε Unit} {values : List α}
    {failure : ε} (failed : values.forM check = .error failure) :
    ∃ value ∈ values, check value = .error failure := by
  obtain ⟨earlier, value, later, rfl, _, here⟩ := forM_eq_error.1 failed
  exact ⟨value, List.mem_append_right _ List.mem_cons_self, here⟩

theorem checkExtent_eq_ok {what : Extent} {expected actual : Nat} :
    checkExtent what expected actual = .ok () ↔ actual = expected := by
  rw [checkExtent]
  split <;> simp [*]

variable {R : Type} [Arith R]

theorem any_not_isFinite {values : Array R} :
    (values.any (!Arith.isFinite ·)) = true ↔ ¬∀ value ∈ values.toList, Arith.isFinite value := by
  rw [← Array.any_toList, List.any_eq_true]
  simp only [Bool.not_eq_true', not_forall, exists_prop, Bool.not_eq_true]

/-- Bounds of a given length of which no pair is crossed. -/
structure AreBounds (n : Nat) (lower upper : Array R) : Prop where
  lower_size : lower.size = n
  upper_size : upper.size = n
  ordered : ∀ pair ∈ lower.toList.zip upper.toList, crossed pair.1 pair.2 = false

omit [Arith R] in
theorem Bounds.mem_pairs_iff {bounds : Bounds R} {pair : R × R} :
    pair ∈ bounds.pairs ↔ pair ∈ bounds.xLower.toList.zip bounds.xUpper.toList ∨
      pair ∈ bounds.gLower.toList.zip bounds.gUpper.toList := by
  rw [pairs, List.mem_append, Array.toList_zip, Array.toList_zip]

theorem Bounds.validate_eq_ok {bounds : Bounds R} {dims : Dimensions} :
    bounds.validate dims = .ok () ↔
      AreBounds dims.nx bounds.xLower bounds.xUpper ∧
        AreBounds dims.ng bounds.gLower bounds.gUpper := by
  simp only [validate, then_eq_ok, checkExtent_eq_ok]
  constructor
  · rintro ⟨xLower, xUpper, gLower, gUpper, passed⟩
    split at passed
    case h_1 => cases passed
    case h_2 uncrossed =>
      rw [List.findIdx?_eq_none_iff] at uncrossed
      exact ⟨⟨xLower, xUpper, fun pair member => uncrossed pair (mem_pairs_iff.2 (.inl member))⟩,
        ⟨gLower, gUpper, fun pair member => uncrossed pair (mem_pairs_iff.2 (.inr member))⟩⟩
  · rintro ⟨⟨xLower, xUpper, xOrdered⟩, ⟨gLower, gUpper, gOrdered⟩⟩
    refine ⟨xLower, xUpper, gLower, gUpper, ?_⟩
    split
    case h_1 position found =>
      have uncrossed := (List.findIdx?_eq_none_iff (p := fun pair => crossed pair.1 pair.2)).2
        fun pair member => (mem_pairs_iff.1 member).elim (xOrdered pair) (gOrdered pair)
      cases found.symm.trans uncrossed
    case h_2 => rfl

/-- Parts of a state that have the lengths of a problem. -/
structure SolverState.Fits (state : SolverState R) (nx nf : Nat) : Prop where
  x : state.x.size = nx
  xState : state.xState.size = nx
  xMul : state.xMul.size = nx
  f : state.f.size = nf
  fState : state.fState.size = nf
  fMul : state.fMul.size = nf

theorem Start.validate_eq_ok {start : Start R} {dims : Dimensions} :
    start.validate dims = .ok () ↔ start.state.Fits dims.nx dims.nf ∧
      ∀ value ∈ start.state.x.toList, Arith.isFinite value := by
  simp only [validate, List.forIn_cons, List.forIn_nil, bind_assoc, pure_bind, then_eq_ok,
    checkExtent_eq_ok]
  constructor
  · rintro ⟨x, xState, xMul, f, fState, fMul, passed⟩
    refine ⟨⟨x, xState, xMul, f, fState, fMul⟩, ?_⟩
    split at passed
    case isTrue => cases passed
    case isFalse finite => exact not_not.1 (mt any_not_isFinite.2 finite)
  · rintro ⟨⟨x, xState, xMul, f, fState, fMul⟩, finite⟩
    refine ⟨x, xState, xMul, f, fState, fMul, ?_⟩
    rw [if_neg (mt any_not_isFinite.1 (not_not_intro finite))]
    rfl

/-- A start whose parts have the right lengths is refused for its point only. -/
theorem Start.not_finite_of_validate {start : Start R} {dims : Dimensions} {failure : SetupError}
    (fits : start.state.Fits dims.nx dims.nf) (refused : start.validate dims = .error failure) :
    failure = .unusableValue .startNotFinite ∧
      ¬∀ value ∈ start.state.x.toList, Arith.isFinite value := by
  have passed : ∀ component, checkExtent (.start component) (requiredLength dims component)
      (start.state.length component) = pure () := by
    rintro (_ | _ | _ | _ | _ | _)
    · exact checkExtent_eq_ok.2 fits.x
    · exact checkExtent_eq_ok.2 fits.xState
    · exact checkExtent_eq_ok.2 fits.xMul
    · exact checkExtent_eq_ok.2 fits.f
    · exact checkExtent_eq_ok.2 fits.fState
    · exact checkExtent_eq_ok.2 fits.fMul
  simp only [validate, List.forIn_cons, List.forIn_nil, passed, pure_bind] at refused
  split at refused
  case isTrue notFinite =>
    cases refused
    exact ⟨rfl, any_not_isFinite.1 notFinite⟩
  case isFalse => cases refused

end NonlinearProgram
