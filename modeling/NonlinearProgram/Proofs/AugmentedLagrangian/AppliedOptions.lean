import NonlinearProgram.Proofs.AugmentedLagrangian.Assignments
import NonlinearProgram.Proofs.Solver.OptionTable

/-!
# What applied options leave

Keys that are different for a table can name the same setting: the table compares keys as they are
written, and the solver looks at their words only. The entries are applied in the order in which
their keys came in, so among the entries that name a setting the one whose key came in last decides.
It need not be the one that was set last: a key that is set again keeps its place.
-/

namespace NonlinearProgram

namespace AugmentedLagrangian

variable {R : Type} [Arith R]

/-! ## The last assignment -/

theorem assignment?_eq_some_iff {option : String × OptionValue R} {name : SettingName}
    {read : SettingValue R} :
    assignment? option = some (name, read) ↔ optionFault? option.1 option.2 = none ∧
      SettingName.ofKey? (canonicalKey option.1) = some name ∧
        name.read? option.2 = some read := by
  rw [assignment?]
  rcases optionFault? option.1 option.2 with _ | fault
  · rcases SettingName.ofKey? (canonicalKey option.1) with _ | other
    · simp
    · simp only [Option.isSome_none, Bool.false_eq_true, if_false, Option.bind_some,
        Option.map_eq_some_iff, Prod.mk.injEq, true_and, Option.some.injEq]
      constructor
      · rintro ⟨value, reads, rfl, rfl⟩
        exact ⟨rfl, reads⟩
      · rintro ⟨rfl, reads⟩
        exact ⟨read, reads, rfl, rfl⟩
  · simp

/-- Of the options that assign to a setting the last one decides, if there is one. -/
theorem assignAll_filterMap_cases (values : SettingName → SettingValue R) (name : SettingName)
    (options : List (String × OptionValue R)) :
    let assigned := assignAll values (options.filterMap assignment?) name
    (assigned = values name ∧ ∀ option ∈ options, ∀ read, assignment? option ≠ some (name, read)) ∨
      ∃ before option after, options = before ++ option :: after ∧
        assignment? option = some (name, assigned) ∧
        ∀ later ∈ after, ∀ read, assignment? later ≠ some (name, read) := by
  induction options using List.reverseRecOn with
  | nil => exact .inl ⟨rfl, fun _ member => nomatch member⟩
  | append_singleton earlier option ih =>
      intro assigned
      by_cases decides : ∃ read, assignment? option = some (name, read)
      · obtain ⟨read, assigns⟩ := decides
        have ends : assigned = read := by
          simp [assigned, assignAll, assigns]
        exact .inr ⟨earlier, option, [], rfl, ends ▸ assigns, fun _ member => nomatch member⟩
      · have kept : assigned = assignAll values (earlier.filterMap assignment?) name := by
          rcases assigns : assignment? option with _ | ⟨other, read⟩
          · simp [assigned, assigns]
          · have different : name ≠ other := fun same => decides ⟨read, same ▸ assigns⟩
            simp [assigned, assignAll, assigns, Function.update_of_ne different]
        rw [kept]
        rcases ih with ⟨same, idle⟩ | ⟨before, last, after, place, assigns, idle⟩
        · refine .inl ⟨same, fun other member read assigns => ?_⟩
          rcases List.mem_append.1 member with member | member
          · exact idle other member read assigns
          · cases List.mem_singleton.1 member
            exact decides ⟨read, assigns⟩
        · refine .inr ⟨before, last, after ++ [option], by simp [place], assigns,
            fun later member read assigns => ?_⟩
          rcases List.mem_append.1 member with member | member
          · exact idle later member read assigns
          · cases List.mem_singleton.1 member
            exact decides ⟨read, assigns⟩

/-! ## After a history -/

open OptionTable (Operation after IsEntry IsLastSet)

/-- A key is in the table after a history. It came in at one time, was last set at another, and its
option assigns a value to a setting. -/
structure Contends (history : List (Operation R)) (name : SettingName) (key : String)
    (read : SettingValue R) (entered time : Nat) : Prop where
  entry : IsEntry history key entered
  names : SettingName.ofKey? (canonicalKey key) = some name
  reads : ∃ value, IsLastSet history key value time ∧ optionFault? key value = none ∧
    name.read? value = some read

theorem exists_contends_iff {history : List (Operation R)} {name : SettingName} {key : String}
    {read : SettingValue R} :
    (∃ entered time, Contends history name key read entered time) ↔
      ∃ value, (key, value) ∈ (after history).entries ∧
        assignment? (key, value) = some (name, read) := by
  have reflects := OptionTable.after_reflects history
  constructor
  · rintro ⟨entered, time, _, names, value, last, passes, reads⟩
    refine ⟨value, ?_, assignment?_eq_some_iff.2 ⟨passes, names, reads⟩⟩
    rw [← OptionTable.get?_eq_some_iff_mem reflects.distinct]
    exact (reflects.value key value).2 ⟨time, last⟩
  · rintro ⟨value, member, assigns⟩
    obtain ⟨passes, names, reads⟩ := assignment?_eq_some_iff.1 assigns
    have known := (OptionTable.get?_eq_some_iff_mem reflects.distinct).2 member
    obtain ⟨time, last⟩ := (reflects.value key value).1 known
    obtain ⟨entered, entry⟩ := (reflects.present key).1 (List.mem_map_of_mem member)
    exact ⟨entered, time, entry, names, value, last, passes, reads⟩

/-- A setting is as it was before if no entry assigns to it. Otherwise it has the value that the key
which came in last was last set to. -/
theorem value_apply_after (history : List (Operation R)) (workspace : Workspace R)
    (solver : AugmentedLagrangian R) (name : SettingName) :
    let applied := ((after history).apply workspace solver).2.2.settings.value name
    (applied = solver.settings.value name ∧
        ∀ key read entered time, ¬Contends history name key read entered time) ∨
      ∃ key entered time, Contends history name key applied entered time ∧
        ∀ key' read' entered' time', Contends history name key' read' entered' time' →
          entered' ≤ entered := by
  intro applied
  have reflects := OptionTable.after_reflects history
  have made : applied = assignAll solver.settings.value
      ((after history).entries.filterMap assignment?) name :=
    congrFun (value_applyOptions {} (after history).entries workspace solver).1 name
  rw [made]
  rcases assignAll_filterMap_cases solver.settings.value name (after history).entries with
    ⟨same, idle⟩ | ⟨before, ⟨key, value⟩, later, place, assigns, idle⟩
  · refine .inl ⟨same, fun key read entered time contends => ?_⟩
    obtain ⟨value, member, assigns⟩ := exists_contends_iff.1 ⟨entered, time, contends⟩
    exact idle _ member read assigns
  · have member : (key, value) ∈ (after history).entries := place ▸ by simp
    obtain ⟨entered, time, contends⟩ := exists_contends_iff.2 ⟨value, member, assigns⟩
    refine .inr ⟨key, entered, time, contends, fun key' read' entered' time' contends' => ?_⟩
    obtain ⟨value', member', assigns'⟩ := exists_contends_iff.1 ⟨entered', time', contends'⟩
    rw [place, List.mem_append, List.mem_cons] at member'
    rcases member' with earlier | here | beyond
    · have order := reflects.order
      rw [OptionTable.keys, place, List.map_append, List.pairwise_append] at order
      obtain ⟨first, second, entry', entry, precedes⟩ :=
        order.2.2 key' (List.mem_map_of_mem earlier) key (List.mem_map_of_mem List.mem_cons_self)
      rw [contends'.entry.unique entry', contends.entry.unique entry]
      exact precedes.le
    · cases here
      exact (contends'.entry.unique contends.entry).le
    · exact absurd assigns' (idle _ beyond read')

/-- A limit is set under one spelling, then under another, and then again under the first one. All
three options are accepted. What was set last is not what is left. -/
theorem value_apply_respelled :
    let history : List (Operation Double) :=
      [.set "Iterations limit" (.integer 5), .set "iterations limit" (.integer 7),
        .set "Iterations limit" (.integer 9)]
    let solver : AugmentedLagrangian Double := new
    (∀ operation ∈ history, ∃ key value, operation = .set key value ∧
        optionFault? key value = none ∧ (setOption key value solver).1 = 0) ∧
      Contends history .iterationsLimit "Iterations limit" (.count 9) 0 2 ∧
      (∀ key read entered time, Contends history .iterationsLimit key read entered time →
        time ≤ 2) ∧
      ((after history).apply (.initial ⟨1, 0⟩ 0) solver).2.2.settings.iterationsLimit = 7 := by
  intro history solver
  refine ⟨?_, ⟨⟨⟨_, rfl, _, rfl⟩, ?_, nofun⟩, by decide +kernel, .integer 9, ⟨rfl, ?_⟩,
    by decide +kernel, rfl⟩, ?_, by decide +kernel⟩
  · intro operation member
    simp only [history, List.mem_cons, List.not_mem_nil, or_false] at member
    rcases member with rfl | rfl | rfl
    all_goals exact ⟨_, _, rfl, by decide +kernel⟩
  · intro later _ removed
    have inside : later < 3 := OptionTable.lt_length_of_eq_some removed
    interval_cases later <;> cases removed
  · intro later operation beyond found
    exact absurd beyond (Nat.le_of_lt_succ (OptionTable.lt_length_of_eq_some found)).not_gt
  · rintro key read entered time ⟨-, -, value, last, -⟩
    exact Nat.le_of_lt_succ (OptionTable.lt_length_of_eq_some last.sets)

end AugmentedLagrangian

end NonlinearProgram
