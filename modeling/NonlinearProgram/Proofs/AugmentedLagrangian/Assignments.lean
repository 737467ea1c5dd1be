import NonlinearProgram.AugmentedLagrangian.Solver
import NonlinearProgram.Proofs.Vectors
import NonlinearProgram.Session

/-!
# Options as assignments

An option is an error for any settings, or it assigns a value to one setting; which of these it does
is decided by its key and its value alone, `Settings.value_set`. Options that are applied one after
the other are therefore a list of assignments. What such a list leaves in a setting it names does
not depend on what was there before.
-/

namespace NonlinearProgram.AugmentedLagrangian

/-- Value of a setting. -/
inductive SettingValue (R : Type) where
  | count (value : Nat)
  | level (value : Int)
  | real (value : R)
  | choice (value : Bool)
  | length (value : Option Nat)

/-- A setting with a value for it. -/
abbrev Assignment (R : Type) := SettingName × SettingValue R

variable {R : Type}

/-- The value of each setting. -/
def Settings.value (settings : Settings R) : SettingName → SettingValue R
  | .majorIterationsLimit => .count settings.majorIterationsLimit
  | .iterationsLimit => .count settings.iterationsLimit
  | .printLevel => .level settings.printLevel
  | .workspace region => .length (settings.workspace region)
  | .optimalityTolerance => .real settings.optimalityTolerance
  | .feasibilityTolerance => .real settings.feasibilityTolerance
  | .penalty => .real settings.penalty
  | .unboundedObjective => .real settings.unboundedObjective
  | .printSolution => .choice settings.printSolution

/-- Settings are known by their values. -/
theorem Settings.value_injective : Function.Injective (value : Settings R → _) := by
  intro settings settings' same
  have at_ (name : SettingName) : settings.value name = settings'.value name := congrFun same name
  have lengths : settings.workspace = settings'.workspace :=
    funext fun region => SettingValue.length.inj (at_ (.workspace region))
  have majorLimit := SettingValue.count.inj (at_ .majorIterationsLimit)
  have limit := SettingValue.count.inj (at_ .iterationsLimit)
  have level := SettingValue.level.inj (at_ .printLevel)
  have optimality := SettingValue.real.inj (at_ .optimalityTolerance)
  have feasibility := SettingValue.real.inj (at_ .feasibilityTolerance)
  have penalty := SettingValue.real.inj (at_ .penalty)
  have unbounded := SettingValue.real.inj (at_ .unboundedObjective)
  have solution := SettingValue.choice.inj (at_ .printSolution)
  cases settings
  cases settings'
  subst lengths majorLimit limit level optimality feasibility penalty unbounded solution
  rfl

/-! ## Lists of assignments -/

/-- Makes assignments one after the other. -/
def assignAll (values : SettingName → SettingValue R) (assignments : List (Assignment R)) :
    SettingName → SettingValue R :=
  assignments.foldl (fun values assigned => Function.update values assigned.1 assigned.2) values

theorem assignAll_append (values : SettingName → SettingValue R)
    (first second : List (Assignment R)) :
    assignAll values (first ++ second) = assignAll (assignAll values first) second :=
  List.foldl_append

/-- A setting that is not named keeps its value. -/
theorem assignAll_of_notMem {assignments : List (Assignment R)} {name : SettingName}
    (unnamed : name ∉ assignments.map Prod.fst) (values : SettingName → SettingValue R) :
    assignAll values assignments name = values name := by
  induction assignments generalizing values with
  | nil => rfl
  | cons assigned rest ih =>
      rw [List.map_cons, List.mem_cons, not_or] at unnamed
      refine (ih unnamed.2 _).trans ?_
      exact Function.update_of_ne unnamed.1 _ _

/-- A setting that is named has a value that does not depend on those before. -/
theorem assignAll_of_mem {assignments : List (Assignment R)} {name : SettingName}
    (named : name ∈ assignments.map Prod.fst) (values values' : SettingName → SettingValue R) :
    assignAll values assignments name = assignAll values' assignments name := by
  induction assignments generalizing values values' with
  | nil => cases named
  | cons assigned rest ih =>
      by_cases later : name ∈ rest.map Prod.fst
      · exact ih later _ _
      · have here : name = assigned.1 := by
          rw [List.map_cons, List.mem_cons] at named
          exact named.resolve_right later
        refine (assignAll_of_notMem later _).trans (.trans ?_ (assignAll_of_notMem later _).symm)
        dsimp only
        rw [here, Function.update_self, Function.update_self]

/-- Assignments make up for those before that only named the same settings. -/
theorem assignAll_assignAll {earlier later : List (Assignment R)}
    (covered : ∀ name ∈ earlier.map Prod.fst, name ∈ later.map Prod.fst)
    (values : SettingName → SettingValue R) :
    assignAll (assignAll values earlier) later = assignAll values later := by
  funext name
  by_cases named : name ∈ later.map Prod.fst
  · exact assignAll_of_mem named _ _
  · rw [assignAll_of_notMem named, assignAll_of_notMem named,
      assignAll_of_notMem fun member => named (covered name member)]

/-! ## Readings -/

/-- What a text chooses. -/
def choice? : String → Option Bool
  | "yes" => some true
  | "no" => some false
  | _ => none

namespace SettingName

variable [Arith R]

/-- A real as a value of a setting. It has to be finite and positive. -/
def readReal? (name : SettingName) (value : R) : Option (SettingValue R) :=
  match name with
  | .optimalityTolerance | .feasibilityTolerance | .penalty | .unboundedObjective =>
      if Arith.isFinite value ∧ ¬value ≤ 0 then some (.real value) else none
  | _ => none

/-- An integer as a value of a setting. -/
def readInteger? (name : SettingName) (value : Int) : Option (SettingValue R) :=
  match name with
  | .majorIterationsLimit | .iterationsLimit => (Settings.count? value).map .count
  | .printLevel => some (.level value)
  | .workspace _ => (Settings.count? value).map fun count => .length (some count)
  | name => name.readReal? (Arith.ofInt value)

/-- A text as a value of a setting: a choice, or else a whole number if it is one, or any number. -/
def readText? (name : SettingName) (value : String) : Option (SettingValue R) :=
  let text := trim value.toList
  if name = .printSolution then (choice? (String.ofList (text.map Char.toLower))).map .choice
  else
    match Decimal.readInteger? text with
    | some whole => name.readInteger? whole
    | none => (Decimal.readReal? text).bind name.readReal?

/-- An option's value as a value of a setting. -/
def read? (name : SettingName) : OptionValue R → Option (SettingValue R)
  | .text value => name.readText? value
  | .integer value => name.readInteger? value
  | .real value => name.readReal? value

/-- A real that is read is finite and positive. -/
theorem usable_of_readReal? {name : SettingName} {value read : R}
    (reads : name.readReal? value = some (.real read)) : Arith.isFinite read ∧ ¬read ≤ 0 := by
  cases name with
  | optimalityTolerance | feasibilityTolerance | penalty | unboundedObjective =>
      rw [readReal?] at reads
      split at reads
      case isTrue usable =>
        cases reads
        exact usable
      case isFalse => cases reads
  | _ => cases reads

theorem usable_of_readInteger? {name : SettingName} {value : Int} {read : R}
    (reads : name.readInteger? value = some (.real read)) : Arith.isFinite read ∧ ¬read ≤ 0 := by
  cases name with
  | majorIterationsLimit | iterationsLimit | printLevel | workspace =>
      simp [readInteger?] at reads
  | _ =>
      simp only [readInteger?] at reads
      exact usable_of_readReal? reads

theorem usable_of_read? {name : SettingName} {value : OptionValue R} {read : R}
    (reads : name.read? value = some (.real read)) : Arith.isFinite read ∧ ¬read ≤ 0 := by
  cases value with
  | integer value => exact usable_of_readInteger? reads
  | real value => exact usable_of_readReal? reads
  | text value =>
      rw [read?, readText?] at reads
      split at reads
      case isTrue => simp at reads
      case isFalse =>
        split at reads
        case h_1 => exact usable_of_readInteger? reads
        case h_2 =>
          obtain ⟨number, _, reads⟩ := Option.bind_eq_some_iff.1 reads
          exact usable_of_readReal? reads

end SettingName

/-! ## Options -/

/-- The values after a value has been assigned to the setting that is named, if one is and the value
is read as one of its values. -/
def assign? (values : SettingName → SettingValue R) (name? : Option SettingName)
    (read? : SettingName → Option (SettingValue R)) : Option (SettingName → SettingValue R) :=
  name?.bind fun name => (read? name).map (Function.update values name)

namespace Settings

variable [Arith R]

theorem value_setReal (settings : Settings R) (name? : Option SettingName) (value : R) :
    (settings.setReal name? value).map Settings.value =
      assign? settings.value name? (·.readReal? value) := by
  have test : (!Arith.isFinite value || decide (value ≤ 0)) = true ↔
      ¬(Arith.isFinite value ∧ ¬value ≤ 0) := by
    rw [Bool.or_eq_true, Bool.not_eq_true', decide_eq_true_iff, not_and_not_right,
      ← Bool.not_eq_true]
    exact Decidable.imp_iff_not_or.symm
  by_cases usable : Arith.isFinite value ∧ ¬value ≤ 0
  · simp only [setReal, if_neg (mt test.1 (not_not_intro usable))]
    rcases name? with _ | name
    · rfl
    · cases name with
      | optimalityTolerance | feasibilityTolerance | penalty | unboundedObjective =>
          simp only [assign?, SettingName.readReal?, if_pos usable, Option.map_some,
            Option.bind_some, Option.some.injEq]
          funext other
          cases other <;> rfl
      | _ => rfl
  · simp only [setReal, if_pos (test.2 usable)]
    rcases name? with _ | name
    · rfl
    · cases name <;> simp [assign?, SettingName.readReal?, usable]

theorem value_setInteger (settings : Settings R) (name? : Option SettingName) (value : Int) :
    (settings.setInteger name? value).map Settings.value =
      assign? settings.value name? (·.readInteger? value) := by
  have ofReal (name : SettingName)
      (sets : settings.setInteger (some name) value =
        settings.setReal (some name) (Arith.ofInt value))
      (reads : name.readInteger? value = name.readReal? (Arith.ofInt value : R)) :
      (settings.setInteger (some name) value).map Settings.value =
        assign? settings.value (some name) (·.readInteger? value) := by
    rw [sets, value_setReal, assign?, assign?, Option.bind_some, Option.bind_some, reads]
  rcases name? with _ | name
  · exact value_setReal settings none (Arith.ofInt value)
  · cases name with
    | optimalityTolerance | feasibilityTolerance | penalty | unboundedObjective | printSolution =>
        exact ofReal _ rfl rfl
    | printLevel =>
        exact congrArg some (funext fun other => by cases other <;> rfl)
    | majorIterationsLimit | iterationsLimit =>
        simp only [setInteger, assign?, SettingName.readInteger?, Option.bind_some]
        cases count? value with
        | none => rfl
        | some count => exact congrArg some (funext fun other => by cases other <;> rfl)
    | workspace region =>
        simp only [setInteger, assign?, SettingName.readInteger?, Option.bind_some]
        cases count? value with
        | none => rfl
        | some count =>
            refine congrArg some (funext fun other => ?_)
            cases other with
            | workspace other => cases region <;> cases other <;> rfl
            | _ => rfl

/-- The setting that is a choice takes the texts that choose. -/
theorem setText_choice (settings : Settings R) (value : String) :
    settings.setText (some .printSolution) value =
      (choice? (String.ofList ((trim value.toList).map Char.toLower))).map
        fun printSolution => { settings with printSolution } := by
  simp only [setText, choice?]
  split <;> simp [*]

theorem value_setText (settings : Settings R) (name? : Option SettingName) (value : String) :
    (settings.setText name? value).map Settings.value =
      assign? settings.value name? (·.readText? value) := by
  by_cases isChoice : name? = some .printSolution
  · subst isChoice
    rw [assign?, Option.bind_some, SettingName.readText?, if_pos rfl, setText_choice]
    rcases choice? (String.ofList ((trim value.toList).map Char.toLower)) with _ | chosen
    · rfl
    · exact congrArg some (funext fun other => by cases other <;> rfl)
  · have number : assign? settings.value name? (·.readText? value) =
        assign? settings.value name? fun name =>
          match Decimal.readInteger? (trim value.toList) with
          | some whole => name.readInteger? whole
          | none => (Decimal.readReal? (trim value.toList)).bind name.readReal? := by
      rcases name? with _ | name
      · rfl
      · have notChoice : name ≠ .printSolution := fun same => isChoice (congrArg some same)
        simp only [assign?, Option.bind_some, SettingName.readText?, if_neg notChoice]
    rw [number, setText]
    · cases Decimal.readInteger? (trim value.toList) with
      | some whole => exact value_setInteger settings name? whole
      | none =>
          cases (Decimal.readReal? (trim value.toList) : Option R) with
          | some real => exact value_setReal settings name? real
          | none => cases name? <;> rfl
    · exact isChoice

/-- An option assigns what its value is read as to the setting that its key names. If there is
neither such a setting nor such a reading, the option is an error. -/
theorem value_set (settings : Settings R) (key : String) (value : OptionValue R) :
    (settings.set key value).map Settings.value =
      assign? settings.value (SettingName.ofKey? (canonicalKey key)) (·.read? value) := by
  cases value with
  | text value => exact value_setText settings _ value
  | integer value => exact value_setInteger settings _ value
  | real value => exact value_setReal settings _ value

variable {settings changed : Settings R} {key : String} {value : OptionValue R}

/-- What an accepted option changes: it assigns what its value is read as to the setting that its
key names. -/
theorem exists_of_set (accepted : settings.set key value = some changed) :
    ∃ name read, SettingName.ofKey? (canonicalKey key) = some name ∧ name.read? value = some read ∧
      changed.value = Function.update settings.value name read := by
  have assigned := settings.value_set key value
  rw [accepted, assign?] at assigned
  obtain ⟨name, named, assigned⟩ := Option.bind_eq_some_iff.1 assigned.symm
  obtain ⟨read, reads, same⟩ := Option.map_eq_some_iff.1 assigned
  exact ⟨name, read, named, reads, same.symm⟩

/-- What holds of every real that is finite and positive still holds of the real value of a setting
after an option is applied. -/
theorem real_of_set {property : R → Prop}
    (usable : ∀ real, Arith.isFinite real → ¬real ≤ 0 → property real) {name : SettingName}
    (before : ∀ real, settings.value name = .real real → property real)
    (accepted : settings.set key value = some changed) {real : R}
    (holds : changed.value name = .real real) : property real := by
  obtain ⟨assigned, read, _, reads, same⟩ := exists_of_set accepted
  rw [same] at holds
  by_cases here : name = assigned
  · subst here
    rw [Function.update_self] at holds
    subst holds
    obtain ⟨finite, positive⟩ := SettingName.usable_of_read? reads
    exact usable real finite positive
  · rw [Function.update_of_ne here] at holds
    exact before real holds

end Settings

variable [Arith R]

/-- The assignment that an option makes when it is handed over, unless it is withheld or an
error. -/
def assignment? (option : String × OptionValue R) : Option (Assignment R) :=
  if (optionFault? option.1 option.2).isSome then none
  else
    (SettingName.ofKey? (canonicalKey option.1)).bind fun name =>
      (name.read? option.2).map fun value => (name, value)

theorem value_setOption (solver : AugmentedLagrangian R) {option : String × OptionValue R}
    (passes : ¬(optionFault? option.1 option.2).isSome) :
    (setOption option.1 option.2 solver).2.settings.value =
      assignAll solver.settings.value (assignment? option).toList := by
  have assigned := solver.settings.value_set option.1 option.2
  simp only [assignment?, if_neg passes, setOption]
  generalize SettingName.ofKey? (canonicalKey option.1) = name? at assigned ⊢
  rcases name? with _ | name
  · rw [assign?, Option.bind_none, Option.map_eq_none_iff] at assigned
    rw [assigned]
    rfl
  · rw [assign?, Option.bind_some] at assigned
    rcases reading : name.read? option.2 with _ | value
    · rw [reading, Option.map_none, Option.map_eq_none_iff] at assigned
      simp [assigned, reading, assignAll]
    · rw [reading, Option.map_some, Option.map_eq_some_iff] at assigned
      obtain ⟨changed, accepted, same⟩ := assigned
      simp [accepted, reading, same, assignAll]

/-- Options make their assignments one after the other, the same ones for any settings. The
workspace stays as it is. -/
theorem value_applyOptions (summary : AppliedOptions) (options : List (String × OptionValue R))
    (workspace : Workspace R) (solver : AugmentedLagrangian R) :
    let applied := applyOptions summary options workspace solver
    applied.2.2.settings.value =
        assignAll solver.settings.value (options.filterMap assignment?) ∧
      applied.2.1 = workspace := by
  induction options generalizing summary solver with
  | nil => exact ⟨rfl, rfl⟩
  | cons option rest ih =>
      have inOrder : (option :: rest).filterMap assignment? =
          (assignment? option).toList ++ (rest.filterMap assignment? : List (Assignment R)) := by
        rw [List.filterMap_cons]
        cases assignment? option <;> rfl
      rw [inOrder, assignAll_append]
      by_cases withheld : (optionFault? option.1 option.2).isSome = true
      · simp only [applyOptions, if_pos withheld, assignment?]
        exact ih _ _
      · rw [← value_setOption solver withheld]
        simp only [applyOptions, if_neg withheld]
        exact ih _ _

/-- Options are assignments, the same ones for any settings. -/
theorem exists_assignments (options : List (String × OptionValue R)) :
    ∃ assignments : List (Assignment R),
      ∀ (summary : AppliedOptions) (workspace : Workspace R) (solver : AugmentedLagrangian R),
        (applyOptions summary options workspace solver).2.2.settings.value =
          assignAll solver.settings.value assignments :=
  ⟨_, fun summary workspace solver => (value_applyOptions summary options workspace solver).1⟩

/-! ## Lengths -/

/-- The length of a region as an assignment. -/
def lengthAssignment (workspace : Workspace R) (region : Region) : Assignment R :=
  (.workspace region, .length (some (workspace.lengths.of region)))

omit [Arith R] in
theorem ofKey?_lengthOption (region : Region) :
    SettingName.ofKey? (canonicalKey region.lengthOption) = some (.workspace region) := by
  cases region <;> decide +kernel

/-- To announce a length is an assignment. -/
theorem setOption_length (workspace : Workspace R) (region : Region)
    (solver : AugmentedLagrangian R) :
    let told := setOption region.lengthOption (.integer (workspace.lengths.of region)) solver
    told.2.settings.value =
      assignAll solver.settings.value [lengthAssignment workspace region] := by
  have counted : Settings.count? (workspace.lengths.of region : Int) =
      some (workspace.lengths.of region) :=
    if_pos (Int.natCast_nonneg _)
  simp only [setOption, Settings.set, ofKey?_lengthOption, Settings.setInteger, counted,
    Option.map_some]
  funext other
  cases other with
  | workspace other => cases region <;> cases other <;> rfl
  | _ => rfl

/-- To announce lengths is to assign those that fit, up to the first that does not. -/
theorem exists_announced (workspace : Workspace R) (regions : List Region)
    (solver : AugmentedLagrangian R) :
    ∃ announced : List Region,
      (announceLengths regions workspace solver).2.2.settings.value =
          assignAll solver.settings.value (announced.map (lengthAssignment workspace)) ∧
        ((announceLengths regions workspace solver).1 = .ok () → announced = regions) := by
  induction regions generalizing solver with
  | nil => exact ⟨[], rfl, fun _ => rfl⟩
  | cons region rest ih =>
      rw [announceLengths]
      rcases checkCount .workspaceLength (workspace.lengths.of region) with failure | passed
      · exact ⟨[], rfl, nofun⟩
      · obtain ⟨announced, assigned, all⟩ :=
          ih (setOption region.lengthOption (.integer (workspace.lengths.of region)) solver).2
        refine ⟨region :: announced, assigned.trans ?_, fun told => ?_⟩
        · rw [setOption_length, ← assignAll_append]
          rfl
        · rw [all told]

end NonlinearProgram.AugmentedLagrangian
