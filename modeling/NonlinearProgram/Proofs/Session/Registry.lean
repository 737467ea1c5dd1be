import NonlinearProgram.Proofs.Session.History

/-!
# Options that have been removed

A session hands its options to the solver before each solve, and the solver keeps what they have
assigned. A later solve assigns anew what its options name, so an option that is replaced is made
up for. An option that is removed is not: nothing takes the solver back to the settings it came
with. The settings in force are those after all tables that solves have handed over, one after the
other, `readySolver_through`, and not those after the present table alone, `removed_option_stays`.
-/

namespace NonlinearProgram

open AugmentedLagrangian

variable {R σ : Type} [Arith R]

/-! ## Tables of options -/

/-- Settings without the lengths of the workspace that have been recorded. -/
def AugmentedLagrangian.Settings.tuning (settings : Settings R) : Settings R :=
  { settings with workspace := fun _ => none }

omit [Arith R] in
theorem value_tuning_congr {left right : Settings R} {name : SettingName}
    (same : left.value name = right.value name) :
    left.tuning.value name = right.tuning.value name := by
  cases name with
  | workspace => rfl
  | _ => exact same

omit [Arith R] in
theorem tuning_ext {left right : Settings R}
    (same : ∀ name, left.tuning.value name = right.tuning.value name) :
    left.tuning = right.tuning :=
  Settings.value_injective (funext same)

/-- A solver to which a table has been applied. It has no use for the workspace that it is lent with
the options, so any will do. -/
def OptionTable.applyTo (table : OptionTable R) (solver : AugmentedLagrangian R) :
    AugmentedLagrangian R :=
  (table.apply (.exact ⟨0, 0, 0⟩) solver).2.2

/-- The settings do not depend on the workspace that is lent. -/
theorem OptionTable.settings_apply (table : OptionTable R) (workspace : Workspace R)
    (solver : AugmentedLagrangian R) :
    (table.apply workspace solver).2.2.settings = (table.applyTo solver).settings := by
  obtain ⟨own, applied⟩ := exists_assignments table.entries
  exact Settings.value_injective
    ((applied {} workspace solver).trans (applied {} (.exact ⟨0, 0, 0⟩) solver).symm)

/-- A table decides about a setting: it gives it the same value whatever the value was before. -/
def OptionTable.Decides (table : OptionTable R) (name : SettingName) : Prop :=
  ∀ solver solver' : AugmentedLagrangian R,
    (table.applyTo solver).settings.value name = (table.applyTo solver').settings.value name

/-- A table decides about a setting or leaves it. -/
theorem OptionTable.decides_or_leaves (table : OptionTable R) (name : SettingName) :
    table.Decides name ∨ ∀ solver : AugmentedLagrangian R,
      (table.applyTo solver).settings.value name = solver.settings.value name := by
  obtain ⟨own, applied⟩ := exists_assignments table.entries
  have assigned (solver : AugmentedLagrangian R) :
      (table.applyTo solver).settings.value = assignAll solver.settings.value own :=
    applied {} (.exact ⟨0, 0, 0⟩) solver
  by_cases named : name ∈ own.map Prod.fst
  · left
    intro solver solver'
    rw [assigned, assigned]
    exact assignAll_of_mem named _ _
  · right
    intro solver
    rw [assigned]
    exact assignAll_of_notMem named _

/-- What a table leaves in a setting depends on what was there, and on no other setting. -/
theorem value_apply_congr (table : OptionTable R) {solver solver' : AugmentedLagrangian R}
    {name : SettingName}
    (same : solver.settings.tuning.value name = solver'.settings.tuning.value name) :
    (table.applyTo solver).settings.tuning.value name =
      (table.applyTo solver').settings.tuning.value name := by
  rcases table.decides_or_leaves name with decides | leaves
  · exact value_tuning_congr (decides solver solver')
  · calc
      (table.applyTo solver).settings.tuning.value name = solver.settings.tuning.value name :=
        value_tuning_congr (leaves solver)
      _ = solver'.settings.tuning.value name := same
      _ = (table.applyTo solver').settings.tuning.value name :=
        (value_tuning_congr (leaves solver')).symm

theorem tuning_apply_congr (table : OptionTable R) {solver solver' : AugmentedLagrangian R}
    (same : solver.settings.tuning = solver'.settings.tuning) :
    (table.applyTo solver).settings.tuning = (table.applyTo solver').settings.tuning := by
  apply tuning_ext
  intro name
  apply value_apply_congr
  rw [same]

/-- A solver to which tables have been applied one after the other. -/
def applyTables (tables : List (OptionTable R)) (solver : AugmentedLagrangian R) :
    AugmentedLagrangian R :=
  tables.foldl (fun solver table => table.applyTo solver) solver

theorem applyTables_append (first second : List (OptionTable R)) (solver : AugmentedLagrangian R) :
    applyTables (first ++ second) solver = applyTables second (applyTables first solver) :=
  List.foldl_append

theorem tuning_applyTables_congr (tables : List (OptionTable R))
    {solver solver' : AugmentedLagrangian R}
    (same : solver.settings.tuning = solver'.settings.tuning) :
    (applyTables tables solver).settings.tuning = (applyTables tables solver').settings.tuning := by
  induction tables generalizing solver solver' with
  | nil => exact same
  | cons table rest ih => exact ih (tuning_apply_congr table same)

/-- Announced lengths are all that is recorded when lengths are announced. -/
theorem tuning_announceLengths (workspace : Workspace R) (regions : List Region)
    (solver : AugmentedLagrangian R) :
    (announceLengths regions workspace solver).2.2.settings.tuning = solver.settings.tuning := by
  obtain ⟨announced, assigned, _⟩ := exists_announced workspace regions solver
  apply tuning_ext
  intro name
  cases name with
  | workspace => rfl
  | _ =>
      apply value_tuning_congr
      rw [assigned]
      apply assignAll_of_notMem
      simp [lengthAssignment]

namespace Session

/-! ## One solve -/

variable [Precision R]

/-- When the solver is called, the present options have been applied to the settings it had. -/
theorem tuning_readySolver (session : Session R (AugmentedLagrangian R)) (d : Differentiator R σ) :
    (session.readySolver d).settings.tuning =
      (session.options.applyTo session.engine).settings.tuning := by
  rw [readySolver, tuning_announceLengths, configure, OptionTable.settings_apply]
  apply tuning_apply_congr
  exact congrArg Settings.tuning (settings_openChannels session.settings.routing session.engine)

/-- The options a solve hands over: those of the session, if the solve gets that far. -/
def handed (session : Session R (AugmentedLagrangian R)) (d : Differentiator R σ) (job : Job R) :
    List (OptionTable R) :=
  if session.handsOver d job then [session.options] else []

/-- A solve leaves the settings to which the options that it handed over have been applied. -/
theorem tuning_solveWith (session : Session R (AugmentedLagrangian R))
    (d : Differentiator R σ) (job : Job R) (memory : d.Memory) :
    (session.solveWith d job memory).2.1.engine.settings.tuning =
      (applyTables (session.handed d job) session.engine).settings.tuning := by
  rw [settings_solveWith, handed]
  split
  case isTrue => exact tuning_readySolver session d
  case isFalse => rfl

/-! ## Histories -/

/-- What can be done with a session: its options are edited, or a problem is solved. -/
inductive Step (R : Type) where
  | set (key : String) (value : OptionValue R)
  | remove (key : String)
  | replace (table : OptionTable R)
  | solve {υ : Type} (d : Differentiator R υ) (job : Job R) (memory : d.Memory)

/-- A session after one step. -/
def Step.take (session : Session R (AugmentedLagrangian R)) :
    Step R → Session R (AugmentedLagrangian R)
  | set key value => { session with options := session.options.set key value }
  | remove key => { session with options := session.options.erase key }
  | replace table => { session with options := table }
  | solve d job memory => (session.solveWith d job memory).2.1

/-- The options that a step hands over to the solver. -/
def Step.handed (session : Session R (AugmentedLagrangian R)) : Step R → List (OptionTable R)
  | solve d job _ => session.handed d job
  | _ => []

/-- A session after some steps. -/
def through (session : Session R (AugmentedLagrangian R)) (steps : List (Step R)) :
    Session R (AugmentedLagrangian R) :=
  steps.foldl Step.take session

/-- A solve with a new differentiator is one of the steps, or none if it cannot be built. -/
theorem exists_through_solve (session : Session R (AugmentedLagrangian R)) (problem : Problem R σ)
    (pattern : Pattern) (method : Method) (job : Job R) (state : σ) :
    ∃ steps, (session.solve problem pattern method job state).2.1 = session.through steps := by
  rw [Session.solve]
  rcases Differentiator.build problem pattern method with failure | d
  · exact ⟨[], rfl⟩
  · exact ⟨[.solve d job (.fresh state)], rfl⟩

/-- The tables that solves have handed over in the course of some steps. -/
def handedOver (session : Session R (AugmentedLagrangian R)) :
    List (Step R) → List (OptionTable R)
  | [] => []
  | step :: rest => step.handed session ++ (step.take session).handedOver rest

/-- A step leaves the settings to which the options that it handed over have been applied. -/
theorem tuning_take (session : Session R (AugmentedLagrangian R)) (step : Step R) :
    (step.take session).engine.settings.tuning =
      (applyTables (step.handed session) session.engine).settings.tuning := by
  cases step with
  | solve d job memory => exact tuning_solveWith session d job memory
  | _ => rfl

/-- Steps leave the settings to which all options that were handed over have been applied. -/
theorem tuning_through (session : Session R (AugmentedLagrangian R)) (steps : List (Step R)) :
    (session.through steps).engine.settings.tuning =
      (applyTables (session.handedOver steps) session.engine).settings.tuning := by
  induction steps generalizing session with
  | nil => rfl
  | cons step rest ih =>
      rw [handedOver, applyTables_append]
      refine (ih (step.take session)).trans ?_
      apply tuning_applyTables_congr
      exact tuning_take session step

/-- The settings in force when a solve starts, recorded lengths aside, after any editing of the
options and any solves. They are those after all tables that solves have handed over, one after the
other, and then the present one. The present table alone accounts for them exactly if it decides
about every setting that the earlier ones have left at another value than the solver came with. -/
theorem readySolver_through (session : Session R (AugmentedLagrangian R)) (steps : List (Step R))
    (d : Differentiator R σ) :
    let later := session.through steps
    let earlier := applyTables (session.handedOver steps) session.engine
    let inForce := (later.readySolver d).settings.tuning
    inForce = (later.options.applyTo earlier).settings.tuning ∧
      (inForce = (later.options.applyTo session.engine).settings.tuning ↔
        ∀ name, later.options.Decides name ∨
          earlier.settings.tuning.value name = session.engine.settings.tuning.value name) := by
  intro later earlier inForce
  have reached : inForce = (later.options.applyTo earlier).settings.tuning := by
    rw [show inForce = _ from tuning_readySolver later d]
    apply tuning_apply_congr
    exact tuning_through session steps
  refine ⟨reached, ?_⟩
  rw [reached]
  constructor
  · intro governs name
    rcases later.options.decides_or_leaves name with decides | leaves
    · exact .inl decides
    · right
      calc
        earlier.settings.tuning.value name =
            (later.options.applyTo earlier).settings.tuning.value name :=
          (value_tuning_congr (leaves earlier)).symm
        _ = (later.options.applyTo session.engine).settings.tuning.value name := by rw [governs]
        _ = session.engine.settings.tuning.value name := value_tuning_congr (leaves session.engine)
  · intro accounted
    apply tuning_ext
    intro name
    rcases accounted name with decides | untouched
    · exact value_tuning_congr (decides earlier session.engine)
    · exact value_apply_congr later.options untouched

/-- A limit of zero iterations is set for one solve of the square and the product and removed after
it. The table is empty again, yet the limit in force is zero and not the one that the solver came
with. -/
theorem removed_option_stays :
    let d := Differentiator.onSparse squareAndProduct squareAndProductEntries .supplied
    let job : Job Double := ⟨.cold #[2.0, 3.0, 4.0] 3, .free ⟨3, 2⟩, 0⟩
    let later := usual.through
      [.set "Iterations limit" (.integer 0), .solve d job (.fresh ()), .remove "Iterations limit"]
    later.options.isEmpty ∧
      (later.readySolver d).settings.tuning.iterationsLimit = 0 ∧
        (later.readySolver d).settings.tuning ≠
          (later.options.applyTo usual.engine).settings.tuning := by
  intro d job later
  have emptied : later.options.isEmpty := by decide +kernel
  have inForce : (later.readySolver d).settings.tuning.iterationsLimit = 0 := by decide +kernel
  have asTabled :
      (later.options.applyTo usual.engine).settings.tuning.iterationsLimit = 10000 := by
    decide +kernel
  refine ⟨emptied, inForce, fun same => ?_⟩
  rw [same, asTabled] at inForce
  exact absurd inForce (by decide)

end Session

end NonlinearProgram
