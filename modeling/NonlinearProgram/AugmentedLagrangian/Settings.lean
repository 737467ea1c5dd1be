import NonlinearProgram.Decimal.Reading
import NonlinearProgram.Solver.Option
import NonlinearProgram.Solver.Workspace
import NonlinearProgram.Text.Blank

/-!
# Settings of the augmented-Lagrangian solver

The solver is tuned by options. A key names a setting regardless of the case of its ASCII letters
and of the white space around and between its words. `Settings.set` gives the settings with an
option applied, or nothing if the option is an error.
-/

namespace NonlinearProgram.AugmentedLagrangian

structure Settings (R : Type) where
  majorIterationsLimit : Nat
  /-- Limit on projected-gradient steps of a whole solve. -/
  iterationsLimit : Nat
  optimalityTolerance : R
  feasibilityTolerance : R
  penalty : R
  /-- Magnitude of the objective from which on it counts as unbounded. -/
  unboundedObjective : R
  printLevel : Int
  printSolution : Bool
  /-- Workspace lengths the solver was told. -/
  workspace : Region → Option Nat

def Settings.default {R : Type} [Arith R] : Settings R where
  majorIterationsLimit := 1000
  iterationsLimit := 10000
  optimalityTolerance := 1.0e-6
  feasibilityTolerance := 1.0e-6
  penalty := 10.0
  unboundedObjective := 1.0e15
  printLevel := 1
  printSolution := false
  workspace _ := none

inductive SettingName where
  | majorIterationsLimit
  | iterationsLimit
  | printLevel
  | workspace (region : Region)
  | optimalityTolerance
  | feasibilityTolerance
  | penalty
  | unboundedObjective
  | printSolution
  deriving DecidableEq, Repr

/-- The words of a key in lower case, one blank between them. -/
def canonicalKey (key : String) : String :=
  " ".intercalate ((words isBlank key.toList).map fun word => String.ofList (word.map Char.toLower))

/-- The setting a normalized key names. -/
def SettingName.ofKey? : String → Option SettingName
  | "major iterations limit" => some .majorIterationsLimit
  | "iterations limit" => some .iterationsLimit
  | "major print level" => some .printLevel
  | "total character workspace" => some (.workspace .character)
  | "total integer workspace" => some (.workspace .integer)
  | "total real workspace" => some (.workspace .real)
  | "major optimality tolerance" => some .optimalityTolerance
  | "major feasibility tolerance" => some .feasibilityTolerance
  | "penalty parameter" => some .penalty
  | "unbounded objective value" => some .unboundedObjective
  | "print solution" => some .printSolution
  | _ => none

namespace Settings

variable {R : Type} [Arith R]

/-- Sets a setting with a real value, which has to be finite and positive. -/
def setReal (settings : Settings R) (name? : Option SettingName) (value : R) :
    Option (Settings R) :=
  if !Arith.isFinite value || decide (value ≤ 0) then none
  else
    match name? with
    | some .optimalityTolerance => some { settings with optimalityTolerance := value }
    | some .feasibilityTolerance => some { settings with feasibilityTolerance := value }
    | some .penalty => some { settings with penalty := value }
    | some .unboundedObjective => some { settings with unboundedObjective := value }
    | _ => none

/-- A count, which is not negative. -/
def count? (value : Int) : Option Nat := if 0 ≤ value then some value.toNat else none

/-- Sets a setting to an integer. Real-valued settings take integers as well. -/
def setInteger (settings : Settings R) (name? : Option SettingName) (value : Int) :
    Option (Settings R) :=
  match name? with
  | some .majorIterationsLimit =>
      (count? value).map fun count => { settings with majorIterationsLimit := count }
  | some .iterationsLimit =>
      (count? value).map fun count => { settings with iterationsLimit := count }
  | some .printLevel => some { settings with printLevel := value }
  | some (.workspace region) =>
      (count? value).map fun count =>
        { settings with
          workspace := fun other =>
            if other = region then some count else settings.workspace other }
  | name? => setReal settings name? (Arith.ofInt value)

/-- Sets a setting to a text: yes or no for the setting that is a choice, a number for the
others. -/
def setText (settings : Settings R) (name? : Option SettingName) (value : String) :
    Option (Settings R) :=
  let text := trim value.toList
  match name? with
  | some .printSolution =>
      match String.ofList (text.map Char.toLower) with
      | "yes" => some { settings with printSolution := true }
      | "no" => some { settings with printSolution := false }
      | _ => none
  | name? =>
      match Decimal.readInteger? text with
      | some value => setInteger settings name? value
      | none => (Decimal.readReal? text).bind (setReal settings name?)

def set (settings : Settings R) (key : String) (value : OptionValue R) : Option (Settings R) :=
  let name? := SettingName.ofKey? (canonicalKey key)
  match value with
  | .text value => setText settings name? value
  | .integer value => setInteger settings name? value
  | .real value => setReal settings name? value

end Settings

end NonlinearProgram.AugmentedLagrangian
