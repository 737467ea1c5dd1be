import NonlinearProgram.Arith.Double
import NonlinearProgram.Decimal.Scientific
import NonlinearProgram.Solver.Engine
import NonlinearProgram.Solver.Exit

/-!
# Printed lines

The solver writes about a solve on its print and summary channels. A `Line` is what is written, and
`Line.text` lays it out in columns.
-/

namespace NonlinearProgram.AugmentedLagrangian

/-- Something the solver writes. -/
inductive Line (R : Type) where
  | problem (name : String) (n nf neg linear : Nat) (mode : StartMode)
  | majorHeading
  | major (major minors : Nat) (objective feasibility optimality penalty : R)
  | solutionHeading
  | solution (index : Nat) (state : Int) (value lower upper multiplier : R)
  | exit (outcome : Exit)
  | totals (majors minors infeasibilities : Nat) (sum : R)

namespace Line

open Decimal (alignRight scientific)

def count (width : Nat) (value : Nat) : String := alignRight width (toString value)

/-- A real in a column, with a number of places after the point. -/
def real (width places : Nat) (value : Double) : String :=
  alignRight width (scientific places value.value)

def text : Line Double → String
  | problem name n nf neg linear mode =>
      s!" Problem {name}: n = {n}, nF = {nf}, neG = {neg}, neA = {linear}, start = {mode.name}"
  | majorHeading => " Major Minors     Objective    Feasible     Optimal   Penalty"
  | major index minors objective feasibility optimality penalty =>
      " ".intercalate [count 6 index, count 6 minors, real 13 6 objective, real 11 1 feasibility,
        real 11 1 optimality, real 9 1 penalty]
  | solutionHeading =>
      " Variable     State          Value          Lower          Upper     Multiplier"
  | solution index state value lower upper multiplier =>
      " ".intercalate [count 9 index, alignRight 9 (toString state), real 14 6 value,
        real 14 6 lower, real 14 6 upper, real 14 6 multiplier]
  | exit outcome => " " ++ outcome.display
  | totals majors minors infeasibilities sum =>
      s!" Major iterations {count 8 majors}  Minor iterations {count 8 minors}  " ++
        s!"Infeasibilities {count 4 infeasibilities} ({scientific 2 sum.value})"

end Line

/-- A channel and what has been written to the file it was last opened with. -/
structure Transcript (R : Type) where
  isOpen : Bool := false
  /-- Lines of the file, if one was created. -/
  lines : Option (Array (Line R)) := none

namespace Transcript

variable {R : Type}

/-- Opens a channel with an empty file, if there is a file and the unit is positive. -/
def create (channel : Channel) (config : OutputRouting) : Except ChannelFailure (Transcript R) :=
  match config.file? channel with
  | some file =>
      if 0 < config.unit channel then
        match file.failure? with
        | some reason => .error ⟨channel, file.path, reason⟩
        | none => .ok { isOpen := true, lines := some #[] }
      else .ok {}
  | none => .ok {}

/-- Closes the channel; its file stays. -/
def close (transcript : Transcript R) : Transcript R := { transcript with isOpen := false }

/-- Writes lines if the channel is open. -/
def write (transcript : Transcript R) (lines : List (Line R)) : Transcript R :=
  if transcript.isOpen then { transcript with lines := transcript.lines.map (· ++ lines.toArray) }
  else transcript

/-- A line without the return before its break. -/
def withoutReturn (line : List Char) : List Char :=
  if line.getLast? = some '\r' then line.dropLast else line

/-- Lines of the file as they read back: a break inside a text ends a line, and a return before a
break belongs to it. -/
def read? (transcript : Transcript Double) : Option (List String) :=
  transcript.lines.map fun lines =>
    (lines.toList.flatMap (·.text.splitOn "\n")).map fun line =>
      String.ofList (withoutReturn line.toList)

end Transcript

end NonlinearProgram.AugmentedLagrangian
