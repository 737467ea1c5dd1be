import NonlinearProgram.Setup
import NonlinearProgram.Solver.Option
import NonlinearProgram.Solver.Start
import NonlinearProgram.Solver.Workspace

/-!
# Solver engines

An engine is a solver behind a fixed calling convention. Streams are opened, options are set one by
one, storage needs are asked for, and one blocking solve calls back into the problem. Index lists
count from one. The engine receives lists of whatever lengths the caller passes, so it is the
engine's part to refuse a malformed call. Errors in setting options are counted in words.

A callback may carry state of any type through a solve; the engine threads it from call to call and
cannot look at it.
-/

namespace NonlinearProgram

inductive Channel where
  | print
  | summary
  deriving DecidableEq, Repr

def Channel.name : Channel → String
  | .print => "print"
  | .summary => "summary"

/-- A file to write to, with what prevents its creation, if anything does: that is for the file
system to say. -/
structure OutputFile where
  path : String
  failure? : Option String := none
  deriving DecidableEq, Repr

/-- Where the channels lead. A channel without a file, or with a unit that is not positive, stays
closed. -/
structure OutputRouting where
  printUnit : Int := 18
  summaryUnit : Int := 19
  printFile : Option OutputFile := none
  summaryFile : Option OutputFile := none
  deriving DecidableEq, Repr

def OutputRouting.unit (config : OutputRouting) : Channel → Int
  | .print => config.printUnit
  | .summary => config.summaryUnit

def OutputRouting.file? (config : OutputRouting) : Channel → Option OutputFile
  | .print => config.printFile
  | .summary => config.summaryFile

structure ChannelFailure where
  channel : Channel
  path : String
  reason : String
  deriving DecidableEq, Repr

def ChannelFailure.message (failure : ChannelFailure) : String :=
  s!"Failed to open {failure.channel.name} stream at {failure.path}: {failure.reason}"

/-- A number that has to fit the integers of a solver. -/
inductive SolverCount where
  | functions
  | variables
  | rows
  | columns
  | workspaceLength
  deriving DecidableEq, Repr

def SolverCount.name : SolverCount → String
  | .functions => "nF"
  | .variables => "n"
  | .rows => "iGfun"
  | .columns => "jGvar"
  | .workspaceLength => "workspace length"

inductive SessionError where
  | setup (failure : SetupError)
  | channel (failure : ChannelFailure)
  | overflow (what : SolverCount) (value : Nat)
  deriving DecidableEq, Repr

def SessionError.message : SessionError → String
  | .setup failure => failure.message
  | .channel failure => failure.message
  | .overflow what value => s!"Value {value} for {what.name} exceeds the solver integer range"

/-- One request of a solver for values of the problem functions at a point. -/
structure Request (R : Type) (n : Nat) where
  /-- One on the first call of a solve, two or more on the last one, else zero. -/
  status : Int
  x : Vector R n
  valuesWanted : Int
  derivativesWanted : Int

/-- Answer to a request, with the buffers for values and derivatives as they are left. -/
structure Reply (R : Type) (nf neg : Nat) where
  /-- Minus one where the functions are undefined, less to stop the solve. -/
  status : Int
  f : Vector R nf
  g : Vector R neg

/-- The problem functions of a solve, with a state of type `τ`. They are lent buffers for function
values and derivatives. -/
abbrev Callback (R τ : Type) (n nf neg : Nat) :=
  Request R n → Vector R nf → Vector R neg → StateM τ (Reply R nf neg)

/-- Arguments of a solve with `n` variables, `nf` function rows and `neg` nonlinear derivatives. -/
structure EngineCall (R : Type) (n nf neg : Nat) where
  mode : StartMode
  name : String
  objectiveConstant : R
  objectiveRow : Nat
  /-- Coefficients of the linear part; their rows and columns follow. -/
  linear : Array R
  linearRows : Array Int
  linearColumns : Array Int
  /-- Rows of the nonlinear derivatives; their columns follow. -/
  rows : Vector Int neg
  columns : Array Int
  xLower : Array R
  xUpper : Array R
  fLower : Array R
  fUpper : Array R
  xNames : Array String
  fNames : Array String
  state : SolverState R
  workspace : Workspace R

structure EngineReport (R : Type) where
  inform : Int
  iterations : Nat
  majorIterations : Nat
  infeasibilities : Nat
  infeasibilitySum : R
  minimums : Lengths

/-- A solver behind the calling convention; `ε` is its own state. It is lent the workspace whenever
an option is set or its needs are asked for, and may change it. -/
class Engine (R : outParam Type) (ε : Type) where
  openChannels : OutputRouting → ε → Except SessionError Unit × ε
  /-- Closes the channels; harmless when they are closed. -/
  closeChannels : ε → ε
  storage : StorageRequest → Workspace R → ε → StorageEstimate × Workspace R × ε
  /-- Sets an option; gives the number of errors. -/
  setOption : String → OptionValue R → Workspace R → ε → UInt64 × Workspace R × ε
  solve {τ : Type} {n nf neg : Nat} (call : EngineCall R n nf neg)
    (callback : Callback R τ n nf neg) (engine : ε) (state : τ) :
    (EngineReport R × SolverState R) × ε × τ

/-- Outcome of handing options to an engine: how many were handed over, the keys of those that were
withheld, and the errors the engine counted. -/
structure AppliedOptions where
  applied : Nat := 0
  skipped : List String := []
  errors : UInt64 := 0
  deriving DecidableEq, Repr

/-- Hands options to an engine in order. Neither a rejected option nor an error stops the others. -/
def applyOptions {R ε : Type} [Engine R ε] (summary : AppliedOptions) :
    List (String × OptionValue R) → Workspace R → ε → AppliedOptions × Workspace R × ε
  | [], workspace, engine => (summary, workspace, engine)
  | (key, value) :: rest, workspace, engine =>
      if (optionFault? key value).isSome then
        applyOptions { summary with skipped := summary.skipped ++ [key] } rest workspace engine
      else
        let (errors, workspace, engine) := Engine.setOption key value workspace engine
        applyOptions
          { summary with applied := summary.applied + 1, errors := summary.errors + errors }
          rest workspace engine

def OptionTable.apply {R ε : Type} [Engine R ε] (table : OptionTable R) (workspace : Workspace R)
    (engine : ε) : AppliedOptions × Workspace R × ε :=
  applyOptions {} table.entries workspace engine

end NonlinearProgram
