import NonlinearProgram.AugmentedLagrangian.Iteration

/-!
# The augmented-Lagrangian solver

An engine for small problems: constraints are handled by an augmented Lagrangian, the box of the
variables by projection. A call is refused before the callback is reached, or solved to an exit;
both are written to the channels that are open. After a solve the callback is notified once, unless
it asked to stop.
-/

namespace NonlinearProgram

namespace AugmentedLagrangian

variable {R : Type} [Arith R] {τ : Type} {n nf neg : Nat}

/-- The value lies at a finite bound, up to a relative tolerance. -/
def isAtBound (tolerance value bound : R) : Bool :=
  decide (Arith.abs bound < infiniteBound) &&
    decide (Arith.abs (value - bound) ≤ tolerance * (1 + Arith.abs bound))

/-- State code of a variable: zero at its lower bound, one at its upper bound, two between. -/
def variableCode (tolerance value lower upper : R) : Int :=
  if isAtBound tolerance value lower then 0
  else if isAtBound tolerance value upper then 1
  else 2

/-- State code of a function row: like that of a variable, with three between the bounds. -/
def rowCode (tolerance value lower upper : R) : Int :=
  if variableCode tolerance value lower upper = 2 then 3
  else variableCode tolerance value lower upper

/-- Number of superbasic variables: free variables less active rows. -/
def superbasics (xState fState : Array Int) : Int :=
  (xState.countP (· == 2) - fState.countP (· != 3) : Nat)

def Progress.state (progress : Progress R n nf) (settings : Settings R)
    (program : Program R n nf neg) : SolverState R :=
  let point := progress.point
  let lambda := progress.multipliers.lambda
  let tolerance := settings.feasibilityTolerance
  let xState := Array.ofFn fun j : Fin n =>
    variableCode tolerance (point.x.get j) (program.xLower.get j) (program.xUpper.get j)
  let fState := Array.ofFn fun i : Fin nf =>
    if i = program.objective then 3
    else rowCode tolerance (point.f.get i) (program.fLower.get i) (program.fUpper.get i)
  { superbasics := superbasics xState fState
    x := point.x.toArray
    xState
    xMul := (reducedGradient program lambda point.jacobian).toArray
    f := point.f.toArray
    fState
    fMul := lambda.toArray }

def Progress.solutionLines (progress : Progress R n nf) (settings : Settings R)
    (program : Program R n nf neg) : List (Line R) :=
  let x := progress.point.x
  let reduced :=
    reducedGradient program progress.multipliers.lambda progress.point.jacobian
  .solutionHeading :: (List.finRange n).map fun (j : Fin n) =>
    .solution (j.val + 1)
      (variableCode settings.feasibilityTolerance (x.get j) (program.xLower.get j)
        (program.xUpper.get j))
      (x.get j) (program.xLower.get j) (program.xUpper.get j) (reduced.get j)

/-- What a solve leaves: its report, the final state, the lines printed on the way, and the state of
the callback. -/
structure Outcome (R τ : Type) where
  report : EngineReport R
  state : SolverState R
  log : List (Line R)
  callbackState : τ

def Program.solve (program : Program R n nf neg) (settings : Settings R) (minimums : Lengths)
    (callback : Callback R τ n nf neg) (state : τ) : Outcome R τ :=
  let (finish, progress, evaluator) := program.run settings callback state
  let evaluator :=
    if finish = .userStop then evaluator else evaluator.finish callback progress.point.x
  let violation := violation program settings.feasibilityTolerance progress.point.f
  { report :=
      { inform := finish.code
        iterations := settings.iterationsLimit - progress.remaining
        majorIterations := progress.major
        infeasibilities := violation.count
        infeasibilitySum := violation.sum
        minimums }
    state := progress.state settings program
    log := progress.log ++
      if settings.printSolution then progress.solutionLines settings program else []
    callbackState := evaluator.state }

/-- Answer to a refused call. The state stays as it was handed in. -/
def Refusal.outcome (refusal : Refusal) (call : EngineCall R n nf neg) (minimums : Lengths)
    (state : τ) : Outcome R τ where
  report :=
    { inform := refusal.code, iterations := 0, majorIterations := 0, infeasibilities := 0
      infeasibilitySum := 0, minimums }
  state := call.state
  log := []
  callbackState := state

/-- Solves a call, or refuses it. -/
def runCall (settings : Settings R) (call : EngineCall R n nf neg)
    (callback : Callback R τ n nf neg) (state : τ) : Outcome R τ :=
  let minimums := storageNeeds call.storageRequest
  match call.accept with
  | .ok program => program.solve settings minimums callback state
  | .error refusal => refusal.outcome call minimums state

def problemLine (call : EngineCall R n nf neg) : Line R :=
  .problem call.name n nf neg call.linear.size call.mode

/-- Last lines about a solve on the summary channel. The first of them also ends the print
channel. -/
def closingLines (report : EngineReport R) : List (Line R) :=
  [.exit (.ofCode report.inform),
    .totals report.majorIterations report.iterations report.infeasibilities
      report.infeasibilitySum]

end AugmentedLagrangian

/-- The augmented-Lagrangian solver: its settings, as changed by options, and its channels. -/
structure AugmentedLagrangian (R : Type) where
  settings : AugmentedLagrangian.Settings R
  print : AugmentedLagrangian.Transcript R := {}
  summary : AugmentedLagrangian.Transcript R := {}

namespace AugmentedLagrangian

variable {R : Type} [Arith R] {τ : Type} {n nf neg : Nat}

def new : AugmentedLagrangian R where
  settings := .default

def close (solver : AugmentedLagrangian R) : AugmentedLagrangian R :=
  { solver with print := solver.print.close, summary := solver.summary.close }

/-- Opens the channels anew, the print channel first. After a failure both are closed. -/
def openChannels (config : OutputRouting) (solver : AugmentedLagrangian R) :
    Except ChannelFailure Unit × AugmentedLagrangian R :=
  match Transcript.create .print config with
  | .error failure => (.error failure, { solver with print := {}, summary := {} })
  | .ok print =>
    match Transcript.create .summary config with
    | .error failure => (.error failure, { solver with print := print.close, summary := {} })
    | .ok summary => (.ok (), { solver with print, summary })

/-- Storage needs of a problem; invalid if the workspace is below the floor. -/
def storageEstimate (request : StorageRequest) (workspace : Workspace R) : StorageEstimate where
  inform := if workspace.isBelowFloor then Refusal.belowFloor.code else StorageEstimate.valid
  minimums := storageNeeds request

/-- Applies an option and counts the errors; an option that is an error changes nothing. -/
def setOption (key : String) (value : OptionValue R) (solver : AugmentedLagrangian R) :
    UInt64 × AugmentedLagrangian R :=
  match solver.settings.set key value with
  | some settings => (0, { solver with settings })
  | none => (1, solver)

/-- Runs a solve and writes about it. -/
def solve (call : EngineCall R n nf neg) (callback : Callback R τ n nf neg)
    (solver : AugmentedLagrangian R) (state : τ) :
    (EngineReport R × SolverState R) × AugmentedLagrangian R × τ :=
  let outcome := runCall solver.settings call callback state
  let closing := closingLines outcome.report
  let print := solver.print.write (problemLine call :: outcome.log ++ closing.take 1)
  let summary := solver.summary.write closing
  ((outcome.report, outcome.state), { solver with print, summary }, outcome.callbackState)

/-- The workspace that is lent stays as it is. -/
instance : Engine R (AugmentedLagrangian R) where
  openChannels config solver :=
    let (opened, solver) := openChannels config solver
    (opened.mapError .channel, solver)
  closeChannels := close
  storage request workspace solver := (storageEstimate request workspace, workspace, solver)
  setOption key value workspace solver :=
    let (errors, solver) := setOption key value solver
    (errors, workspace, solver)
  solve := solve

end AugmentedLagrangian

end NonlinearProgram
