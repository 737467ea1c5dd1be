import NonlinearProgram.Bounds
import NonlinearProgram.Relay
import NonlinearProgram.Solver.Exit
import NonlinearProgram.Solver.InfiniteBound

/-!
# Sessions

A session drives an engine through solves. One solve is a fixed sequence: the inputs are validated,
the channels opened, the options set, storage is negotiated and its lengths announced, the engine
runs with a relay as its callback, and the channels are closed, whatever happened since they were
opened.

A solve that stops short of an optimum is no error. What can fail is what comes before it.
-/

namespace NonlinearProgram

structure SessionSettings where
  /-- Initial length of the integer and real workspace per function row and variable. -/
  baseLength : Nat := Workspace.usualBaseLength
  routing : OutputRouting := {}
  problemName : String := "nlpbridge"
  deriving DecidableEq, Repr

structure Session (R ε : Type) where
  engine : ε
  settings : SessionSettings := {}
  options : OptionTable R := {}

structure SessionResult (R : Type) where
  state : SolverState R
  /-- Objective, its constant included. -/
  objective : R
  report : EngineReport R
  stats : RelayStats

namespace SessionResult

variable {R : Type}

def exit (result : SessionResult R) : Exit := .ofCode result.report.inform

def constraints (result : SessionResult R) : Array R := result.state.f.extract 1

/-- The state from which a later solve of the same structure can resume. -/
def warmStart (result : SessionResult R) : Start R := ⟨.warm, result.state⟩

end SessionResult

def maxSolverInteger : Nat := 2147483647

/-- Checks that a number fits the integers of a solver. -/
def checkCount (what : SolverCount) (value : Nat) : Except SessionError Unit :=
  if value ≤ maxSolverInteger then .ok () else .error (.overflow what value)

structure Job (R : Type) where
  start : Start R
  bounds : Bounds R
  objectiveConstant : R

/-- What a session needs of a problem: sizes, a pattern of derivatives, and a callback that answers
for the functions. The callback begins with a memory and leaves one. Nothing makes the pattern one
of these sizes. -/
structure Supplier (R τ μ : Type) where
  dims : Dimensions
  pattern : Pattern
  callback : Callback R τ dims.nx dims.rows pattern.solverSize
  fresh : μ → τ
  stats : τ → RelayStats
  memory : τ → μ

section

variable {R σ τ μ : Type} [Arith R]

namespace Supplier

/-- Checks the data of a solve: pattern, bounds, start, objective constant. -/
def validate (supplier : Supplier R τ μ) (job : Job R) : Except SetupError Unit := do
  supplier.pattern.checkShape supplier.dims
  job.bounds.validate supplier.dims
  job.start.validate supplier.dims
  if !Arith.isFinite job.objectiveConstant then
    throw (.unusableValue .constantNotFinite)

/-- Checks that the sizes and indices of a problem fit the integers of a solver. Bounds for as many
constraints have been checked before, so the number of rows is a word. -/
def checkCounts (supplier : Supplier R τ μ) : Except SessionError Unit := do
  checkCount .functions supplier.dims.rows
  checkCount .variables supplier.dims.nx
  let positions := supplier.pattern.solverPositions
  positions.forM fun (row, _) => checkCount .rows row
  positions.forM fun (_, column) => checkCount .columns column

/-- Everything that is checked before the engine is reached. -/
def check (supplier : Supplier R τ μ) (job : Job R) : Except SessionError Unit := do
  match supplier.validate job with
  | .error failure => throw (.setup failure)
  | .ok _ => supplier.checkCounts

/-- Storage needs of a problem, as an engine is asked about them. -/
def storageRequest (supplier : Supplier R τ μ) : StorageRequest where
  nf := supplier.dims.rows
  n := supplier.dims.nx
  xNames := 1
  fNames := 1
  linear := 0
  nonlinear := supplier.pattern.solverSize

/-- Arguments with which an engine is called. The objective is the first row and has no bounds. -/
def call (supplier : Supplier R τ μ) (job : Job R) (name : String) (workspace : Workspace R) :
    EngineCall R supplier.dims.nx supplier.dims.rows supplier.pattern.solverSize where
  mode := job.start.mode
  name
  objectiveConstant := job.objectiveConstant
  objectiveRow := 1
  linear := #[]
  linearRows := #[]
  linearColumns := #[]
  rows := ⟨(supplier.pattern.solverPositions.map fun (row, _) => (row : Int)).toArray, by
    simp [Pattern.solverPositions, Pattern.length_shifted]⟩
  columns := (supplier.pattern.solverPositions.map fun (_, column) => (column : Int)).toArray
  xLower := job.bounds.xLower.map cutBound
  xUpper := job.bounds.xUpper.map cutBound
  fLower := #[-infiniteBound] ++ job.bounds.gLower.map cutBound
  fUpper := #[infiniteBound] ++ job.bounds.gUpper.map cutBound
  xNames := #[]
  fNames := #[]
  state := job.start.state
  workspace

end Supplier

variable {ε : Type} [Engine R ε]

/-- Asks an engine for its storage needs and grows the workspace to a usable answer. -/
def negotiate (request : StorageRequest) (workspace : Workspace R) (engine : ε) : Workspace R × ε :=
  let (estimate, workspace, engine) := Engine.storage request workspace engine
  (if estimate.isUsable then workspace.grow estimate else workspace, engine)

/-- Tells an engine the lengths of the given regions. -/
def announceLengths :
    List Region → Workspace R → ε → Except SessionError Unit × Workspace R × ε
  | [], workspace, engine => (.ok (), workspace, engine)
  | region :: rest, workspace, engine =>
      let length := workspace.lengths.of region
      match checkCount .workspaceLength length with
      | .error failure => (.error failure, workspace, engine)
      | .ok _ =>
          let (_, workspace, engine) :=
            Engine.setOption region.lengthOption (.integer length) workspace engine
          announceLengths rest workspace engine

/-- The part of a solve during which the channels are open. -/
def Supplier.run (supplier : Supplier R τ μ) (job : Job R) (settings : SessionSettings)
    (options : OptionTable R) (engine : ε) (memory : μ) :
    Except SessionError (SessionResult R) × ε × μ :=
  let (_, workspace, engine) :=
    options.apply (Workspace.initial supplier.dims settings.baseLength) engine
  let (workspace, engine) := negotiate supplier.storageRequest workspace engine
  match announceLengths Region.all workspace engine with
  | (.error failure, _, engine) => (.error failure, engine, memory)
  | (.ok _, workspace, engine) =>
    let call := supplier.call job settings.problemName workspace
    let ((report, state), engine, left) :=
      Engine.solve call supplier.callback engine (supplier.fresh memory)
    let objective := state.f[0]?.getD 0 + job.objectiveConstant
    (.ok { state, objective, report, stats := supplier.stats left }, engine, supplier.memory left)

/-- Solves with a supplier of the caller, which may be used again afterwards. -/
def Session.solveFrom (session : Session R ε) (supplier : Supplier R τ μ) (job : Job R)
    (memory : μ) : Except SessionError (SessionResult R) × Session R ε × μ :=
  match supplier.check job with
  | .error failure => (.error failure, session, memory)
  | .ok _ =>
    match Engine.openChannels session.settings.routing session.engine with
    | (.error failure, engine) => (.error failure, { session with engine }, memory)
    | (.ok _, engine) =>
      let (result, engine, memory) :=
        supplier.run job session.settings session.options engine memory
      (result, { session with engine := Engine.closeChannels engine }, memory)

variable [Precision R]

/-- A differentiator answers through a relay. -/
abbrev Differentiator.supplier (d : Differentiator R σ) : Supplier R (Relay d) d.Memory where
  dims := d.dims
  pattern := d.pattern
  callback := Relay.callback d
  fresh := Relay.fresh
  stats := Relay.stats
  memory := Relay.memory

/-- Arguments with which an engine is called for a differentiator. -/
abbrev Job.call (job : Job R) (d : Differentiator R σ) (name : String) (workspace : Workspace R) :
    EngineCall R d.dims.nx d.dims.rows d.layout.solverLength :=
  d.supplier.call job name workspace

namespace Session

/-- Solves with a differentiator of the caller, which may be used again afterwards. -/
def solveWith (session : Session R ε) (d : Differentiator R σ) (job : Job R)
    (memory : d.Memory) : Except SessionError (SessionResult R) × Session R ε × d.Memory :=
  session.solveFrom d.supplier job memory

/-- Solves a problem with derivatives of a pattern by a method. -/
def solve (session : Session R ε) (problem : Problem R σ) (pattern : Pattern) (method : Method)
    (job : Job R) (state : σ) : Except SessionError (SessionResult R) × Session R ε × σ :=
  match Differentiator.build problem pattern method with
  | .error failure => (.error (.setup failure), session, state)
  | .ok d =>
    let (result, session, memory) := session.solveWith d job (.fresh state)
    (result, session, memory.state)

end Session

end

end NonlinearProgram
