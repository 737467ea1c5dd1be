import NonlinearProgram.Pattern.Detection
import NonlinearProgram.Session

/-!
# Backends

A problem is minimized in two steps. Its pattern is resolved and a differentiator built for it; then
the differentiator goes to a backend. A backend is a session with an engine, which may have a start
pending for its next solve, or any other solver that works on a differentiator.
-/

namespace NonlinearProgram

/-- Where the pattern of a problem comes from. -/
inductive PatternSource (R : Type) where
  | dense
  | given (pattern : Pattern)
  | detected (probes : Probes R) (scheme : Scheme)

structure MinimizeOptions (R : Type) [Arith R] where
  method : Method := .forwardMode
  source : PatternSource R := .dense
  objectiveConstant : R := 0

inductive MinimizeError where
  | setup (failure : SetupError)
  | session (failure : SessionError)
  | direct (solver reason : String)
  deriving DecidableEq, Repr

def MinimizeError.message : MinimizeError → String
  | .setup failure => failure.message
  | .session failure => failure.message
  | .direct solver reason => s!"External solver '{solver}' failed: {reason}"

/-- What another solver reports. -/
structure DirectOutcome (R : Type) where
  x : Array R
  /-- Objective there, without its constant. -/
  objective : R
  constraints : Array R
  status : ExitCategory

/-- A solver that evaluates a differentiator itself; `ξ` is its own state. -/
class DirectSolver (R : outParam Type) (ξ : Type) where
  name : ξ → String
  /-- Minimizes from a point within bounds. A failure is given by its reason. -/
  solve {σ : Type} (d : Differentiator R σ) (x0 : Vector R d.dims.nx) (bounds : Bounds R)
    (solver : ξ) (memory : d.Memory) : Except String (DirectOutcome R) × ξ × d.Memory

/-- What a problem can be minimized with. -/
inductive Backend (R ε ξ : Type) where
  /-- A session, with the start pending for its next solve. -/
  | session (session : Session R ε) (pending : Option (Start R))
  | direct (solver : ξ)

structure Solution (R : Type) where
  x : Array R
  /-- Objective there, its constant included. -/
  f : R
  g : Array R
  status : ExitCategory
  session : Option (SessionResult R)

namespace Solution

variable {R : Type}

def ofResult (result : SessionResult R) : Solution R where
  x := result.state.x
  f := result.objective
  g := result.constraints
  status := result.exit.category
  session := some result

def isOptimal (solution : Solution R) : Bool := solution.status == .optimal

def warmStart (solution : Solution R) : Option (Start R) :=
  solution.session.map SessionResult.warmStart

end Solution

namespace Backend

variable {R ε ξ : Type}

def name [DirectSolver R ξ] : Backend R ε ξ → String
  | session .. => "snopt"
  | direct solver => DirectSolver.name solver

def pending? : Backend R ε ξ → Option (Start R)
  | session _ pending => pending
  | direct _ => none

/-- Changes the session; another solver has none to change. -/
def mapSession (change : Session R ε → Session R ε) : Backend R ε ξ → Backend R ε ξ
  | session current pending => session (change current) pending
  | direct solver => direct solver

def configure (backend : Backend R ε ξ) (settings : SessionSettings) : Backend R ε ξ :=
  backend.mapSession fun session => { session with settings }

def setOption (backend : Backend R ε ξ) (key : String) (value : OptionValue R) :
    Backend R ε ξ :=
  backend.mapSession fun session => { session with options := session.options.set key value }

/-- Makes a start pending; it takes the place of the next starting point. Another solver has no
use for it. -/
def resumeFrom (start : Start R) : Backend R ε ξ → Backend R ε ξ
  | session current _ => session current (some start)
  | direct solver => direct solver

end Backend

section

variable {R σ : Type} [Arith R] [Precision R]

/-- The pattern of a problem with the given sizes. -/
def PatternSource.resolve (source : PatternSource R) (problem : Problem R σ) (dims : Dimensions)
    (state : σ) : Except SetupError Pattern × σ :=
  match source with
  | dense => (.ok (.dense dims.nx dims.rows), state)
  | given pattern => ((pattern.checkShape dims).map fun _ => pattern, state)
  | detected probes scheme =>
    match probes.toList.find? (·.size ≠ dims.nx) with
    | some probe => (.error (.wrongSize (.probe none) dims.nx probe.size), state)
    | none => Pattern.detect problem dims.ng probes scheme state

/-- Checks the bounds, resolves the pattern and builds the differentiator of a problem. -/
def MinimizeOptions.prepare (options : MinimizeOptions R) (problem : Problem R σ)
    (dims : Dimensions) (bounds : Bounds R) (state : σ) :
    Except SetupError (Differentiator R σ) × σ :=
  match bounds.validate dims with
  | .error failure => (.error failure, state)
  | .ok _ =>
    match options.source.resolve problem dims state with
    | (.error failure, state) => (.error failure, state)
    | (.ok pattern, state) => (Differentiator.build problem pattern options.method, state)

variable {ε : Type} [Engine R ε]

/-- Minimizes with a session. A pending start is used up by a solve, and a warm one is kept when the
solve could not begin. -/
def Session.minimize (session : Session R ε) (pending : Option (Start R))
    (d : Differentiator R σ) (x0 : Array R) (bounds : Bounds R) (objectiveConstant : R)
    (memory : d.Memory) :
    Except MinimizeError (Solution R) × (Session R ε × Option (Start R)) × d.Memory :=
  let start := pending.getD (.cold x0 d.dims.nf)
  match session.solveWith d { start, bounds, objectiveConstant } memory with
  | (.ok result, session, memory) => (.ok (.ofResult result), (session, none), memory)
  | (.error failure, session, memory) =>
      (.error (.session failure), (session, if start.isWarm then some start else none), memory)

variable {ξ : Type} [DirectSolver R ξ]

/-- Minimizes with another solver, and checks the shape of what it returns. -/
def DirectSolver.minimize (solver : ξ) (d : Differentiator R σ) (x0 : Array R)
    (bounds : Bounds R) (objectiveConstant : R) (memory : d.Memory) :
    Except MinimizeError (Solution R) × ξ × d.Memory :=
  let dims := d.dims
  if same : x0.size = dims.nx then
    match DirectSolver.solve d ⟨x0, same⟩ bounds solver memory with
    | (.error reason, solver, memory) =>
        (.error (.direct (DirectSolver.name solver) reason), solver, memory)
    | (.ok outcome, solver, memory) =>
      let nx := outcome.x.size
      let ng := outcome.constraints.size
      if nx = dims.nx ∧ ng = dims.ng then
        (.ok { x := outcome.x, f := outcome.objective + objectiveConstant, g := outcome.constraints
               status := outcome.status, session := none }, solver, memory)
      else
        let reason := s!"returned {nx} variables and {ng} constraints for a " ++
          s!"{dims.nx}x{dims.ng} problem"
        (.error (.direct (DirectSolver.name solver) reason), solver, memory)
  else (.error (.setup (.wrongSize (.start .x) dims.nx x0.size)), solver, memory)

/-- Minimizes a problem with `ng` constraints from `x0` within bounds. -/
def Backend.minimize (backend : Backend R ε ξ) (problem : Problem R σ) (x0 : Array R) (ng : Nat)
    (bounds : Bounds R) (options : MinimizeOptions R) (state : σ) :
    Except MinimizeError (Solution R) × Backend R ε ξ × σ :=
  match options.prepare problem ⟨x0.size, ng⟩ bounds state with
  | (.error failure, state) => (.error (.setup failure), backend, state)
  | (.ok d, state) =>
    match backend with
    | session current pending =>
        let (result, (current, pending), memory) :=
          current.minimize pending d x0 bounds options.objectiveConstant (.fresh state)
        (result, session current pending, memory.state)
    | direct solver =>
        let (result, solver, memory) :=
          DirectSolver.minimize solver d x0 bounds options.objectiveConstant (.fresh state)
        (result, direct solver, memory.state)

end

end NonlinearProgram
