import NonlinearProgram.Proofs.AugmentedLagrangian.Violations
import NonlinearProgram.AugmentedLagrangian.Solver

/-!
# Solves with guarded accesses

A solve of a call that nobody has checked. The program is taken over as the call has it: indices are
numbers without a bound, lists are as long as they are, and bounds come in any order. Each access is
guarded where it happens, so that reading or writing out of range, copying between lists of
different lengths and moving a number into an interval whose limits are not in order end the solve
with a `Fault`. Accesses are in the order of the solver's own steps, with every loop over positions
written out; a list of the call is taken over at the length that later steps rely on.

The storage needs are computed before anything is known of the call. A program may be built so that
numbers too large for a word wrap around, or so that they are faults.
-/

namespace NonlinearProgram

namespace AugmentedLagrangian

/-- An access that cannot be carried out. -/
inductive Fault where
  /-- An index that counts from one is less than one. -/
  | uncounted (index : Int)
  /-- A position is not in range. -/
  | outOfRange (index length : Nat)
  /-- Lists to be copied differ in length. -/
  | lengthMismatch (target source : Nat)
  /-- The limits of an interval are not in order. -/
  | unorderedLimits
  /-- A sum or a product is too large for a word. -/
  | overflow
  deriving DecidableEq, Repr

/-- What becomes of a sum or a product that is too large for a word. -/
inductive WordArithmetic where
  | wraps
  | traps
  deriving DecidableEq, Repr

/-- A computation that ends at its first fault. -/
abbrev Guarded := Except Fault

namespace Guarded

variable {α : Type} {n : Nat}

def read (values : Vector α n) (index : Nat) : Guarded α :=
  if inside : index < n then .ok (values.get ⟨index, inside⟩) else .error (.outOfRange index n)

def write (values : Vector α n) (index : Nat) (value : α) : Guarded (Vector α n) :=
  if inside : index < n then .ok (values.set index value inside)
  else .error (.outOfRange index n)

/-- Position of an index that counts from one. -/
def position (index : Int) : Guarded Nat :=
  if 1 ≤ index then .ok (index - 1).toNat else .error (.uncounted index)

/-- Takes over a list at a length. -/
def load (n : Nat) (source : Array α) : Guarded (Vector α n) :=
  if same : source.size = n then .ok ⟨source, same⟩ else .error (.lengthMismatch n source.size)

/-- Copies a vector into a list. -/
def store (target : Array α) (source : Vector α n) : Guarded (Array α) :=
  if target.size = n then .ok source.toArray else .error (.lengthMismatch target.size n)

/-- Writes the first `count` entries of a list one by one. -/
def fill (count : Nat) (target : Array α) (entry : Nat → Guarded α) : Guarded (Array α) := do
  let filled ← (List.range count).foldlM (fun filled index => do
    write filled index (← entry index)) target.toVector
  return filled.toArray

/-- Lengths a solve needs. No number on the way to a need is larger than the need. -/
def needs (arithmetic : WordArithmetic) (request : StorageRequest) : Guarded Lengths :=
  match arithmetic with
  | .wraps => .ok (storageNeeds request)
  | .traps =>
    if Region.all.all fun region => decide (FitsWord ((exactNeeds request).of region)) then
      .ok (exactNeeds request)
    else .error .overflow

/-- The nearest point of an interval. -/
def clamp {R : Type} [Arith R] (value lower upper : R) : Guarded R :=
  if lower ≤ upper then .ok (Arith.clamp value lower upper) else .error .unorderedLimits

end Guarded

/-- A program as a call has it. -/
structure RawProgram (R : Type) (n nf : Nat) where
  objective : Nat
  /-- Position of each nonlinear derivative. -/
  entries : List (Nat × Nat)
  /-- Linear part: row, column and coefficient. -/
  linear : List (Nat × Nat × R)
  xLower : Vector R n
  xUpper : Vector R n
  fLower : Vector R nf
  fUpper : Vector R nf
  start : Vector R n
  values : Vector R nf
  /-- Multipliers handed in, if the solve resumes. -/
  multipliers? : Option (Vector R nf)

/-- What every step of one inner solve shares. -/
structure RawInner (R τ : Type) (n nf neg : Nat) where
  program : RawProgram R n nf
  callback : Callback R τ n nf neg
  multipliers : Multipliers R nf
  unboundedObjective : R
  tolerance : R

variable {R : Type} [Arith R] {τ : Type} {n nf neg : Nat}

open Guarded

namespace RawProgram

/-! ## Merit -/

omit [Arith R] in
/-- The rows other than the objective. -/
def rows (program : RawProgram R n nf) : List Nat :=
  (List.range nf).filter (· ≠ program.objective)

def project (program : RawProgram R n nf) (x : Vector R n) : Guarded (Vector R n) :=
  Vector.ofFnM fun j => clamp (x.get j) (program.xLower.get j) (program.xUpper.get j)

/-- Largest component of the projected step against a gradient. -/
def projectedStepSize (program : RawProgram R n nf) (x gradient : Vector R n) : Guarded R := do
  let stepped ← program.project (difference x gradient)
  return largest (difference stepped x)

/-- Distance of a function value from its slack. -/
def residual (program : RawProgram R n nf) (multipliers : Multipliers R nf) (f : Vector R nf)
    (row : Nat) : Guarded R := do
  let value ← read f row
  let lambda ← read multipliers.lambda row
  let lower ← read program.fLower row
  let upper ← read program.fUpper row
  let slack ← clamp (value - lambda / multipliers.penalty) lower upper
  return value - slack

def merit (program : RawProgram R n nf) (multipliers : Multipliers R nf) (f : Vector R nf) :
    Guarded R := do
  let objective ← read f program.objective
  program.rows.foldlM (fun sum row => do
    let r ← program.residual multipliers f row
    let lambda ← read multipliers.lambda row
    return sum - lambda * r + 0.5 * multipliers.penalty * r * r) objective

def gradientOfMerit (program : RawProgram R n nf) (multipliers : Multipliers R nf)
    (point : Point R n nf) : Guarded (Vector R n) := do
  let weights ← write (.replicate nf 0) program.objective 1
  let weights ← program.rows.foldlM (fun weights row => do
    let lambda ← read multipliers.lambda row
    let r ← program.residual multipliers point.f row
    write weights row (-lambda + multipliers.penalty * r)) weights
  return combineRows point.jacobian weights

def reducedGradient (program : RawProgram R n nf) (lambda : Vector R nf)
    (jacobian : Columns R n nf) : Guarded (Vector R n) := do
  let weights ← write (lambda.map (-·)) program.objective 1
  return combineRows jacobian weights

/-- Multipliers after an inner solve, changed in place row by row. -/
def updateMultipliers (program : RawProgram R n nf) (multipliers : Multipliers R nf)
    (f : Vector R nf) : Guarded (Multipliers R nf) := do
  let rows := program.rows.toArray.toVector
  let lambda ← (List.range program.rows.length).foldlM (fun lambda index => do
    let row ← read rows index
    let r ← program.residual { multipliers with lambda } f row
    let old ← read lambda row
    write lambda row (old - multipliers.penalty * r)) multipliers.lambda
  return { multipliers with lambda }

def violation (program : RawProgram R n nf) (tolerance : R) (f : Vector R nf) :
    Guarded (Violation R) :=
  program.rows.foldlM (fun total row => do
    let lower ← read program.fLower row
    let upper ← read program.fUpper row
    let value ← read f row
    return total.add tolerance
      (Arith.maximum (Arith.maximum (lower - value) (value - upper)) 0)) ⟨0, 0, 0⟩

/-- The objective is below the value at which it counts as unbounded. -/
def isUnbounded (program : RawProgram R n nf) (limit : R) (f : Vector R nf) : Guarded Bool := do
  let objective ← read f program.objective
  return objective < -limit

/-! ## Evaluations -/

/-- Function values with the linear part added, term by term. -/
def assembleValues (program : RawProgram R n nf) (x : Vector R n) (f : Vector R nf) :
    Guarded (Vector R nf) :=
  program.linear.foldlM (fun f term => do
    let value ← read f term.1
    let factor ← read x term.2.1
    write f term.1 (value + term.2.2 * factor)) f

/-- Adds a number to an entry of a matrix. -/
def addEntry (columns : Columns R n nf) (row column : Nat) (value : R) :
    Guarded (Columns R n nf) := do
  let entries ← read columns column
  let entry ← read entries row
  write columns column (← write entries row (entry + value))

/-- Jacobian of the nonlinear derivatives and the linear part. -/
def assembleJacobian (program : RawProgram R n nf) (g : Vector R neg) :
    Guarded (Columns R n nf) := do
  let nonlinear ← (program.entries.zip g.toList).foldlM
    (fun columns entry => addEntry columns entry.1.1 entry.1.2 entry.2)
    (.replicate n (.replicate nf 0))
  program.linear.foldlM (fun columns term => addEntry columns term.1 term.2.1 term.2.2) nonlinear

def valuesAt (program : RawProgram R n nf) (callback : Callback R τ n nf neg) (x : Vector R n)
    (evaluator : Evaluator R τ nf neg) :
    Guarded (Evaluated (Vector R nf) × Evaluator R τ nf neg) :=
  match evaluator.call callback x false with
  | (.defined _, evaluator) => do
      let f ← program.assembleValues x evaluator.f
      return (.defined f, evaluator)
  | (.undefined, evaluator) => return (.undefined, evaluator)
  | (.stop, evaluator) => return (.stop, evaluator)

def pointAt (program : RawProgram R n nf) (callback : Callback R τ n nf neg) (x : Vector R n)
    (evaluator : Evaluator R τ nf neg) :
    Guarded (Evaluated (Point R n nf) × Evaluator R τ nf neg) :=
  match evaluator.call callback x true with
  | (.defined _, evaluator) => do
      let f ← program.assembleValues x evaluator.f
      let jacobian ← program.assembleJacobian evaluator.g
      return (.defined { x, f, jacobian }, evaluator)
  | (.undefined, evaluator) => return (.undefined, evaluator)
  | (.stop, evaluator) => return (.stop, evaluator)

end RawProgram

/-! ## Inner solves -/

namespace RawInner

/-- Point reached by a move of a given length. -/
def trialPoint (inner : RawInner R τ n nf neg) (x gradient : Vector R n) (length : R) :
    Guarded (Vector R n) :=
  inner.program.project (x.zipWith (fun x slope => x - slope * length) gradient)

/-- Tries a move and its halves, as often as `tries` says. -/
def searchStep (inner : RawInner R τ n nf neg) (point : Point R n nf) (gradient : Vector R n)
    (merit : R) :
    Nat → R → Bool → Evaluator R τ nf neg → Guarded (StepSearch R n nf × Evaluator R τ nf neg)
  | 0, _, undefined, evaluator => return (.refused undefined, evaluator)
  | tries + 1, length, undefined, evaluator => do
      let trial ← inner.trialPoint point.x gradient length
      let direction := difference trial point.x
      if largest direction ≤ 0 then return (.refused undefined, evaluator)
      else
        let retry := searchStep inner point gradient merit tries (length * 0.5)
        match ← inner.program.valuesAt inner.callback trial evaluator with
        | (.stop, evaluator) => return (.stopped, evaluator)
        | (.undefined, evaluator) => retry true evaluator
        | (.defined f, evaluator) =>
          let reached ← inner.program.merit inner.multipliers f
          if reached ≤ merit + sufficientDecrease * dot gradient direction then
            match ← inner.program.pointAt inner.callback trial evaluator with
            | (.stop, evaluator) => return (.stopped, evaluator)
            | (.undefined, evaluator) => retry true evaluator
            | (.defined point, evaluator) => return (.accepted point length, evaluator)
          else retry undefined evaluator

def nextLength (moved changed : Vector R n) (length : R) : Guarded R :=
  let curvature := dot moved changed
  if 0 < curvature then clamp (dot moved moved / curvature) minStep maxStep
  else return Arith.minimum (2.0 * length) maxStep

/-- Takes steps until the projected gradient is small. -/
def descend (inner : RawInner R τ n nf neg) (remaining : Nat) (point : Point R n nf)
    (gradient : Vector R n) (length : R) (evaluator : Evaluator R τ nf neg) :
    Guarded (InnerResult R n nf × Evaluator R τ nf neg) := do
  let size ← inner.program.projectedStepSize point.x gradient
  if size ≤ inner.tolerance then return (⟨.converged, point, remaining⟩, evaluator)
  else
    match remaining with
    | 0 => return (⟨.iterationLimit, point, 0⟩, evaluator)
    | left + 1 =>
      let before ← inner.program.merit inner.multipliers point.f
      match ← inner.searchStep point gradient before maxTries length false evaluator with
      | (.stopped, evaluator) => return (⟨.stop, point, left + 1⟩, evaluator)
      | (.refused true, evaluator) => return (⟨.undefined, point, left + 1⟩, evaluator)
      | (.refused false, evaluator) => return (⟨.stalled, point, left + 1⟩, evaluator)
      | (.accepted trial length, evaluator) =>
        let trialGradient ← inner.program.gradientOfMerit inner.multipliers trial
        let length ← nextLength (difference trial.x point.x) (difference trialGradient gradient)
          length
        let unbounded ← inner.program.isUnbounded inner.unboundedObjective trial.f
        if unbounded then return (⟨.unbounded, trial, left⟩, evaluator)
        else descend inner left trial trialGradient length evaluator

def solve (inner : RawInner R τ n nf neg) (remaining : Nat) (point : Point R n nf)
    (evaluator : Evaluator R τ nf neg) :
    Guarded (InnerResult R n nf × Evaluator R τ nf neg) := do
  let gradient ← inner.program.gradientOfMerit inner.multipliers point
  inner.descend remaining point gradient (1 / Arith.maximum (largest gradient) 1) evaluator

end RawInner

/-! ## Major iterations -/

namespace RawProgram

def innerTolerance (program : RawProgram R n nf) (settings : Settings R) (major : Nat) : R :=
  if program.multipliers?.isSome then settings.optimalityTolerance
  else Arith.maximum settings.optimalityTolerance (Arith.power 0.1 major)

def assess (program : RawProgram R n nf) (settings : Settings R) (multipliers : Multipliers R nf)
    (point : Point R n nf) : Guarded (Assessment R) := do
  let violation ← program.violation settings.feasibilityTolerance point.f
  let reduced ← program.reducedGradient multipliers.lambda point.jacobian
  let optimality ← program.projectedStepSize point.x reduced
  return { feasibility := violation.most, optimality }

/-- Major iterations, recursing on those that are left. -/
def iterate (program : RawProgram R n nf) (settings : Settings R)
    (callback : Callback R τ n nf neg) :
    Nat → R → Nat → Progress R n nf → Evaluator R τ nf neg →
      Guarded (Finish × Progress R n nf × Evaluator R τ nf neg)
  | 0, _, _, progress, evaluator => return (.majorIterationLimit, progress, evaluator)
  | left + 1, previous, stalls, progress, evaluator => do
      let major := progress.major + 1
      let inner : RawInner R τ n nf neg :=
        { program, callback, multipliers := progress.multipliers
          unboundedObjective := settings.unboundedObjective
          tolerance := program.innerTolerance settings major }
      let (result, evaluator) ← inner.solve progress.remaining progress.point evaluator
      let progress :=
        { progress with point := result.point, remaining := result.remaining, major }
      match result.exit.finish? with
      | some finish => return (finish, progress, evaluator)
      | none =>
        let point := progress.point
        let multipliers ← program.updateMultipliers progress.multipliers point.f
        let assessment ← program.assess settings multipliers point
        let objective ← read point.f program.objective
        let line : Line R := .major major (settings.iterationsLimit - progress.remaining) objective
          assessment.feasibility assessment.optimality multipliers.penalty
        let log := if 0 < settings.printLevel then progress.log ++ [line] else progress.log
        let stalls := if result.exit = .stalled then stalls + 1 else 0
        match assessment.finish? settings stalls with
        | some finish => return (finish, { progress with multipliers, log }, evaluator)
        | none =>
          let grows := assessment.isTooSlow settings previous
          let penalty :=
            if grows then multipliers.penalty * penaltyFactor else multipliers.penalty
          let progress := { progress with multipliers := { multipliers with penalty }, log }
          if grows && decide (penaltyLimit < penalty) then
            return (.infeasible, progress, evaluator)
          else
            program.iterate settings callback left assessment.feasibility stalls progress evaluator

def initialMultipliers (program : RawProgram R n nf) (settings : Settings R) :
    Guarded (Multipliers R nf) :=
  match program.multipliers? with
  | some lambda => do
      return { lambda := ← write lambda program.objective 0, penalty := settings.penalty }
  | none => return { lambda := .replicate nf 0, penalty := settings.penalty }

/-- Evaluates the starting point and iterates. -/
def run (program : RawProgram R n nf) (settings : Settings R) (callback : Callback R τ n nf neg)
    (state : τ) : Guarded (Finish × Progress R n nf × Evaluator R τ nf neg) := do
  let multipliers ← program.initialMultipliers settings
  let x ← program.project program.start
  let unread : Point R n nf := ⟨x, program.values, .replicate n (.replicate nf 0)⟩
  let progress (point : Point R n nf) (log : List (Line R)) : Progress R n nf :=
    { point, multipliers, remaining := settings.iterationsLimit, major := 0, log }
  match ← program.pointAt callback x (.fresh state) with
  | (.stop, evaluator) => return (.userStop, progress unread [], evaluator)
  | (.undefined, evaluator) => return (.undefinedAtStart, progress unread [], evaluator)
  | (.defined point, evaluator) =>
    let unbounded ← program.isUnbounded settings.unboundedObjective point.f
    if unbounded then return (.unbounded, progress point [], evaluator)
    else
      let log := if 0 < settings.printLevel then [.majorHeading] else []
      program.iterate settings callback settings.majorIterationsLimit Arith.infinity 0
        (progress point log) evaluator

/-! ## The final point -/

def solutionLines (program : RawProgram R n nf) (settings : Settings R)
    (progress : Progress R n nf) : Guarded (List (Line R)) := do
  let reduced ← program.reducedGradient progress.multipliers.lambda progress.point.jacobian
  let lines ← (List.range n).mapM fun j => do
    let value ← read progress.point.x j
    let lower ← read program.xLower j
    let upper ← read program.xUpper j
    let multiplier ← read reduced j
    return .solution (j + 1) (variableCode settings.feasibilityTolerance value lower upper)
      value lower upper multiplier
  return .solutionHeading :: lines

/-- Writes the final point into the lists of a state. -/
def writeBack (program : RawProgram R n nf) (settings : Settings R) (progress : Progress R n nf)
    (state : SolverState R) : Guarded (SolverState R) := do
  let point := progress.point
  let tolerance := settings.feasibilityTolerance
  let reduced ← program.reducedGradient progress.multipliers.lambda point.jacobian
  let x ← store state.x point.x
  let f ← store state.f point.f
  let xMul ← store state.xMul reduced
  let fMul ← store state.fMul progress.multipliers.lambda
  let xState ← fill n state.xState fun j => do
    let value ← read point.x j
    let lower ← read program.xLower j
    let upper ← read program.xUpper j
    return variableCode tolerance value lower upper
  let fState ← fill nf state.fState fun i => do
    if i = program.objective then return 3
    else
      let value ← read point.f i
      let lower ← read program.fLower i
      let upper ← read program.fUpper i
      return rowCode tolerance value lower upper
  return { superbasics := superbasics xState fState, x, xState, xMul, f, fState, fMul }

end RawProgram

end AugmentedLagrangian

namespace EngineCall

open AugmentedLagrangian AugmentedLagrangian.Guarded

variable {R : Type} [Arith R] {τ : Type} {n nf neg : Nat}

/-- The program of a call as it stands. -/
def raw (call : EngineCall R n nf neg) : Guarded (RawProgram R n nf) := do
  let objective ← position call.objectiveRow
  let rows ← call.rows.toList.mapM position
  let columns ← call.columns.toList.mapM position
  let linearRows ← call.linearRows.toList.mapM position
  let linearColumns ← call.linearColumns.toList.mapM position
  let xLower ← load n (call.xLower.map restoreBound)
  let xUpper ← load n (call.xUpper.map restoreBound)
  let fLower ← load nf (call.fLower.map restoreBound)
  let fUpper ← load nf (call.fUpper.map restoreBound)
  let start ← load n call.state.x
  let values ← load nf call.state.f
  let multipliers? ←
    (if call.mode = .warm then some <$> load nf call.state.fMul else pure none)
  return { objective
           entries := rows.zip columns
           linear := linearRows.zip (linearColumns.zip call.linear.toList)
           xLower, xUpper, fLower, fUpper, start, values, multipliers? }

/-- Solves a call without looking at it first. -/
def solveGuarded (call : EngineCall R n nf neg) (settings : Settings R) (minimums : Lengths)
    (callback : Callback R τ n nf neg) (state : τ) : Guarded (Outcome R τ) := do
  let program ← call.raw
  let (finish, progress, evaluator) ← program.run settings callback state
  let evaluator :=
    if finish = .userStop then evaluator else evaluator.finish callback progress.point.x
  let solution ←
    (if settings.printSolution then program.solutionLines settings progress else pure [])
  let violation ← program.violation settings.feasibilityTolerance progress.point.f
  let final ← program.writeBack settings progress call.state
  return { report :=
             { inform := finish.code
               iterations := settings.iterationsLimit - progress.remaining
               majorIterations := progress.major
               infeasibilities := violation.count
               infeasibilitySum := violation.sum
               minimums }
           state := final
           log := progress.log ++ solution
           callbackState := evaluator.state }

end EngineCall

end NonlinearProgram
