import NonlinearProgram.Bounds
import NonlinearProgram.Solver.Engine
import NonlinearProgram.Solver.InfiniteBound

/-!
# Accepted calls

The solver takes a call only if its lists fit each other, its indices are in range, its bounds are
in order and its numbers finite. `EngineCall.accept` is this check, and what it accepts is a
`Program`: the same data with lengths and ranges in its types, so that nothing later can be out of
range. Storage is checked next.
-/

namespace NonlinearProgram.AugmentedLagrangian

/-- A nonlinear program with a starting point. -/
structure Program (R : Type) (n nf neg : Nat) where
  objective : Fin nf
  entries : Vector (Fin nf × Fin n) neg
  /-- Linear part: row, column and coefficient. -/
  linear : List (Fin nf × Fin n × R)
  xLower : Vector R n
  xUpper : Vector R n
  fLower : Vector R nf
  fUpper : Vector R nf
  start : Vector R n
  values : Vector R nf
  /-- Multipliers handed in, if the solve resumes. -/
  multipliers? : Option (Vector R nf)

def Program.rows {R : Type} {n nf neg : Nat} (program : Program R n nf neg) : List (Fin nf) :=
  (List.finRange nf).filter (· ≠ program.objective)

inductive Refusal where
  | invalidInput
  | badBasis
  | belowFloor
  | short (region : Region)
  deriving DecidableEq, Repr

def Refusal.code : Refusal → Int
  | .invalidInput => 91
  | .badBasis => 92
  | .belowFloor => 81
  | .short .character => 82
  | .short .integer => 83
  | .short .real => 84

section

variable {R : Type} [Arith R]

/-- An array as a vector of a given length. -/
def sized? {α : Type} (n : Nat) (values : Array α) : Option (Vector α n) :=
  if same : values.size = n then some ⟨values, same⟩ else none

/-- Position of an index that counts from one. -/
def position? (n : Nat) (index : Int) : Option (Fin n) :=
  if inside : 1 ≤ index ∧ index ≤ n then some ⟨(index - 1).toNat, by omega⟩ else none

/-- Row and column given by indices that count from one. -/
def cell? (nf n : Nat) (cell : Int × Int) : Option (Fin nf × Fin n) := do
  return (← position? nf cell.1, ← position? n cell.2)

/-- Names are given for all or for none; a single one stands for none. -/
def namesFit (n : Nat) (names : Array String) : Bool := names.size ≤ 1 || names.size == n

/-- Pairs of bounds of which no lower exceeds its upper, with the infinities restored. -/
def bounds? (n : Nat) (lower upper : Array R) : Option (Vector R n × Vector R n) := do
  let lower ← sized? n lower
  let upper ← sized? n upper
  if (lower.zip upper).toList.any fun (low, high) => crossed low high then none
  else some (lower.map restoreBound, upper.map restoreBound)

end

/-- Lengths a solve needs. -/
def exactNeeds (request : StorageRequest) : Lengths :=
  let rows := request.n + request.nf
  let nonzeros := request.linear + request.nonlinear
  { character := Workspace.leastLength + request.xNames + request.fNames
    integer := 500 + 20 * rows + 2 * nonzeros
    real := 600 + 40 * rows + 2 * nonzeros + request.n * request.n }

/-- Lengths a solve needs, as they are computed before the call is looked at. Wrapping around once
at the end gives what wrapping around at each step would give. -/
def storageNeeds (request : StorageRequest) : Lengths :=
  let needs := exactNeeds request
  ⟨wrap needs.character, wrap needs.integer, wrap needs.real⟩

/-- Needs that can be counted are what is asked for. -/
theorem storageNeeds_eq {request : StorageRequest}
    (fits : ∀ region, FitsWord ((exactNeeds request).of region)) :
    storageNeeds request = exactNeeds request := by
  have character := (fits .character).wrap
  have integer := (fits .integer).wrap
  have real := (fits .real).wrap
  simp only [Lengths.of] at character integer real
  rw [storageNeeds, character, integer, real]

/-- What is wrong with a workspace for the given needs: no region may be below the floor, and then
none below its need. -/
def checkStorage {R : Type} [Arith R] (workspace : Workspace R) (request : StorageRequest) :
    Option Refusal :=
  if workspace.isBelowFloor then some .belowFloor
  else
    (workspace.short ⟨StorageEstimate.valid, storageNeeds request⟩).head?.map Refusal.short

end AugmentedLagrangian

namespace EngineCall

open AugmentedLagrangian

variable {R : Type} [Arith R] {n nf neg : Nat}

def storageRequest (call : EngineCall R n nf neg) : StorageRequest where
  nf
  n
  xNames := max call.xNames.size 1
  fNames := max call.fNames.size 1
  linear := call.linear.size
  nonlinear := neg

def linear? (call : EngineCall R n nf neg) : Option (List (Fin nf × Fin n × R)) := do
  let rows ← sized? call.linear.size call.linearRows
  let columns ← sized? call.linear.size call.linearColumns
  if call.linear.any (!Arith.isFinite ·) then none
  else
    (((rows.zip columns).toList.zip call.linear.toList).mapM fun (cell, coefficient) => do
      let (row, column) ← cell? nf n cell
      return (row, column, coefficient))

/-- The program a call describes, if the call is well formed. -/
def program? (call : EngineCall R n nf neg) : Option (Program R n nf neg) := do
  if n = 0 then none
  let objective ← position? nf call.objectiveRow
  let start ← sized? n call.state.x
  let _ ← sized? n call.state.xState
  let _ ← sized? n call.state.xMul
  let (xLower, xUpper) ← bounds? n call.xLower call.xUpper
  let values ← sized? nf call.state.f
  let _ ← sized? nf call.state.fState
  let multipliers ← sized? nf call.state.fMul
  let (fLower, fUpper) ← bounds? nf call.fLower call.fUpper
  let columns ← sized? neg call.columns
  let linear ← call.linear?
  let entries ← (call.rows.zip columns).mapM (cell? nf n)
  if !namesFit n call.xNames || !namesFit nf call.fNames then none
  if start.any (!Arith.isFinite ·) then none
  return { objective, entries, linear, xLower, xUpper, fLower, fUpper, start, values
           multipliers? := if call.mode = .warm then some multipliers else none }

/-- The program of a call, or why the call is refused: its shape is looked at first, then the number
of superbasic variables a warm start brings, and the workspace last. -/
def accept (call : EngineCall R n nf neg) : Except Refusal (Program R n nf neg) :=
  match call.program? with
  | none => .error .invalidInput
  | some program =>
      let superbasics := call.state.superbasics
      if call.mode = .warm ∧ ¬(0 ≤ superbasics ∧ superbasics ≤ n) then .error .badBasis
      else
        match checkStorage call.workspace call.storageRequest with
        | some refusal => .error refusal
        | none => .ok program

end EngineCall

end NonlinearProgram
