import NonlinearProgram.Problem.Basic
import NonlinearProgram.Arith.Basic

/-!
# Workspaces

A solver keeps its working storage in three regions that its caller owns: characters, in units of
eight bytes, integers and reals. The caller sizes them by a rule of thumb, asks the solver how much
it needs, and grows them to that. Growing keeps what a region holds; a new cell is blank or zero.

The number of bytes of the character region is computed as a word. If it wraps around, the region
becomes shorter than what was asked for, and a region that is grown may lose cells.
-/

namespace NonlinearProgram

inductive Region where
  | character
  | integer
  | real
  deriving DecidableEq, Repr

namespace Region

def all : List Region := [character, integer, real]

theorem mem_all (region : Region) : region ∈ all := by cases region <;> decide

def name : Region → String
  | character => "Character"
  | integer => "Integer"
  | real => "Real"

/-- Option under which a solver is told the length of a region. -/
def lengthOption : Region → String
  | character => "Total character workspace"
  | integer => "Total integer workspace"
  | real => "Total real workspace"

end Region

/-- A length for each region; that of the character region is in units. -/
structure Lengths where
  character : Nat
  integer : Nat
  real : Nat
  deriving DecidableEq, Repr

def Lengths.of (lengths : Lengths) : Region → Nat
  | .character => lengths.character
  | .integer => lengths.integer
  | .real => lengths.real

/-- Sizes for which a solver is asked its storage needs: of function rows, variables, their names
(one if there are none), linear coefficients and nonlinear derivatives. -/
structure StorageRequest where
  nf : Nat
  n : Nat
  xNames : Nat
  fNames : Nat
  linear : Nat
  nonlinear : Nat
  deriving DecidableEq, Repr

/-- A solver's answer to a storage request: whether it is valid, and the lengths it needs. -/
structure StorageEstimate where
  inform : Int
  minimums : Lengths
  deriving DecidableEq, Repr

namespace StorageEstimate

def valid : Int := 104

/-- The estimate is valid and asks for something of each region. -/
def isUsable (estimate : StorageEstimate) : Bool :=
  estimate.inform == valid && Region.all.all fun region => 0 < estimate.minimums.of region

end StorageEstimate

/-- The cells of a region. Most of them are never written: these hold the blank, and only the
others are stored. -/
structure Cells (α : Type) where
  size : Nat
  blank : α
  /-- Indices with what was written there, the latest first. -/
  written : List (Nat × α) := []

namespace Cells

variable {α : Type}

def get? (cells : Cells α) (index : Nat) : Option α :=
  if index < cells.size then some ((cells.written.lookup index).getD cells.blank) else none

def set (cells : Cells α) (index : Nat) (value : α) : Cells α :=
  if index < cells.size then { cells with written := (index, value) :: cells.written } else cells

/-- Adds blank cells at the end, or takes cells away there. -/
def resize (cells : Cells α) (length : Nat) : Cells α :=
  { cells with
    size := length
    written := cells.written.filter fun (index, _) => index < length }

/-- Resizes cells whose length is below a minimum. -/
def raise (cells : Cells α) (length minimum size : Nat) : Cells α :=
  if length < minimum then cells.resize size else cells

theorem size_raise (cells : Cells α) (length minimum size : Nat) :
    (cells.raise length minimum size).size = if length < minimum then size else cells.size := by
  rw [raise, apply_ite Cells.size]
  rfl

end Cells

/-- Storage lent to a solver; characters are stored as bytes. -/
structure Workspace (R : Type) where
  characters : Cells UInt8
  integers : Cells Int
  reals : Cells R
  /-- Minimums of the last estimate the workspace was grown to. -/
  reported : Option Lengths := none

namespace Workspace

variable {R : Type} [Arith R]

def unitBytes : Nat := 8

def leastLength : Nat := 500

/-- Length of the integer and real regions per function row and variable, unless set otherwise. -/
def usualBaseLength : Nat := 500

def blankByte : UInt8 := 32

/-- An empty workspace of the given lengths. -/
def exact (lengths : Lengths) : Workspace R where
  characters := { size := wrap (lengths.character * unitBytes), blank := blankByte }
  integers := { size := lengths.integer, blank := 0 }
  reals := { size := lengths.real, blank := 0 }

/-- An empty workspace; no region is shorter than the least length. -/
def floored (lengths : Lengths) : Workspace R :=
  exact ⟨max lengths.character leastLength, max lengths.integer leastLength,
    max lengths.real leastLength⟩

/-- The workspace with which negotiation about a problem starts. A length that is no word is
replaced by the largest one. -/
def initial (dims : Dimensions) (baseLength : Nat) : Workspace R :=
  let length := cap (baseLength * wrap (dims.nx + dims.nf))
  floored ⟨leastLength, length, length⟩

def lengths (workspace : Workspace R) : Lengths where
  character := workspace.characters.size / unitBytes
  integer := workspace.integers.size
  real := workspace.reals.size

/-- Regions in which an estimate asks for more than there is. -/
def short (workspace : Workspace R) (estimate : StorageEstimate) : List Region :=
  Region.all.filter fun region => workspace.lengths.of region < estimate.minimums.of region

/-- Gives every region that is too short the minimum of an estimate. -/
def grow (workspace : Workspace R) (estimate : StorageEstimate) : Workspace R :=
  let lengths := workspace.lengths
  let minimums := estimate.minimums
  let bytes := wrap (minimums.character * unitBytes)
  { characters := workspace.characters.raise lengths.character minimums.character bytes
    integers := workspace.integers.raise lengths.integer minimums.integer minimums.integer
    reals := workspace.reals.raise lengths.real minimums.real minimums.real
    reported := some minimums }

/-- Bytes the workspace takes: an integer takes four, a real eight. -/
def byteSize (workspace : Workspace R) : Nat :=
  wrap (workspace.characters.size + 4 * workspace.integers.size + 8 * workspace.reals.size)

def isBelowFloor (workspace : Workspace R) : Bool :=
  Region.all.any fun region => workspace.lengths.of region < leastLength

end Workspace

end NonlinearProgram
