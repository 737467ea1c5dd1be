import NonlinearProgram.Pattern.Entries
import NonlinearProgram.Arith.Basic
import NonlinearProgram.Problem.Basic

/-!
# Sparsity patterns

A pattern names the entries of a Jacobian that may differ from zero, and the order in which they are
stored. A dense pattern covers every function row, the objective row included, column by column. A
sparse pattern covers constraint rows only, in whatever order it was declared; a solver receives it
with a full objective row in front, and every row is counted one further.

Entries are counted from zero inside the library and from one wherever they are declared or shown.
-/

namespace NonlinearProgram

/-- A pattern of Jacobian entries. -/
inductive Pattern where
  | dense (nx nf : Nat)
  | sparse (nrows ncols : Nat) (entries : Entries nrows ncols)

namespace Pattern

def nrows : Pattern → Nat
  | dense _ nf => nf
  | sparse nrows _ _ => nrows

def ncols : Pattern → Nat
  | dense nx _ => nx
  | sparse _ ncols _ => ncols

/-- The pattern covers every entry, the objective row included. -/
def isDense : Pattern → Bool
  | dense .. => true
  | sparse .. => false

def entries : (pattern : Pattern) → Entries pattern.nrows pattern.ncols
  | dense nx nf => .full nf nx
  | sparse _ _ entries => entries

/-- Row and column of each entry, counted from one. -/
def coordinates (pattern : Pattern) : List (Nat × Nat) :=
  pattern.entries.pairs.map fun (row, column) => (row.val + 1, column.val + 1)

def nnz (pattern : Pattern) : Nat := pattern.entries.pairs.length

/-- Constraint pattern of declared coordinates, counted from one. -/
def ofCoordinates (rows columns : List Nat) (nrows ncols : Nat) : Except SetupError Pattern :=
  if rows.length ≠ columns.length then
    .error (.wrongSize .patternColumns rows.length columns.length)
  else
    match Entries.ofCoordinates nrows ncols (rows.zip columns) with
    | .ok entries => .ok (.sparse nrows ncols entries)
    | .error defect => .error (.malformedPattern defect)

/-- Constraint pattern of the entries of a matrix that are not zero, column by column. -/
def ofMatrix {R : Type} [Arith R] {nrows ncols : Nat} (matrix : Vector (Vector R nrows) ncols) :
    Pattern :=
  .sparse nrows ncols (.select fun row column => (matrix.get column).get row != (0 : R))

/-- Problem sizes a pattern belongs to. -/
def dimensions : Pattern → Except SetupError Dimensions
  | dense _ 0 => .error (.malformedPattern .noObjectiveRow)
  | dense nx (ng + 1) => .ok ⟨nx, ng⟩
  | sparse nrows ncols _ => .ok ⟨ncols, nrows⟩

/-- Checks the shape of a pattern against problem sizes: rows first, then columns. Who checks a
shape checks bounds for as many constraints as well, so that the function rows can be counted. -/
def checkShape (pattern : Pattern) (dims : Dimensions) : Except SetupError Unit := do
  checkExtent .patternRows (if pattern.isDense then dims.rows else dims.ng) pattern.nrows
  checkExtent .patternColumns dims.nx pattern.ncols

/-- Positions of the derivatives a solver receives, counted from one: those of a dense pattern as it
stands, those of a sparse one after a full objective row. `shift` counts a row of a sparse pattern
one further. -/
def shifted (shift : Nat → Nat) (pattern : Pattern) : List (Nat × Nat) :=
  match pattern with
  | dense .. => pattern.coordinates
  | sparse _ ncols _ =>
      (List.range ncols).map (fun column => (1, column + 1)) ++
        pattern.coordinates.map fun (row, column) => (shift row, column)

/-- Derivative positions in the layout of a solver. -/
def solverPositions (pattern : Pattern) : List (Nat × Nat) := pattern.shifted (· + 1)

/-- Derivative positions as they are computed: the row after the largest word is row zero. -/
def solverStructure (pattern : Pattern) : List (Nat × Nat) :=
  pattern.shifted fun row => wrap (row + 1)

def solverSize : Pattern → Nat
  | dense nx nf => nx * nf
  | sparse _ ncols entries => ncols + entries.pairs.length

/-- Number of derivatives a solver receives, as it is computed. -/
def solverCount (pattern : Pattern) : Nat :=
  if pattern.isDense then pattern.nnz else wrap (pattern.ncols + pattern.nnz)

/-- A solver receives as many derivatives as its structure has positions. -/
theorem length_shifted (shift : Nat → Nat) (pattern : Pattern) :
    (pattern.shifted shift).length = pattern.solverSize := by
  cases pattern with
  | dense nx nf => simp [shifted, coordinates, entries, Entries.full, nrows, ncols, solverSize]
  | sparse nrows ncols entries =>
      simp [shifted, coordinates, Pattern.entries, solverSize]
      rfl

end Pattern

end NonlinearProgram
