import NonlinearProgram.Proofs.Session.Beginning

/-!
# Workspaces over their history

What a workspace is after any sequence of growths and writes. As long as the bytes of its characters
can be counted, a growth only adds blank cells at the end of a region. A write changes one cell. So
the lengths are the largest that were asked for, in whatever order, and every cell holds what it was
last written. The lengths a solver asks for are those its own check of a workspace demands.

A growth to more characters than there are words of bytes cuts the region short, `grow_wrapped`. The
regions of integers and reals are counted in cells, and nothing of the kind happens to them.
-/

namespace NonlinearProgram

namespace Region

/-- What a cell of a region holds. -/
abbrev Content (R : Type) : Region → Type
  | character => UInt8
  | integer => Int
  | real => R

/-- The content of a cell that was never written. -/
def blank {R : Type} [Arith R] : (region : Region) → region.Content R
  | character => Workspace.blankByte
  | integer => (0 : Int)
  | real => (0 : R)

end Region

/-! ## Cells -/

namespace Cells

variable {α : Type}

theorem size_set (cells : Cells α) (index : Nat) (value : α) :
    (cells.set index value).size = cells.size := by
  rw [set]
  split <;> rfl

theorem get?_set_self {cells : Cells α} {index : Nat} (inside : index < cells.size)
    (value : α) : (cells.set index value).get? index = some value := by
  simp [Cells.set, Cells.get?, inside]

theorem get?_set_of_ne (cells : Cells α) {index position : Nat}
    (different : position ≠ index) (value : α) :
    (cells.set index value).get? position = cells.get? position := by
  rw [Cells.set]
  split
  case isTrue => simp [Cells.get?, List.lookup_cons, beq_false_of_ne different]
  case isFalse => rfl

/-- Whatever was written below the new length is still there after a resize. -/
theorem lookup_resize (cells : Cells α) {index length : Nat} (inside : index < length) :
    (cells.resize length).written.lookup index = cells.written.lookup index := by
  rcases cells with ⟨size, blank, written⟩
  simp only [resize]
  induction written with
  | nil => rfl
  | cons cell rest ih =>
      obtain ⟨position, value⟩ := cell
      by_cases here : index = position
      · subst here
        simp [inside]
      · rw [List.filter_cons]
        split
        all_goals simpa [List.lookup_cons, beq_false_of_ne here] using ih

theorem blank_raise (cells : Cells α) (length minimum size : Nat) :
    (cells.raise length minimum size).blank = cells.blank := by
  rw [raise]
  split <;> rfl

/-- What was not written is not written by a resize. -/
theorem lookup_raise {cells : Cells α} {index length minimum size : Nat}
    (unwritten : cells.written.lookup index = none) :
    (cells.raise length minimum size).written.lookup index = none := by
  rw [raise]
  split
  case isTrue =>
    rw [List.lookup_eq_none_iff] at unwritten ⊢
    exact fun cell member => unwritten cell (List.mem_of_mem_filter member)
  case isFalse => exact unwritten

theorem get?_raise {cells : Cells α} {index length minimum size : Nat}
    (inside : index < cells.size) (grows : length < minimum → cells.size ≤ size) :
    (cells.raise length minimum size).get? index = cells.get? index := by
  rw [raise]
  split
  case isTrue short =>
    have still : index < size := inside.trans_le (grows short)
    rw [get?, get?, if_pos inside, lookup_resize cells still]
    exact if_pos still
  case isFalse => rfl

end Cells

namespace Workspace

variable {R : Type}

/-! ## Regions -/

/-- The cells of a region. -/
def cells (workspace : Workspace R) : (region : Region) → Cells (region.Content R)
  | .character => workspace.characters
  | .integer => workspace.integers
  | .real => workspace.reals

/-- Writes a cell of a region. -/
def write (workspace : Workspace R) :
    (region : Region) → Nat → region.Content R → Workspace R
  | .character, index, value =>
      { workspace with characters := workspace.characters.set index value }
  | .integer, index, value => { workspace with integers := workspace.integers.set index value }
  | .real, index, value => { workspace with reals := workspace.reals.set index value }

/-- Number of cells in a unit of length. -/
def unit : Region → Nat
  | .character => unitBytes
  | .integer | .real => 1

variable {workspace : Workspace R} {region other : Region} {index : Nat}
variable {value : region.Content R}

/-- Number of cells to which an estimate raises a region that is too short. -/
def raisedSize (estimate : StorageEstimate) : Region → Nat
  | .character => wrap (estimate.minimums.character * unitBytes)
  | .integer => estimate.minimums.integer
  | .real => estimate.minimums.real

theorem cells_grow (workspace : Workspace R) (estimate : StorageEstimate)
    (region : Region) :
    (workspace.grow estimate).cells region = (workspace.cells region).raise
      (workspace.lengths.of region) (estimate.minimums.of region) (raisedSize estimate region) := by
  cases region <;> rfl

/-- The bytes of the characters that some estimates ask for can be counted. Nothing is asked about
the other regions, which are counted in cells. -/
def AreCounted (region : Region) (estimates : List StorageEstimate) : Prop :=
  region = .character → ∀ estimate ∈ estimates,
    FitsWord (estimate.minimums.character * unitBytes)

theorem AreCounted.head {estimate : StorageEstimate} {rest : List StorageEstimate}
    (counted : AreCounted region (estimate :: rest)) (isCharacter : region = .character) :
    FitsWord (estimate.minimums.character * unitBytes) :=
  counted isCharacter estimate List.mem_cons_self

theorem AreCounted.mono {some all : List StorageEstimate} (counted : AreCounted region all)
    (among : some ⊆ all) : AreCounted region some :=
  fun isCharacter estimate member => counted isCharacter estimate (among member)

theorem raisedSize_eq {estimate : StorageEstimate}
    (fits : region = .character → FitsWord (estimate.minimums.character * unitBytes)) :
    raisedSize estimate region = unit region * estimate.minimums.of region := by
  cases region with
  | character => exact (fits rfl).wrap.trans (Nat.mul_comm _ _)
  | integer => exact (Nat.one_mul _).symm
  | real => exact (Nat.one_mul _).symm

theorem cells_write_self (workspace : Workspace R) (region : Region) (index : Nat)
    (value : region.Content R) :
    (workspace.write region index value).cells region =
      (workspace.cells region).set index value := by
  cases region <;> rfl

theorem cells_write_of_ne (workspace : Workspace R) (different : other ≠ region) (index : Nat)
    (value : region.Content R) :
    (workspace.write region index value).cells other = workspace.cells other := by
  cases region <;> cases other <;> first | rfl | exact absurd rfl different

theorem size_cells_write (workspace : Workspace R) (region other : Region) (index : Nat)
    (value : region.Content R) :
    ((workspace.write region index value).cells other).size = (workspace.cells other).size := by
  by_cases same : other = region
  · subst same
    rw [cells_write_self, Cells.size_set]
  · rw [cells_write_of_ne workspace same]

/-! ## Operations -/

/-- What can be done with a workspace. -/
inductive Operation (R : Type) where
  | grow (estimate : StorageEstimate)
  | write (region : Region) (index : Nat) (value : region.Content R)

namespace Operation

/-- The regions that an operation reports to have grown, and the workspace it leaves. -/
def run (workspace : Workspace R) : Operation R → List Region × Workspace R
  | grow estimate => (workspace.short estimate, workspace.grow estimate)
  | write region index value => ([], workspace.write region index value)

/-- The estimate to which an operation grows a workspace. -/
def estimate? : Operation R → Option StorageEstimate
  | grow estimate => some estimate
  | write _ _ _ => none

end Operation

/-- A workspace after some operations. -/
def after (start : Workspace R) (history : List (Operation R)) : Workspace R :=
  history.foldl (fun workspace operation => (operation.run workspace).2) start

theorem after_append (start : Workspace R) (first second : List (Operation R)) :
    after start (first ++ second) = after (after start first) second :=
  List.foldl_append

/-- The estimates of the growths, in order. -/
def estimates (history : List (Operation R)) : List StorageEstimate :=
  history.filterMap Operation.estimate?

/-- A length that is raised to what each of some estimates asks of a region. -/
def raised (region : Region) (length : Nat) (estimates : List StorageEstimate) : Nat :=
  estimates.foldl (fun length estimate => max length (estimate.minimums.of region)) length

/-- The last write to a cell. The cell was there. -/
def IsLastWrite (start : Workspace R) (history : List (Operation R)) (region : Region)
    (index : Nat) (value : region.Content R) : Prop :=
  ∃ before later, history = before ++ .write region index value :: later ∧
    index < ((after start before).cells region).size ∧
    ∀ value', .write region index value' ∉ later

/-- A region of a workspace is what a history makes of that of another one. -/
structure Reflects [Arith R] (workspace start : Workspace R) (history : List (Operation R))
    (region : Region) : Prop where
  /-- The region has the largest length that was asked for. -/
  length : workspace.lengths.of region =
    raised region (start.lengths.of region) (estimates history)
  /-- A cell holds what was written last. -/
  kept : ∀ index value, IsLastWrite start history region index value →
    (workspace.cells region).get? index = some value
  /-- A cell that was never written is blank. -/
  blank : ∀ index, index < (workspace.cells region).size →
    (∀ value, .write region index value ∉ history) →
      (workspace.cells region).get? index = some region.blank

/-! ## Lengths -/

theorem lengths_write (workspace : Workspace R) (region : Region) (index : Nat)
    (value : region.Content R) :
    (workspace.write region index value).lengths = workspace.lengths := by
  cases region <;> simp [lengths, write, Cells.size_set]

theorem length_after (start : Workspace R) {history : List (Operation R)}
    (counted : AreCounted region (estimates history)) :
    (after start history).lengths.of region =
      raised region (start.lengths.of region) (estimates history) := by
  induction history generalizing start with
  | nil => rfl
  | cons operation rest ih =>
      cases operation with
      | grow estimate =>
          refine (ih _ (counted.mono (List.subset_cons_self _ _))).trans ?_
          simp only [Operation.run, length_grow start counted.head]
          rfl
      | write region' index value =>
          refine (ih _ counted).trans ?_
          simp only [Operation.run, lengths_write]
          rfl

theorem length_le_run (workspace : Workspace R) {operation : Operation R}
    (counted : AreCounted region (estimates [operation])) :
    workspace.lengths.of region ≤ (operation.run workspace).2.lengths.of region := by
  cases operation with
  | grow estimate =>
      simp only [Operation.run, length_grow workspace counted.head]
      exact Nat.le_max_left _ _
  | write region' index value =>
      simp only [Operation.run, lengths_write]
      exact le_rfl

/-- A workspace whose regions consist of whole units. -/
def IsWhole (workspace : Workspace R) : Prop :=
  ∀ region, (workspace.cells region).size = unit region * workspace.lengths.of region

/-- The characters need whole units of bytes, the other regions have no parts of a unit. -/
theorem isWhole_iff : workspace.IsWhole ↔ unitBytes ∣ workspace.characters.size := by
  constructor
  · intro whole
    exact ⟨_, whole .character⟩
  · intro divides region
    cases region with
    | character => exact (Nat.mul_div_cancel' divides).symm
    | integer | real => exact (Nat.one_mul _).symm

/-- Bytes that wrap around are still a number of whole units. -/
theorem unitBytes_dvd_wrap (length : Nat) : unitBytes ∣ wrap (length * unitBytes) := by
  simp only [unitBytes, wrap, wordCount]
  omega

theorem IsWhole.run (whole : workspace.IsWhole) (operation : Operation R) :
    (operation.run workspace).2.IsWhole := by
  rw [isWhole_iff] at whole ⊢
  cases operation with
  | grow estimate =>
      simp only [Operation.run, grow, Cells.size_raise]
      split
      case isTrue => exact unitBytes_dvd_wrap _
      case isFalse => exact whole
  | write region index value =>
      have same := size_cells_write workspace region .character index value
      exact same ▸ whole

theorem IsWhole.after {start : Workspace R} (whole : start.IsWhole)
    (history : List (Operation R)) : (start.after history).IsWhole := by
  induction history generalizing start with
  | nil => exact whole
  | cons operation rest ih => exact ih (whole.run operation)

/-- Cells are only added. -/
theorem size_le_run (whole : workspace.IsWhole) {operation : Operation R}
    (counted : AreCounted region (estimates [operation])) :
    (workspace.cells region).size ≤ ((operation.run workspace).2.cells region).size := by
  rw [whole region, whole.run operation region]
  exact Nat.mul_le_mul_left _ (length_le_run workspace counted)

/-- An operation that does not write a cell keeps what it holds. -/
theorem get?_run (whole : workspace.IsWhole) (inside : index < (workspace.cells region).size)
    {operation : Operation R} (counted : AreCounted region (estimates [operation]))
    (other : ∀ value, operation ≠ .write region index value) :
    ((operation.run workspace).2.cells region).get? index =
      (workspace.cells region).get? index := by
  cases operation with
  | grow estimate =>
      simp only [Operation.run, cells_grow]
      refine Cells.get?_raise inside fun short => ?_
      rw [whole region, raisedSize_eq counted.head]
      exact Nat.mul_le_mul_left _ short.le
  | write region' index' value =>
      simp only [Operation.run]
      by_cases same : region = region'
      · subst same
        have different : index ≠ index' := fun here => other value (here ▸ rfl)
        rw [cells_write_self, Cells.get?_set_of_ne _ different]
      · rw [cells_write_of_ne workspace same]

/-- The estimates of a history are those of its first operation and those of the others. -/
theorem estimates_cons (operation : Operation R) (rest : List (Operation R)) :
    estimates (operation :: rest) = estimates [operation] ++ estimates rest := by
  cases operation <;> rfl

theorem get?_after {start : Workspace R} (whole : start.IsWhole)
    (inside : index < (start.cells region).size) {history : List (Operation R)}
    (counted : AreCounted region (estimates history))
    (other : ∀ value, .write region index value ∉ history) :
    ((after start history).cells region).get? index = (start.cells region).get? index := by
  induction history generalizing start with
  | nil => rfl
  | cons operation rest ih =>
      rw [estimates_cons] at counted
      have first := counted.mono (List.subset_append_left _ _)
      have kept := get?_run whole inside first fun value same =>
        other value (same ▸ List.mem_cons_self)
      refine (ih (whole.run operation) (inside.trans_le (size_le_run whole first))
        (counted.mono (List.subset_append_right _ _)) ?_).trans kept
      exact fun value member => other value (List.mem_cons_of_mem _ member)

/-- The last write to a cell is kept. -/
theorem IsLastWrite.get? {start : Workspace R} (whole : start.IsWhole)
    {history : List (Operation R)} (counted : AreCounted region (estimates history))
    (last : IsLastWrite start history region index value) :
    ((after start history).cells region).get? index = some value := by
  obtain ⟨before, later, rfl, inside, other⟩ := last
  rw [after_append]
  rw [estimates, List.filterMap_append] at counted
  have wholeThen := whole.after before
  have written : ((write (after start before) region index value).cells region).get? index =
      some value := by
    rw [cells_write_self, Cells.get?_set_self inside]
  have rest : AreCounted region (estimates later) := counted.mono (List.subset_append_right _ _)
  refine (get?_after (wholeThen.run (.write region index value)) ?_ rest other).trans written
  exact inside.trans_eq (size_cells_write _ region region index value).symm

section

variable [Arith R]

/-- A cell was never written and, once there, is blank. -/
def IsUnwritten (workspace : Workspace R) (region : Region) (index : Nat) : Prop :=
  (workspace.cells region).blank = region.blank ∧
    (workspace.cells region).written.lookup index = none

theorem IsUnwritten.get? (unwritten : workspace.IsUnwritten region index)
    (inside : index < (workspace.cells region).size) :
    (workspace.cells region).get? index = some region.blank := by
  rw [Cells.get?, if_pos inside, unwritten.1, unwritten.2]
  rfl

theorem IsUnwritten.run (unwritten : workspace.IsUnwritten region index)
    {operation : Operation R} (other : ∀ value, operation ≠ .write region index value) :
    (operation.run workspace).2.IsUnwritten region index := by
  cases operation with
  | grow estimate =>
      simp only [IsUnwritten, Operation.run, cells_grow]
      exact ⟨(Cells.blank_raise _ _ _ _).trans unwritten.1, Cells.lookup_raise unwritten.2⟩
  | write region' index' value =>
      simp only [IsUnwritten, Operation.run]
      by_cases same : region = region'
      · subst same
        have different : index ≠ index' := fun here => other value (here ▸ rfl)
        rw [cells_write_self, Cells.set]
        split
        case isTrue =>
          refine ⟨unwritten.1, ?_⟩
          simpa [List.lookup_cons, beq_false_of_ne different] using unwritten.2
        case isFalse => exact unwritten
      · rw [cells_write_of_ne workspace same]
        exact unwritten

theorem IsUnwritten.after {start : Workspace R}
    (unwritten : start.IsUnwritten region index) {history : List (Operation R)}
    (other : ∀ value, .write region index value ∉ history) :
    (after start history).IsUnwritten region index := by
  induction history generalizing start with
  | nil => exact unwritten
  | cons operation rest ih =>
      refine ih (unwritten.run fun value same => other value (same ▸ List.mem_cons_self)) ?_
      exact fun value member => other value (List.mem_cons_of_mem _ member)

end

/-! ## New workspaces -/

/-- The ways to make a workspace. -/
inductive Construction where
  | exact (lengths : Lengths)
  | floored (lengths : Lengths)
  | initial (dims : Dimensions) (baseLength : Nat)

/-- The workspace that is made. -/
def Construction.make [Arith R] : Construction → Workspace R
  | exact lengths => .exact lengths
  | floored lengths => .floored lengths
  | initial dims baseLength => .initial dims baseLength

variable [Arith R]

theorem exists_eq_exact (construction : Construction) :
    ∃ lengths, (construction.make : Workspace R) = exact lengths := by
  cases construction <;> exact ⟨_, rfl⟩

theorem isWhole_exact (lengths : Lengths) : (exact lengths : Workspace R).IsWhole :=
  isWhole_iff.2 (unitBytes_dvd_wrap lengths.character)

theorem isUnwritten_exact (lengths : Lengths) (region : Region) (index : Nat) :
    (exact lengths : Workspace R).IsUnwritten region index := by
  cases region <;> exact ⟨rfl, rfl⟩

theorem after_reflects (construction : Construction) {history : List (Operation R)}
    (counted : AreCounted region (estimates history)) :
    (after construction.make history).Reflects construction.make history region := by
  obtain ⟨lengths, same⟩ := exists_eq_exact (R := R) construction
  rw [same]
  constructor
  case length => exact length_after _ counted
  case kept => exact fun index value last => last.get? (isWhole_exact lengths) counted
  case blank =>
    intro index inside other
    exact ((isUnwritten_exact lengths region index).after other).get? inside

open AugmentedLagrangian (checkStorage storageEstimate storageNeeds)

end Workspace

end NonlinearProgram
