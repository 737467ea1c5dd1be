import NonlinearProgram.AugmentedLagrangian.Merit
import NonlinearProgram.Proofs.Arith.Order
import NonlinearProgram.Proofs.Vectors

/-!
# Violations

The violations of all rows are summed up in one pass. A bound of the largest violation bounds the
violation of every row, and then no row is counted; a largest violation above the tolerance is that
of a row that is counted.
-/

namespace NonlinearProgram.AugmentedLagrangian

variable {R : Type} [Arith R] {n nf neg : Nat}

/-- One more row is added to the violations. -/
def Violation.add (total : Violation R) (tolerance amount : R) : Violation R :=
  let most := Arith.maximum total.most amount
  if tolerance < amount then ⟨most, total.count + 1, total.sum + amount⟩ else { total with most }

/-- Violations of some rows, after those that are known. -/
def Violation.addRows (program : Program R n nf neg) (tolerance : R) (f : Vector R nf)
    (total : Violation R) (rows : List (Fin nf)) : Violation R :=
  rows.foldl (fun total row => total.add tolerance (rowViolation program f row)) total

theorem violation_eq_addRows (program : Program R n nf neg) (tolerance : R) (f : Vector R nf) :
    violation program tolerance f =
      Violation.addRows program tolerance f ⟨0, 0, 0⟩ program.rows := rfl

namespace Violation

variable {program : Program R n nf neg} {tolerance : R} {f : Vector R nf}

@[simp] theorem add_most (total : Violation R) (tolerance amount : R) :
    (total.add tolerance amount).most = Arith.maximum total.most amount := by
  rw [add]
  split <;> rfl

theorem add_count (total : Violation R) (tolerance amount : R) :
    (total.add tolerance amount).count =
      total.count + if tolerance < amount then 1 else 0 := by
  rw [add]
  split <;> rfl

theorem add_of_not_lt (total : Violation R) {tolerance amount : R} (within : ¬tolerance < amount) :
    total.add tolerance amount = { total with most := Arith.maximum total.most amount } :=
  if_neg within

theorem addRows_cons (total : Violation R) (row : Fin nf) (rest : List (Fin nf)) :
    addRows program tolerance f total (row :: rest) =
      addRows program tolerance f (total.add tolerance (rowViolation program f row)) rest := rfl

theorem count_addRows (total : Violation R) (rows : List (Fin nf)) :
    (addRows program tolerance f total rows).count =
      total.count + rows.countP fun row => decide (tolerance < rowViolation program f row) := by
  induction rows generalizing total with
  | nil => rfl
  | cons row rest ih =>
      rw [addRows_cons, ih, add_count, List.countP_cons]
      by_cases beyond : tolerance < rowViolation program f row
      · rw [if_pos beyond, if_pos (decide_eq_true beyond)]
        omega
      · rw [if_neg beyond, if_neg (by simpa using beyond)]
        omega

theorem sum_addRows_of_forall_not_lt (total : Violation R) {rows : List (Fin nf)}
    (within : ∀ row ∈ rows, ¬tolerance < rowViolation program f row) :
    (addRows program tolerance f total rows).sum = total.sum := by
  induction rows generalizing total with
  | nil => rfl
  | cons row rest ih =>
      rw [addRows_cons, ih _ fun other member => within other (List.mem_cons_of_mem _ member),
        add_of_not_lt total (within row List.mem_cons_self)]

theorem exists_of_lt_most_addRows {total : Violation R} {rows : List (Fin nf)} {least : R}
    (above : least < (addRows program tolerance f total rows).most) :
    least < total.most ∨ ∃ row ∈ rows, least < rowViolation program f row := by
  induction rows generalizing total with
  | nil => exact .inl above
  | cons row rest ih =>
      rcases ih above with here | ⟨other, member, beyond⟩
      · rw [add_most] at here
        rcases LawfulOrder.lt_or_lt_of_lt_maximum here with known | beyond
        · exact .inl known
        · exact .inr ⟨row, List.mem_cons_self, beyond⟩
      · exact .inr ⟨other, List.mem_cons_of_mem _ member, beyond⟩

end Violation

variable [LawfulOrder R]

theorem not_isNaN_rowViolation (program : Program R n nf neg) (f : Vector R nf) (row : Fin nf) :
    ¬Arith.isNaN (rowViolation program f row) :=
  LawfulOrder.not_isNaN_maximum (.inr LawfulOrder.isNaN_zero)

namespace Violation

variable {program : Program R n nf neg} {tolerance : R} {f : Vector R nf}

theorem not_isNaN_add_most {total : Violation R} (number : ¬Arith.isNaN total.most) (amount : R) :
    ¬Arith.isNaN (total.add tolerance amount).most := by
  rw [add_most]
  exact LawfulOrder.not_isNaN_maximum (.inl number)

theorem not_isNaN_most_addRows {total : Violation R} (number : ¬Arith.isNaN total.most)
    (rows : List (Fin nf)) : ¬Arith.isNaN (addRows program tolerance f total rows).most := by
  induction rows generalizing total with
  | nil => exact number
  | cons row rest ih => exact ih (not_isNaN_add_most number _)

theorem le_of_most_addRows_le {total : Violation R} {rows : List (Fin nf)} {bound : R}
    (number : ¬Arith.isNaN total.most)
    (bounded : (addRows program tolerance f total rows).most ≤ bound) :
    total.most ≤ bound ∧ ∀ row ∈ rows, rowViolation program f row ≤ bound := by
  induction rows generalizing total with
  | nil => exact ⟨bounded, fun _ member => nomatch member⟩
  | cons row rest ih =>
      obtain ⟨here, later⟩ := ih (not_isNaN_add_most number _) bounded
      rw [add_most] at here
      have bounds := LawfulOrder.le_of_maximum_le here
      refine ⟨bounds.1 number, fun other member => ?_⟩
      cases member with
      | head => exact bounds.2 (not_isNaN_rowViolation program f row)
      | tail _ member => exact later other member

end Violation

/-! ## Feasible and infeasible values -/

/-- Each row lies within its bounds up to a tolerance, as far as the differences are numbers. -/
def IsFeasible (program : Program R n nf neg) (tolerance : R) (f : Vector R nf) : Prop :=
  ∀ row ∈ program.rows,
    (¬Arith.isNaN (program.fLower.get row - f.get row) →
      program.fLower.get row - f.get row ≤ tolerance) ∧
    (¬Arith.isNaN (f.get row - program.fUpper.get row) →
      f.get row - program.fUpper.get row ≤ tolerance)

/-- Some row leaves its bounds by more than a tolerance. -/
def IsInfeasible (program : Program R n nf neg) (tolerance : R) (f : Vector R nf) : Prop :=
  ∃ row ∈ program.rows, tolerance < program.fLower.get row - f.get row ∨
    tolerance < f.get row - program.fUpper.get row

variable {program : Program R n nf neg} {tolerance : R} {f : Vector R nf}

theorem feasible_of_most_le (bounded : (violation program tolerance f).most ≤ tolerance) :
    IsFeasible program tolerance f ∧ (violation program tolerance f).count = 0 ∧
      (violation program tolerance f).sum = 0 := by
  rw [violation_eq_addRows] at bounded ⊢
  have within := (Violation.le_of_most_addRows_le LawfulOrder.isNaN_zero bounded).2
  have uncounted : ∀ row ∈ program.rows, ¬tolerance < rowViolation program f row :=
    fun row member => LawfulOrder.not_lt_of_le (within row member)
  refine ⟨fun row member => ?_, ?_, Violation.sum_addRows_of_forall_not_lt _ uncounted⟩
  · have bounds := LawfulOrder.le_of_maximum_le (within row member)
    constructor
    · intro number
      exact (LawfulOrder.le_of_maximum_le
        (bounds.1 (LawfulOrder.not_isNaN_maximum (.inl number)))).1 number
    · intro number
      exact (LawfulOrder.le_of_maximum_le
        (bounds.1 (LawfulOrder.not_isNaN_maximum (.inr number)))).2 number
  · rw [Violation.count_addRows, List.countP_eq_zero.2 (by simpa using uncounted)]

/-- A tolerance that is not negative is exceeded by the largest violation only where some row
exceeds it. -/
theorem infeasible_of_not_most_le (tolerable : 0 ≤ tolerance)
    (exceeded : ¬(violation program tolerance f).most ≤ tolerance) :
    IsInfeasible program tolerance f ∧ 1 ≤ (violation program tolerance f).count := by
  rw [violation_eq_addRows] at exceeded ⊢
  have above := LawfulOrder.lt_of_not_le
    (Violation.not_isNaN_most_addRows LawfulOrder.isNaN_zero program.rows)
    (LawfulOrder.not_isNaN_of_le tolerable).2 exceeded
  obtain ⟨row, member, beyond⟩ := (Violation.exists_of_lt_most_addRows above).resolve_left
    (LawfulOrder.not_lt_of_le tolerable)
  refine ⟨⟨row, member, ?_⟩, ?_⟩
  · have either := (LawfulOrder.lt_or_lt_of_lt_maximum beyond).resolve_right
      (LawfulOrder.not_lt_of_le tolerable)
    exact LawfulOrder.lt_or_lt_of_lt_maximum either
  · have counted : 0 < program.rows.countP
        fun row => decide (tolerance < rowViolation program f row) :=
      List.countP_pos_iff.2 ⟨row, member, decide_eq_true beyond⟩
    rw [Violation.count_addRows]
    omega

end NonlinearProgram.AugmentedLagrangian
