import NonlinearProgram.Proofs.Arith.Zero
import NonlinearProgram.Proofs.AugmentedLagrangian.Coherence
import NonlinearProgram.Proofs.AugmentedLagrangian.WellFormed

/-!
# Which values of a solve are finite

A reply counts as defined when everything that was written is finite. The linear part is added
afterwards, and so are derivatives that share a position; nothing looks at these sums. A solve that
goes on therefore reports finite values where no linear term is added, `runCall_finiteParts`, while
a sum that leaves the finite range is reported like any other value.
-/

namespace NonlinearProgram

open AugmentedLagrangian

/-- What is finite about the point of a reply: all that was written, every amount that is added to
a cell, and the entries that are not sums of several amounts. -/
structure Exchange.HasFiniteParts {n nf neg : Nat} (exchange : Exchange Double n nf neg)
    (program : Program Double n nf neg) : Prop where
  values : ∀ row, Arith.isFinite (exchange.reply.f.get row)
  f : ∀ row, (∀ term ∈ program.linear, term.1 ≠ row) →
    Arith.isFinite ((exchange.point program).f.get row)
  amounts : 0 < exchange.request.derivativesWanted → ∀ row column,
    ∀ amount ∈ amountsAt (program.amounts exchange.reply.g) row column, Arith.isFinite amount
  jacobian : 0 < exchange.request.derivativesWanted → ∀ row column,
    (amountsAt (program.amounts exchange.reply.g) row column).length ≤ 1 →
      Arith.isFinite (((exchange.point program).jacobian.get column).get row)

namespace AugmentedLagrangian

section

variable {R : Type} [Arith R] {n nf neg : Nat}

theorem isFinite_get_of_allFinite {values : Vector R n} (finite : allFinite values) (k : Fin n) :
    Arith.isFinite (values.get k) := by
  rw [allFinite, Vector.all_eq_true] at finite
  exact finite k k.isLt

theorem isFinite_of_allFinite {values : Vector R n} (finite : allFinite values) :
    ∀ value ∈ values.toList, Arith.isFinite value :=
  forall_mem_toList.2 (isFinite_get_of_allFinite finite)

/-- Everything that is added to the Jacobian of a program is a derivative or a coefficient of the
linear part. -/
theorem isFinite_of_mem_amountsAt {program : Program R n nf neg} {g : Vector R neg}
    (derivatives : allFinite g) (linear : ∀ term ∈ program.linear, Arith.isFinite term.2.2)
    {row : Fin nf} {column : Fin n} {amount : R}
    (member : amount ∈ amountsAt (program.amounts g) row column) : Arith.isFinite amount := by
  obtain ⟨entry, isEntry, rfl⟩ := List.mem_map.1 member
  rcases List.mem_append.1 (List.mem_filter.1 isEntry).1 with nonlinear | isTerm
  · rw [Vector.toList_zip] at nonlinear
    exact isFinite_of_allFinite derivatives _ (List.of_mem_zip nonlinear).2
  · obtain ⟨term, inLinear, rfl⟩ := List.mem_map.1 isTerm
    exact linear term inLinear

/-- A row without linear terms has the value that was written. -/
theorem get_assembleValues_of_no_terms {linear : List (Fin nf × Fin n × R)} {row : Fin nf}
    (none : ∀ term ∈ linear, term.1 ≠ row) (x : Vector R n) (f : Vector R nf) :
    (assembleValues linear x f).get row = f.get row := by
  have empty : linear.filter (·.1 = row) = [] :=
    List.filter_eq_nil_iff.2 fun term member => by simpa using none term member
  rw [get_assembleValues, empty]
  rfl

/-- The coefficients of the linear part of an accepted call are finite. -/
theorem isFinite_of_mem_linear {call : EngineCall R n nf neg} {program : Program R n nf neg}
    (accepted : call.accept = .ok program) {term : Fin nf × Fin n × R}
    (member : term ∈ program.linear) : Arith.isFinite term.2.2 := by
  have wellFormed := EngineCall.isSome_program?_iff.1
    (Option.isSome_of_eq_some (EngineCall.program?_of_accept accepted))
  apply wellFormed.linear
  rw [(EngineCall.describes_of_accept accepted).linear]
  exact List.mem_map.2 ⟨term, member, rfl⟩

end

variable {τ : Type} {n nf neg : Nat}

/-- A reply that counts as defined has finite parts, if the linear part is finite. -/
theorem hasFiniteParts_of_defined {program : Program Double n nf neg}
    (linear : ∀ term ∈ program.linear, Arith.isFinite term.2.2)
    {exchange : Exchange Double n nf neg}
    (defined : verdict (decide (0 < exchange.request.derivativesWanted)) exchange.reply =
      .defined ()) : exchange.HasFiniteParts program := by
  obtain ⟨_, values, derivatives⟩ := verdict_eq_defined_iff.1 defined
  rw [decide_eq_true_iff] at derivatives
  have amounts : 0 < exchange.request.derivativesWanted → ∀ row column,
      ∀ amount ∈ amountsAt (program.amounts exchange.reply.g) row column,
        Arith.isFinite amount :=
    fun wanted _ _ _ member => isFinite_of_mem_amountsAt (derivatives wanted) linear member
  constructor
  case values => exact isFinite_get_of_allFinite values
  case f =>
    intro row none
    rw [Exchange.point, get_assembleValues_of_no_terms none]
    exact isFinite_get_of_allFinite values row
  case amounts => exact amounts
  case jacobian =>
    intro wanted row column few
    have finite := amounts wanted row column
    rw [Exchange.point, get_assembleJacobian_eq_sum]
    rcases added : amountsAt (program.amounts exchange.reply.g) row column with _ | ⟨amount, rest⟩
    · rfl
    · rw [added] at few finite
      have once : rest = [] := List.eq_nil_of_length_eq_zero (by simpa using few)
      rw [once]
      exact Double.isFinite_zero_add (finite amount List.mem_cons_self)

/-- What a solve of an accepted call evaluates and reports is finite up to sums. Each reply that
counts as defined has finite parts. Unless the solve ends with its first call, the state is that of
the last defined reply with derivatives, and its function values are finite where no linear term is
added. -/
theorem runCall_finiteParts (settings : Settings Double) (call : EngineCall Double n nf neg)
    (callback : Callback Double τ n nf neg) (state : τ) :
    let outcome := runCall settings call callback state
    let record := exchanges settings call callback state
    outcome.report.inform ∈ [81, 82, 83, 84, 91, 92] ∨
      ∃ program : Program Double n nf neg, call.Describes program ∧
        (∀ exchange ∈ record,
          verdict (decide (0 < exchange.request.derivativesWanted)) exchange.reply = .defined () →
            exchange.HasFiniteParts program) ∧
        (outcome.report.inform ∈ [62, 71] ∨
          ∃ last : Exchange Double n nf neg, last.IsLatest record ∧
            last.Yields program outcome.state ∧ last.HasFiniteParts program ∧
              ∀ row : Fin nf, (∀ term ∈ program.linear, term.1 ≠ row) →
                ∃ value, outcome.state.f[row.val]? = some value ∧ Arith.isFinite value) := by
  intro outcome record
  rcases accepted : call.accept with refusal | program
  · left
    rw [show outcome = _ from runCall_of_refuse accepted settings callback state]
    exact refusal.code_mem
  · have linear : ∀ term ∈ program.linear, Arith.isFinite term.2.2 :=
      fun _ member => isFinite_of_mem_linear accepted member
    have recorded := runCall_recorded settings call callback state
    have solved := runCall_of_accept accepted settings callback.recorded ([], state)
    refine .inr ⟨program, EngineCall.describes_of_accept accepted,
      fun exchange _ => hasFiniteParts_of_defined linear, ?_⟩
    rw [show record = _ from congrArg (·.callbackState.1) solved,
      show outcome.report = _ from recorded.1, show outcome.state = _ from recorded.2.1, solved]
    rcases program.solve_latest settings _ callback state with ⟨early, _⟩ | ⟨last, latest, yields⟩
    · exact .inl early
    · have finite : last.HasFiniteParts program := by
        obtain ⟨_, _, _, wanted, isDefined, _⟩ := latest
        apply hasFiniteParts_of_defined linear
        rw [verdict_eq_defined_iff, decide_eq_true_iff]
        exact isDefined
      refine .inr ⟨last, latest, yields, finite, fun row none => ?_⟩
      refine ⟨_, ?_, finite.f row none⟩
      rw [yields.f, Exchange.point, get_assembleValues]
      simp

/-- A variable that is fixed at a large value, and a linear objective with a large coefficient. -/
def overflowingCall : EngineCall Double 1 1 0 where
  mode := .cold
  name := "overflowing"
  objectiveConstant := 0
  objectiveRow := 1
  linear := #[1e308]
  linearRows := #[1]
  linearColumns := #[1]
  rows := #v[]
  columns := #[]
  xLower := #[1e10]
  xUpper := #[1e10]
  fLower := #[-1e20]
  fUpper := #[1e20]
  xNames := #[]
  fNames := #[]
  state :=
    { superbasics := 0, x := #[1e10], xState := #[0], xMul := #[0], f := #[0], fState := #[0]
      fMul := #[0] }
  workspace := .exact ⟨600, 700, 800⟩

/-- A callback that always gives one value. -/
def constantCallback (value : Double) : Callback Double Unit 1 1 0 :=
  fun _ _ _ => pure ⟨0, #v[value], #v[]⟩

/-- An infinite linear part is reported as an optimal value; an infinite reply of the callback is an
undefined one. -/
theorem overflow_reported :
    let outcome := runCall .default overflowingCall (constantCallback 0) ()
    let replied := runCall .default overflowingCall (constantCallback Arith.infinity) ()
    overflowingCall.accept.isOk ∧ outcome.report.inform = 1 ∧
      outcome.state.f.all Arith.isFinite = false ∧ replied.report.inform = 62 := by
  decide +kernel

end AugmentedLagrangian

end NonlinearProgram
