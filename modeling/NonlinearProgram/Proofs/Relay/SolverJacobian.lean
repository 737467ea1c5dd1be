import NonlinearProgram.Proofs.Arith.Zero
import NonlinearProgram.Proofs.AugmentedLagrangian.AcceptedCall
import NonlinearProgram.Proofs.AugmentedLagrangian.Assembly
import NonlinearProgram.Proofs.Differentiation.Build
import NonlinearProgram.Proofs.Problem.Dependence
import NonlinearProgram.Proofs.Relay.SolverLayout
import NonlinearProgram.Session

/-!
# The Jacobian a solver sees

A relay that is asked for derivatives hands over the function values as the objective followed by
the constraints, and in every slot the derivative of the cell that the solver was told for it. The
solver assembles these derivatives into the matrix of the layout: the gradient in the objective row,
the derivatives of the constraints in their cells, zero elsewhere.
-/

namespace NonlinearProgram

open AugmentedLagrangian

variable {R σ : Type} [Arith R]

/-! ## Structure -/

/-- The program of a solve has the cells of the layout as its positions, and no linear part. -/
theorem Job.program?_eq_some [Precision R] {job : Job R} {d : Differentiator R σ} {name : String}
    {workspace : Workspace R} {program : Program R d.dims.nx d.dims.rows d.layout.solverLength}
    (accepted : (job.call d name workspace).program? = some program) :
    program.entries.toList = d.layout.cells ∧ program.linear = [] := by
  have describes := EngineCall.describes_of_program? accepted
  constructor
  · apply describes.entries_eq
    · change (d.layout.pattern.solverPositions.map fun position => (position.1 : Int)) = _
      rw [Layout.solverPositions_eq_cells, List.map_map]
      rfl
    · change (d.layout.pattern.solverPositions.map fun position => (position.2 : Int)) = _
      rw [Layout.solverPositions_eq_cells, List.map_map]
      rfl
  · exact describes.linear_eq_nil rfl

namespace Layout

variable {nx ng : Nat}

omit [Arith R] in
theorem length_cells (layout : Layout nx ng) : layout.cells.length = layout.solverLength := by
  rw [solverLength, ← Pattern.length_shifted (· + 1), ← Pattern.solverPositions,
    solverPositions_eq_cells, List.length_map]

omit [Arith R] in
/-- A slot of a solver holds the derivative in its cell. -/
theorem derivative?_of_getElem?_cells (layout : Layout nx ng) (df : Vector R nx)
    (dg : Vector R layout.length) {k : Nat} (inside : k < layout.solverLength)
    {row : Fin (ng + 1)} {column : Fin nx} (cell : layout.cells[k]? = some (row, column)) :
    layout.derivative? df dg row column = some (layout.solverDerivatives df dg)[k] := by
  have slots := congrArg (·[k]?) (layout.map_derivative?_cells df dg)
  simpa [cell, inside] using slots

/-- The assembled matrix holds each derivative in its cell, up to the sign of zero, and is zero in
every other cell. -/
theorem get_assembleJacobian {layout : Layout nx ng}
    {program : Program R nx (ng + 1) layout.solverLength}
    (positions : program.entries.toList = layout.cells) (linear : program.linear = [])
    (df : Vector R nx) (dg : Vector R layout.length) (row : Fin (ng + 1)) (column : Fin nx) :
    ((assembleJacobian program (layout.solverDerivatives df dg)).get column).get row =
      ((layout.derivative? df dg row column).map (0 + ·)).getD 0 := by
  have distinct : program.entries.toList.Nodup := positions ▸ layout.nodup_cells
  have stored := layout.mem_cells_iff df dg row column
  rw [← positions] at stored
  cases value : layout.derivative? df dg row column with
  | none =>
      rw [value] at stored
      have outside : (row, column) ∉ program.entries.toList := by simp [stored]
      rw [get_assembleJacobian_of_not_mem linear _ outside]
      rfl
  | some derivative =>
      rw [value] at stored
      rcases List.mem_iff_getElem.1 (stored.2 rfl) with ⟨k, inside, cell⟩
      have inside' : k < layout.solverLength := by simpa using inside
      have position : program.entries[k] = (row, column) := by simpa using cell
      have cell? : layout.cells[k]? = some (row, column) := by
        rw [← positions, List.getElem?_eq_getElem inside, cell]
      have slot := layout.derivative?_of_getElem?_cells df dg inside' cell?
      rw [AugmentedLagrangian.get_assembleJacobian linear distinct _ inside' position]
      rw [value] at slot
      rw [Option.some.inj slot]
      rfl

end Layout

/-! ## Replies -/

omit [Arith R] in
theorem toList_stackRows {ng : Nat} (objective : R) (g : Vector R ng) :
    (stackRows objective g).toList = objective :: g.toList := by
  apply List.ext_getElem
  · simp
  · intro k _ _
    cases k with
    | zero => simp [stackRows]
    | succ k =>
        simp only [Vector.getElem_toList, stackRows, Vector.getElem_ofFn, List.getElem_cons_succ]
        rfl

variable [Precision R]

/-- The reply to a request for derivatives whose evaluation succeeds. -/
theorem Relay.callback_of_evaluate_ok {d : Differentiator R σ} {request : Request R d.dims.nx}
    {relay : Relay d} {objective : R} {target : d.Target} {memory : d.Memory}
    (asked : request.status < 2) (wanted : 0 < request.derivativesWanted)
    (evaluated : d.evaluate request.x relay.target true relay.memory =
      (.ok objective, target, memory))
    (f : Vector R d.dims.rows) (g : Vector R d.layout.solverLength) :
    (Relay.callback d request f g relay).1 =
      ⟨request.status, stackRows objective target.g,
        d.layout.solverDerivatives target.df target.dg⟩ := by
  have needed : (decide (0 < request.derivativesWanted)) = true := decide_eq_true wanted
  rw [Relay.callback, if_neg (Int.not_le.2 asked)]
  simp only [needed, evaluated]
  rfl

/-- The derivatives agree between the structure, the relay and the solver: the function values are
the objective followed by the constraints, every slot holds the derivative of the cell that the
solver was told for it, and the matrix the solver assembles holds each derivative in its cell, up to
the sign of zero, and is zero in every other cell. -/
theorem Relay.callback_solverJacobian [LawfulZero R] {problem : Problem R σ} {pattern : Pattern}
    {method : Method} {d : Differentiator R σ}
    (built : Differentiator.build problem pattern method = .ok d) {request : Request R d.dims.nx}
    {relay : Relay d} {objective : R} {target : d.Target} {memory : d.Memory}
    (asked : request.status < 2) (wanted : 0 < request.derivativesWanted)
    (evaluated : d.evaluate request.x relay.target true relay.memory =
      (.ok objective, target, memory))
    (f : Vector R d.dims.rows) (g : Vector R d.layout.solverLength) :
    let reply := (Relay.callback d request f g relay).1
    let derivative? := d.layout.derivative? target.df target.dg
    reply.f.toList = objective :: target.g.toList ∧
      pattern.solverSize = d.layout.solverLength ∧
      (∀ k (inside : k < d.layout.solverLength), ∃ row column,
        pattern.solverPositions[k]? = some (row.val + 1, column.val + 1) ∧
          derivative? row column = some reply.g[k]) ∧
      ∀ (job : Job R) name workspace program,
        (job.call d name workspace).program? = some program →
        ∀ (row : Fin d.dims.rows) (column : Fin d.dims.nx),
          let cell := ((assembleJacobian program reply.g).get column).get row
          (∀ value, derivative? row column = some value →
            cell = 0 + value ∧ (Arith.isFinite value → (cell == value) = true)) ∧
          (derivative? row column = none → cell = 0) := by
  intro reply derivative?
  have isReply := Relay.callback_of_evaluate_ok asked wanted evaluated f g
  have isPattern : d.layout.pattern = pattern := Differentiator.pattern_of_build built
  refine ⟨?_, ?_, ?_, ?_⟩
  · rw [show reply = _ from isReply]
    exact toList_stackRows objective target.g
  · rw [← isPattern]
  · intro k inside
    have inCells : k < d.layout.cells.length := d.layout.length_cells ▸ inside
    obtain ⟨⟨row, column⟩, cell⟩ : ∃ cell, d.layout.cells[k]? = some cell :=
      ⟨_, List.getElem?_eq_getElem inCells⟩
    refine ⟨row, column, ?_, ?_⟩
    · rw [← isPattern, Layout.solverPositions_eq_cells, List.getElem?_map, cell]
      rfl
    · rw [show reply = _ from isReply]
      exact d.layout.derivative?_of_getElem?_cells target.df target.dg inside cell
  · intro job name workspace program accepted row column cell
    rcases Job.program?_eq_some accepted with ⟨positions, linear⟩
    have assembled : cell = ((derivative? row column).map (0 + ·)).getD 0 := by
      have assembled := Layout.get_assembleJacobian positions linear target.df target.dg row
        column
      simp only [cell, show reply = _ from isReply]
      exact assembled
    constructor
    · intro value isValue
      rw [isValue] at assembled
      refine ⟨assembled, fun finite => ?_⟩
      rw [assembled]
      exact LawfulZero.zero_add_beq value finite
    · intro undeclared
      rw [assembled, undeclared]
      rfl

/-- The derivative that was declared first is that of the last constraint by the last variable. -/
theorem Relay.callback_solverJacobian_squareAndProduct :
    let d := Differentiator.onSparse squareAndProduct squareAndProductEntries .supplied
    let job : Job Double := ⟨.cold #[2.0, 3.0, 4.0] 3, .free ⟨3, 2⟩, 0⟩
    let request : Request Double 3 := ⟨0, #v[2.0, 3.0, 4.0], 1, 1⟩
    let relay : Relay d := .fresh (.fresh ())
    let reply := (Relay.callback d request (.replicate 3 0) (.replicate 6 0) relay).1
    ∃ objective target memory program,
      d.evaluate request.x relay.target true relay.memory = (.ok objective, target, memory) ∧
      (job.call d "" (.initial d.dims 0)).program? = some program ∧
      reply.f.toList = objective :: target.g.toList ∧
      ((assembleJacobian program reply.g).get 2).get (2 : Fin 3) =
        0 + target.dg.get ⟨0, by decide⟩ ∧
      ((assembleJacobian program reply.g).get 0).get (2 : Fin 3) = 0 := by
  intro d job request relay reply
  have succeeds : (d.evaluate request.x relay.target true relay.memory).1.isOk := by
    decide +kernel
  have accepts : (job.call d "" (.initial d.dims 0)).program?.isSome := by decide +kernel
  have built : Differentiator.build squareAndProduct (.sparse 2 3 squareAndProductEntries)
      .supplied = .ok d := rfl
  rcases evaluated : d.evaluate request.x relay.target true relay.memory with
    ⟨_ | objective, target, memory⟩
  · rw [evaluated] at succeeds
    cases succeeds
  · rcases Option.isSome_iff_exists.1 accepts with ⟨program, accepted⟩
    obtain ⟨values, _, _, assembled⟩ := Relay.callback_solverJacobian built (by decide)
      (by decide) evaluated (.replicate 3 0) (.replicate 6 0)
    have cells := assembled job "" (.initial d.dims 0) program accepted
    exact ⟨objective, target, memory, program, rfl, accepted, values,
      ((cells (2 : Fin 3) (2 : Fin 3)).1 _ rfl).1, (cells (2 : Fin 3) (0 : Fin 3)).2 rfl⟩

end NonlinearProgram
