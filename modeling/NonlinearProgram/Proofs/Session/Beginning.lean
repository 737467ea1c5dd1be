import NonlinearProgram.Proofs.AugmentedLagrangian.Assignments
import NonlinearProgram.Proofs.AugmentedLagrangian.WellFormed
import NonlinearProgram.Proofs.Differentiation.Build
import NonlinearProgram.Proofs.Problem.Dependence
import NonlinearProgram.Proofs.Relay.SolverLayout
import NonlinearProgram.Proofs.Session.CallOrder

/-!
# How a solve begins

Data that pass their checks, channels that open and sizes that fit are all that a session with the
augmented-Lagrangian solver needs: its solve then makes exactly one call, `Session.solveWith_eq`.
The call is well formed as soon as there are variables, whatever the pattern, and the workspace that
has been negotiated is never too small.
-/

namespace NonlinearProgram

open AugmentedLagrangian

variable {R σ : Type} [Arith R]

/-! ## Workspaces -/

namespace Workspace

theorem lengths_exact {lengths : Lengths} (fits : FitsWord (lengths.character * unitBytes)) :
    (exact lengths : Workspace R).lengths = lengths := by
  simp only [exact, Workspace.lengths, fits.wrap]
  simp [unitBytes]

theorem leastLength_le_initial (dims : Dimensions) (baseLength : Nat) (region : Region) :
    leastLength ≤ (initial dims baseLength : Workspace R).lengths.of region := by
  have fits : FitsWord (max leastLength leastLength * unitBytes) := by decide
  rw [initial, floored, lengths_exact fits]
  cases region <;> exact Nat.le_max_right _ _

omit [Arith R] in
theorem isBelowFloor_eq_false {workspace : Workspace R}
    (enough : ∀ region, leastLength ≤ workspace.lengths.of region) :
    workspace.isBelowFloor = false := by
  rw [isBelowFloor, List.any_eq_false]
  intro region _
  simpa using enough region

end Workspace

namespace AugmentedLagrangian

/-- A workspace that has been grown to the needs of a request is not refused. -/
theorem checkStorage_grow {workspace : Workspace R} (request : StorageRequest)
    (fits : FitsWord ((storageNeeds request).character * Workspace.unitBytes))
    (enough : ∀ region, Workspace.leastLength ≤ workspace.lengths.of region) (inform : Int) :
    checkStorage (workspace.grow ⟨inform, storageNeeds request⟩) request = none := by
  have lengths (region : Region) :
      (workspace.grow ⟨inform, storageNeeds request⟩).lengths.of region =
        max (workspace.lengths.of region) ((storageNeeds request).of region) :=
    workspace.length_grow fun _ => fits
  have floor : (workspace.grow ⟨inform, storageNeeds request⟩).isBelowFloor = false :=
    Workspace.isBelowFloor_eq_false fun region =>
      (enough region).trans ((Nat.le_max_left _ _).trans_eq (lengths region).symm)
  have notShort : (workspace.grow ⟨inform, storageNeeds request⟩).short
      ⟨StorageEstimate.valid, storageNeeds request⟩ = [] := by
    rw [Workspace.short, List.filter_eq_nil_iff]
    intro region _
    simp [lengths]
  rw [checkStorage, floor, notShort]
  rfl

/-- The solver needs something of each region. -/
theorem exactNeeds_pos (request : StorageRequest) (region : Region) :
    0 < (exactNeeds request).of region := by
  cases region <;> simp only [Lengths.of, exactNeeds, Workspace.leastLength] <;> omega

omit [Arith R] in
theorem storageEstimate_eq (request : StorageRequest) {workspace : Workspace R}
    (enough : ∀ region, Workspace.leastLength ≤ workspace.lengths.of region) :
    storageEstimate request workspace = ⟨StorageEstimate.valid, storageNeeds request⟩ := by
  rw [storageEstimate, Workspace.isBelowFloor_eq_false enough]
  rfl

end AugmentedLagrangian

/-! ## Checks -/

namespace Differentiator

omit [Arith R] in
/-- The pattern of a differentiator has the shape of its problem. -/
theorem checkShape_pattern (d : Differentiator R σ) : d.pattern.checkShape d.dims = .ok () := by
  rw [Pattern.checkShape, then_eq_ok, checkExtent_eq_ok, checkExtent_eq_ok, pattern]
  cases d.layout with
  | dense => exact ⟨rfl, rfl⟩
  | sparse entries coloring => exact ⟨rfl, rfl⟩

omit [Arith R] in
theorem mem_solverPositions {d : Differentiator R σ} {position : Nat × Nat}
    (member : position ∈ d.layout.pattern.solverPositions) :
    (1 ≤ position.1 ∧ position.1 ≤ d.dims.rows) ∧ 1 ≤ position.2 ∧ position.2 ≤ d.dims.nx := by
  rw [Layout.solverPositions_eq_cells] at member
  obtain ⟨⟨row, column⟩, _, rfl⟩ := List.mem_map.1 member
  exact ⟨⟨Nat.le_add_left 1 _, row.isLt⟩, Nat.le_add_left 1 _, column.isLt⟩

theorem checkCount_eq_ok {what : SolverCount} {value : Nat} :
    checkCount what value = .ok () ↔ value ≤ maxSolverInteger := by
  rw [checkCount]
  split <;> simp [*]

variable [Precision R]

/-- Indices fit the integers of a solver if the numbers of rows and columns do. -/
theorem checkCounts_eq_ok {d : Differentiator R σ} :
    d.supplier.checkCounts = .ok () ↔
      d.dims.rows ≤ maxSolverInteger ∧ d.dims.nx ≤ maxSolverInteger := by
  simp only [Supplier.checkCounts, then_eq_ok, forM_eq_ok, checkCount_eq_ok]
  constructor
  · rintro ⟨rows, columns, _⟩
    exact ⟨rows, columns⟩
  · rintro ⟨rows, columns⟩
    refine ⟨rows, columns, ?_, ?_⟩
    · intro position member
      exact (mem_solverPositions member).1.2.trans rows
    · intro position member
      exact (mem_solverPositions member).2.2.trans columns

theorem validate_eq_ok {d : Differentiator R σ} {job : Job R} :
    d.supplier.validate job = .ok () ↔ job.bounds.validate d.dims = .ok () ∧
      job.start.validate d.dims = .ok () ∧ Arith.isFinite job.objectiveConstant := by
  rw [Supplier.validate, then_eq_ok, then_eq_ok, then_eq_ok,
    iff_true_intro d.checkShape_pattern, true_and]
  cases Arith.isFinite job.objectiveConstant with
  | false => simp
  | true => exact and_congr_right fun _ => and_congr_right fun _ => iff_of_true rfl rfl

theorem check_eq_ok {d : Differentiator R σ} {job : Job R} :
    d.supplier.check job = .ok () ↔ d.supplier.validate job = .ok () ∧
      d.dims.rows ≤ maxSolverInteger ∧ d.dims.nx ≤ maxSolverInteger := by
  rw [← checkCounts_eq_ok, Supplier.check]
  cases d.supplier.validate job with
  | error failure => exact ⟨nofun, nofun⟩
  | ok passed =>
      constructor
      · intro counts
        exact ⟨rfl, counts⟩
      · exact And.right

omit [Arith R] [Precision R] in
/-- The entries of a matrix bound the number of derivatives a solver receives. -/
theorem solverLength_le (d : Differentiator R σ) :
    d.layout.solverLength ≤ d.dims.rows * d.dims.nx := by
  have counted := d.layout.nodup_cells.length_le_card
  rw [Fintype.card_prod, Fintype.card_fin, Fintype.card_fin] at counted
  rw [Layout.solverLength, ← Pattern.length_shifted (· + 1), ← Pattern.solverPositions,
    Layout.solverPositions_eq_cells, List.length_map]
  exact counted

/-- What a solver needs for sizes that fit its integers can be counted. -/
theorem fitsWord_exactNeeds {d : Differentiator R σ} (rows : d.dims.rows ≤ maxSolverInteger)
    (columns : d.dims.nx ≤ maxSolverInteger) (region : Region) :
    FitsWord ((exactNeeds d.supplier.storageRequest).of region) := by
  have entries := (solverLength_le d).trans (Nat.mul_le_mul rows columns)
  have square := Nat.mul_le_mul columns columns
  simp only [Layout.solverLength, maxSolverInteger] at rows columns entries square
  cases region <;>
    simp only [FitsWord, wordCount, exactNeeds, Supplier.storageRequest, Lengths.of,
      Workspace.leastLength, pattern] <;> omega

end Differentiator

/-! ## The call -/

section Call

variable {d : Differentiator R σ} {job : Job R}

theorem AreBounds.cutBound [LawfulInfinity R] {n : Nat} {lower upper : Array R}
    (bounds : AreBounds n lower upper) :
    AreBounds n (lower.map NonlinearProgram.cutBound) (upper.map NonlinearProgram.cutBound) where
  lower_size := by rw [Array.size_map, bounds.lower_size]
  upper_size := by rw [Array.size_map, bounds.upper_size]
  ordered := by
    rw [Array.toList_map, Array.toList_map, List.zip_map]
    intro pair member
    obtain ⟨given, isGiven, rfl⟩ := List.mem_map.1 member
    have ordered := LawfulOrder.crossed_eq_false_iff.1 (bounds.ordered given isGiven)
    exact LawfulOrder.crossed_eq_false_iff.2 (LawfulInfinity.cutBound_le_cutBound ordered)

theorem AreBounds.cons {n : Nat} {low high : R} {lower upper : Array R}
    (uncrossed : crossed low high = false) (bounds : AreBounds n lower upper) :
    AreBounds (n + 1) (#[low] ++ lower) (#[high] ++ upper) where
  lower_size := by simp [bounds.lower_size, Nat.add_comm]
  upper_size := by simp [bounds.upper_size, Nat.add_comm]
  ordered := by
    rw [Array.toList_append, Array.toList_append]
    exact List.forall_mem_cons.2 ⟨uncrossed, bounds.ordered⟩

variable [Precision R]

/-- The call of a job is well formed as soon as there are variables. -/
theorem isWellFormed_call [LawfulInfinity R] (counted : FitsWord d.dims.rows)
    (bounds : job.bounds.validate d.dims = .ok ()) (start : job.start.validate d.dims = .ok ())
    (some : d.dims.nx ≠ 0) (name : String) (workspace : Workspace R) :
    (job.call d name workspace).IsWellFormed := by
  obtain ⟨xBounds, gBounds⟩ := Bounds.validate_eq_ok.1 bounds
  obtain ⟨fits, finite⟩ := Start.validate_eq_ok.1 start
  rw [Dimensions.nf_eq_rows counted] at fits
  have free : crossed (-infiniteBound : R) infiniteBound = false :=
    LawfulOrder.crossed_eq_false_iff.2 LawfulInfinity.neg_infiniteBound_le
  exact
    { nonempty := some
      objective := ⟨Int.le_refl 1, Int.ofNat_le.2 (Nat.le_add_left 1 d.dims.ng)⟩
      state := fits
      xBounds := xBounds.cutBound
      fBounds := gBounds.cutBound.cons free
      columns := by simp [Supplier.call, Pattern.solverPositions, Pattern.length_shifted]
      linearRows := rfl
      linearColumns := rfl
      linear := nofun
      linearRowsInside := nofun
      linearColumnsInside := nofun
      rowsInside := by
        intro row member
        obtain ⟨position, isPosition, rfl⟩ := List.mem_map.1 member
        obtain ⟨⟨least, most⟩, _⟩ := Differentiator.mem_solverPositions isPosition
        exact ⟨Int.ofNat_le.2 least, Int.ofNat_le.2 most⟩
      columnsInside := by
        intro column member
        obtain ⟨position, isPosition, rfl⟩ := List.mem_map.1 member
        obtain ⟨_, least, most⟩ := Differentiator.mem_solverPositions isPosition
        exact ⟨Int.ofNat_le.2 least, Int.ofNat_le.2 most⟩
      xNames := rfl
      fNames := rfl
      start := finite }

end Call

/-! ## The session -/

/-- Whether lengths can be announced depends on these alone, as the workspace stays as it is. -/
theorem AugmentedLagrangian.announceLengths_eq (regions : List Region) (workspace : Workspace R)
    (solver : AugmentedLagrangian R) :
    let announced := announceLengths regions workspace solver
    announced.1 = regions.forM (fun region =>
        checkCount .workspaceLength (workspace.lengths.of region)) ∧
      announced.2.1 = workspace := by
  induction regions generalizing solver with
  | nil => exact ⟨rfl, rfl⟩
  | cons region rest ih =>
      rw [announceLengths, List.forM_eq_forM, List.forM_cons]
      rcases checkCount .workspaceLength (workspace.lengths.of region) with failure | passed
      · exact ⟨rfl, rfl⟩
      · exact ih _

namespace Session

variable [Precision R] (session : Session R (AugmentedLagrangian R)) (d : Differentiator R σ)
variable (job : Job R)

/-- The workspace that is lent to the solver: the initial one, grown to what the solver needs. -/
def lentWorkspace : Workspace R :=
  (negotiate d.supplier.storageRequest (Workspace.initial d.dims session.settings.baseLength)
    session.engine).1

/-- The solver with the options of a session. -/
def configure (opened : AugmentedLagrangian R) : AugmentedLagrangian R :=
  (session.options.apply (Workspace.initial d.dims session.settings.baseLength) opened).2.2

/-- The solver when it is called: its channels are open, options are set, lengths announced. -/
def readySolver : AugmentedLagrangian R :=
  let opened := (Engine.openChannels session.settings.routing session.engine).2
  (announceLengths Region.all (session.lentWorkspace d) (session.configure d opened)).2.2

/-- What the solver makes of a job, with any callback. -/
def outcome {τ : Type} (callback : Callback R τ d.dims.nx d.dims.rows d.layout.solverLength)
    (state : τ) : Outcome R τ :=
  runCall (session.readySolver d).settings
    (job.call d session.settings.problemName (session.lentWorkspace d)) callback state

/-- A solve can begin: bounds, start and objective constant pass their checks, every size fits the
integers of the solver, and the channels open. -/
structure CanBegin : Prop where
  bounds : job.bounds.validate d.dims = .ok ()
  start : job.start.validate d.dims = .ok ()
  constant : Arith.isFinite job.objectiveConstant
  rows : d.dims.rows ≤ maxSolverInteger
  columns : d.dims.nx ≤ maxSolverInteger
  lengths : ∀ region, (session.lentWorkspace d).lengths.of region ≤ maxSolverInteger
  channels : (Engine.openChannels session.settings.routing session.engine).1 = .ok ()

/-- Storage that can be counted is negotiated. -/
theorem lentWorkspace_eq {d : Differentiator R σ} (rows : d.dims.rows ≤ maxSolverInteger)
    (columns : d.dims.nx ≤ maxSolverInteger) :
    session.lentWorkspace d = (Workspace.initial d.dims session.settings.baseLength).grow
      ⟨StorageEstimate.valid, storageNeeds d.supplier.storageRequest⟩ := by
  have fits := Differentiator.fitsWord_exactNeeds rows columns
  have usable : StorageEstimate.isUsable
      ⟨StorageEstimate.valid, storageNeeds d.supplier.storageRequest⟩ = true := by
    simp only [StorageEstimate.isUsable, beq_self_eq_true, Bool.true_and, List.all_eq_true,
      decide_eq_true_eq, storageNeeds_eq fits]
    exact fun region _ => exactNeeds_pos _ region
  have estimate := storageEstimate_eq d.supplier.storageRequest
    (Workspace.leastLength_le_initial (R := R) d.dims session.settings.baseLength)
  simp only [lentWorkspace, negotiate, Engine.storage, estimate, usable, if_true]

variable {session d job}

theorem CanBegin.fitsWord_rows (begins : session.CanBegin d job) : FitsWord d.dims.rows :=
  Nat.lt_of_le_of_lt begins.rows (by decide)

/-- A solve that can begin is accepted if there are variables and the basis fits. -/
theorem CanBegin.exists_accept [LawfulInfinity R] (begins : session.CanBegin d job)
    (some : d.dims.nx ≠ 0) :
    let call := job.call d session.settings.problemName (session.lentWorkspace d)
    ¬call.HasBadBasis → ∃ program, call.accept = .ok program := by
  intro call good
  have stored : checkStorage call.workspace call.storageRequest = none := by
    change checkStorage (session.lentWorkspace d) d.supplier.storageRequest = none
    rw [lentWorkspace_eq session begins.rows begins.columns]
    have fits : FitsWord (wrap (Workspace.leastLength + 1 + 1) * Workspace.unitBytes) := by decide
    exact checkStorage_grow d.supplier.storageRequest fits
      (Workspace.leastLength_le_initial d.dims session.settings.baseLength) _
  exact EngineCall.exists_accept_eq_ok
    (isWellFormed_call begins.fitsWord_rows begins.bounds begins.start some _ _) good stored

variable (session d job)

/-- All that can fail before the solver is called: the checks of the data, the channels, and the
lengths of the workspace. -/
def preflight : Except SessionError Unit := do
  d.supplier.check job
  (Engine.openChannels session.settings.routing session.engine).1
  Region.all.forM fun region =>
    checkCount .workspaceLength ((session.lentWorkspace d).lengths.of region)

variable {session d job}

theorem preflight_eq_ok : session.preflight d job = .ok () ↔ session.CanBegin d job := by
  rw [preflight, then_eq_ok, then_eq_ok, Differentiator.check_eq_ok,
    Differentiator.validate_eq_ok, forM_eq_ok]
  simp only [Differentiator.checkCount_eq_ok]
  constructor
  · rintro ⟨⟨⟨bounds, start, constant⟩, rows, columns⟩, channels, lengths⟩
    refine ⟨bounds, start, constant, rows, columns, fun region => lengths region ?_, channels⟩
    cases region <;> decide
  · rintro ⟨bounds, start, constant, rows, columns, lengths, channels⟩
    exact ⟨⟨⟨bounds, start, constant⟩, rows, columns⟩, channels, fun region _ => lengths region⟩

variable (session d) in
/-- What is negotiated is the workspace that is lent. -/
theorem negotiate_lentWorkspace (configured : AugmentedLagrangian R) :
    negotiate d.supplier.storageRequest
        (Workspace.initial d.dims session.settings.baseLength) configured =
      (session.lentWorkspace d, configured) := rfl

omit [Precision R] in
variable (session d) in
/-- Options leave the initial workspace as it is. -/
theorem apply_options (opened : AugmentedLagrangian R) :
    let initial : Workspace R := .initial d.dims session.settings.baseLength
    session.options.apply initial opened =
      ((session.options.apply initial opened).1, initial, session.configure d opened) := by
  intro initial
  have kept := (value_applyOptions {} session.options.entries initial opened).2
  exact Prod.ext rfl (Prod.ext kept rfl)

variable (session d job) in
/-- What a solve reports once the solver has been called. -/
def answer (memory : d.Memory) : SessionResult R :=
  let outcome := session.outcome d job (Relay.callback d) (Relay.fresh memory)
  { state := outcome.state
    objective := outcome.state.f[0]?.getD 0 + job.objectiveConstant
    report := outcome.report
    stats := outcome.callbackState.stats }

section Run

variable {opened ready : AugmentedLagrangian R} {workspace : Workspace R} (memory : d.Memory)

/-- A solve ends with the first length that cannot be announced. -/
theorem run_of_untold {failure : SessionError}
    (untold : announceLengths Region.all (session.lentWorkspace d) (session.configure d opened) =
      (.error failure, workspace, ready)) :
    d.supplier.run job session.settings session.options opened memory =
      (.error failure, ready, memory) := by
  rw [Supplier.run, session.apply_options d opened]
  simp only [negotiate_lentWorkspace, untold]

/-- A solve of which all lengths have been announced is one call of the solver. -/
theorem run_of_told
    (told : announceLengths Region.all (session.lentWorkspace d) (session.configure d opened) =
      (.ok (), session.lentWorkspace d, ready)) :
    let solved := Engine.solve (job.call d session.settings.problemName (session.lentWorkspace d))
      (Relay.callback d) ready (Relay.fresh memory)
    d.supplier.run job session.settings session.options opened memory =
      (.ok
        { state := solved.1.2
          objective := solved.1.2.f[0]?.getD 0 + job.objectiveConstant
          report := solved.1.1
          stats := solved.2.2.stats },
        solved.2.1, solved.2.2.memory) := by
  rw [Supplier.run, session.apply_options d opened]
  simp only [negotiate_lentWorkspace, told]

variable (session d opened) in
/-- Announcing leaves the workspace that is lent as it is. -/
theorem announceLengths_lentWorkspace :
    let announced :=
      announceLengths Region.all (session.lentWorkspace d) (session.configure d opened)
    announced = (announced.1, session.lentWorkspace d, announced.2.2) := by
  intro announced
  have kept := (announceLengths_eq Region.all (session.lentWorkspace d)
    (session.configure d opened)).2
  exact Prod.ext rfl (Prod.ext kept rfl)

/-- A solve leaves the settings that there are when the last length has been announced. -/
theorem settings_run :
    (d.supplier.run job session.settings session.options opened memory).2.1.settings =
      (announceLengths Region.all (session.lentWorkspace d)
        (session.configure d opened)).2.2.settings := by
  have kept := session.announceLengths_lentWorkspace d opened
  rcases told : announceLengths Region.all (session.lentWorkspace d) (session.configure d opened)
    with ⟨failure | _, workspace, ready⟩
  · rw [run_of_untold memory told]
  · rw [told] at kept
    rw [run_of_told memory (told.trans kept)]
    rfl

end Run

/-- A solve fails before the solver is called, or it is one call of the solver. -/
theorem solveWith_fst (memory : d.Memory) : (session.solveWith d job memory).1 =
    (session.preflight d job).map fun _ => session.answer d job memory := by
  rw [preflight]
  rcases checked : d.supplier.check job with failure | passed
  · simp only [solveWith, solveFrom, checked]
    rfl
  · rcases opening : Engine.openChannels session.settings.routing session.engine with
      ⟨failure | opens, opened⟩
    · simp only [solveWith, solveFrom, checked, opening]
      rfl
    · have announced := (announceLengths_eq Region.all (session.lentWorkspace d)
        (session.configure d opened)).1
      have kept := session.announceLengths_lentWorkspace d opened
      rcases told : announceLengths Region.all (session.lentWorkspace d)
        (session.configure d opened) with ⟨failure | _, workspace, ready⟩
      · rw [told] at announced
        simp only [solveWith, solveFrom, checked, opening, run_of_untold memory told]
        rw [← announced]
        rfl
      · rw [told] at announced kept
        have isReady : session.readySolver d = ready := by rw [readySolver, opening, told]
        simp only [solveWith, solveFrom, checked, opening, run_of_told memory (told.trans kept)]
        rw [← announced, answer, Session.outcome, isReady]
        rfl

/-- A solve succeeds exactly if it can begin. -/
theorem solveWith_eq_ok {memory : d.Memory} {result : SessionResult R} :
    (session.solveWith d job memory).1 = .ok result ↔
      session.CanBegin d job ∧ session.answer d job memory = result := by
  rw [solveWith_fst, ← preflight_eq_ok]
  cases session.preflight d job with
  | error failure => exact ⟨nofun, nofun⟩
  | ok passed => simp [Except.map]

/-- A solve that can begin is answered. -/
theorem CanBegin.answered (begins : session.CanBegin d job) (memory : d.Memory) :
    (session.solveWith d job memory).1 = .ok (session.answer d job memory) :=
  solveWith_eq_ok.2 ⟨begins, rfl⟩

/-- A solve that can begin is one call of the solver. -/
theorem solveWith_eq (begins : session.CanBegin d job) (memory : d.Memory) :
    session.solveWith d job memory =
      (.ok (session.answer d job memory),
        { session with
          engine :=
            Engine.closeChannels
              (Engine.solve (job.call d session.settings.problemName (session.lentWorkspace d))
                (Relay.callback d) (session.readySolver d) (Relay.fresh memory)).2.1 },
        (session.outcome d job (Relay.callback d) (Relay.fresh memory)).callbackState.memory) := by
  have checked : d.supplier.check job = .ok () :=
    Differentiator.check_eq_ok.2
      ⟨Differentiator.validate_eq_ok.2 ⟨begins.bounds, begins.start, begins.constant⟩,
        begins.rows, begins.columns⟩
  rcases opening : Engine.openChannels session.settings.routing session.engine with
    ⟨result, opened⟩
  have opens : result = .ok () := by
    rw [← begins.channels, opening]
  have kept := session.announceLengths_lentWorkspace d opened
  rcases told : announceLengths Region.all (session.lentWorkspace d) (session.configure d opened)
    with ⟨announced, workspace, ready⟩
  have announces : announced = .ok () := by
    have announced := (announceLengths_eq Region.all (session.lentWorkspace d)
      (session.configure d opened)).1
    rw [told] at announced
    exact announced.trans (forM_eq_ok.2 fun region _ =>
      Differentiator.checkCount_eq_ok.2 (begins.lengths region))
  rw [told] at kept
  rw [announces] at told kept
  have isReady : session.readySolver d = ready := by rw [readySolver, opening, told]
  simp only [solveWith, solveFrom, checked, opening, opens, run_of_told memory (told.trans kept)]
  rw [answer, Session.outcome, isReady]
  rfl

/-! ## A small session -/

/-- A session with the usual settings. -/
def usual : Session Double (AugmentedLagrangian Double) where
  engine := .new

/-- A solve of the square and the product can begin with the usual settings, if the data of its job
pass their checks. -/
theorem usual_canBegin {job : Job Double} (bounds : job.bounds.validate ⟨3, 2⟩ = .ok ())
    (start : job.start.validate ⟨3, 2⟩ = .ok ()) (constant : Arith.isFinite job.objectiveConstant) :
    usual.CanBegin (.onSparse squareAndProduct squareAndProductEntries .supplied) job where
  bounds := bounds
  start := start
  constant := constant
  rows := by decide
  columns := by decide
  lengths region := by cases region <;> decide +kernel
  channels := rfl

end Session

end NonlinearProgram
