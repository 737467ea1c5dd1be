import NonlinearProgram.Proofs.AugmentedLagrangian.Assignments
import NonlinearProgram.Proofs.AugmentedLagrangian.Simulation
import NonlinearProgram.Proofs.Differentiation.History
import NonlinearProgram.Proofs.Session.Beginning

/-!
# Solves that do not disturb each other

Two things are kept from one solve of a session to the next: the settings of its solver, which
options and announced lengths have changed, and the memory of a differentiator that is used again.
Neither shows in a later solve, `Session.solves_undisturbed`. Options and lengths are announced
again before each solve and make up for what was assigned before; what a relay answers does not
depend on the memory it works with.
-/

namespace NonlinearProgram

open AugmentedLagrangian

variable {R σ : Type} [Arith R] {d : Differentiator R σ}

/-! ## Relays -/

namespace Relay

omit [Arith R] in
/-- A relay with another memory. -/
def withMemory (relay : Relay d) (memory : d.Memory) : Relay d := { relay with memory }

variable [Precision R]

/-- The callback of a relay that works with the same memory every time. -/
def forgetful (d : Differentiator R σ) (memory : d.Memory) :
    Callback R (Relay d) d.dims.nx d.dims.rows d.layout.solverLength :=
  fun request f g relay =>
    let answer := Relay.callback d request f g relay
    (answer.1, answer.2.withMemory memory)

/-- What a relay answers, and what it keeps besides its memory, does not depend on its memory. -/
theorem callback_withMemory (covered : d.layout.IsCovered)
    (determined : d.problem.IsDetermined d.dims.nx d.dims.ng d.layout.length) (memory : d.Memory)
    (request : Request R d.dims.nx) (f : Vector R d.dims.rows) (g : Vector R d.layout.solverLength)
    (relay : Relay d) :
    forgetful d memory request f g (relay.withMemory memory) =
      let answer := Relay.callback d request f g relay
      (answer.1, answer.2.withMemory memory) := by
  by_cases notified : 2 ≤ request.status
  · simp only [forgetful, Relay.callback, if_pos notified]
    rfl
  · have same := Differentiator.evaluate_same covered determined request.x relay.target
      (decide (0 < request.derivativesWanted)) memory relay.memory
    simp only [forgetful, Relay.callback, if_neg notified, withMemory]
    generalize decide (0 < request.derivativesWanted) = needDerivatives at same ⊢
    generalize d.evaluate request.x relay.target needDerivatives memory = ran at same ⊢
    generalize d.evaluate request.x relay.target needDerivatives relay.memory = ran' at same ⊢
    rcases ran with ⟨result, target, left⟩
    rcases ran' with ⟨result', target', left'⟩
    obtain ⟨rfl, rfl⟩ : result = result' ∧ target = target' := same
    cases result with
    | error failure => rfl
    | ok objective => cases needDerivatives <;> rfl

end Relay

/-! ## Sessions -/

namespace Session

/-- What a solve reports does not depend on the memory it works with. -/
theorem answer_same [Precision R] (covered : d.layout.IsCovered)
    (determined : d.problem.IsDetermined d.dims.nx d.dims.ng d.layout.length)
    (session : Session R (AugmentedLagrangian R)) (job : Job R) (memory memory' : d.Memory) :
    session.answer d job memory = session.answer d job memory' := by
  have forgets : ∀ given : d.Memory,
      let relayed := session.outcome d job (Relay.callback d) (Relay.fresh given)
      let forgotten := session.outcome d job (Relay.forgetful d memory) (Relay.fresh memory)
      forgotten.report = relayed.report ∧ forgotten.state = relayed.state ∧
        forgotten.callbackState.stats = relayed.callbackState.stats := by
    intro given relayed forgotten
    have alike := Relay.callback_withMemory covered determined memory
    have runs := runCall_of_answersLike (fun request f g relay _ => alike request f g relay)
      (session.readySolver d).settings
      (job.call d session.settings.problemName (session.lentWorkspace d)) (Relay.fresh given)
    have ends := callbackState_of_answersLike (fun request f g relay _ => alike request f g relay)
      (fun request f g relay => congrArg Prod.snd (alike request f g relay))
      (session.readySolver d).settings
      (job.call d session.settings.problemName (session.lentWorkspace d)) (Relay.fresh given)
    exact ⟨runs.1, runs.2.1, (congrArg Relay.stats ends :)⟩
  obtain ⟨report, state, stats⟩ := forgets memory
  obtain ⟨report', state', stats'⟩ := forgets memory'
  simp only [answer, ← report, ← report', ← state, ← state', ← stats, ← stats']

/-! ## Settings -/

/-- A session after some solves, of whatever problems and however they ended. -/
inductive After {ε : Type} [Engine R ε] [Precision R] (session : Session R ε) : Session R ε → Prop
  | none : After session session
  | solve {later : Session R ε} (after : After session later) {υ : Type}
      (d : Differentiator R υ) (job : Job R) (memory : d.Memory) :
      After session (later.solveWith d job memory).2.1

/-- A solve with a new differentiator is one of the solves a session may have been through. -/
theorem After.rebuilt [Precision R] {session later : Session R (AugmentedLagrangian R)}
    (after : session.After later) (problem : Problem R σ) (pattern : Pattern) (method : Method)
    (job : Job R) (state : σ) :
    session.After (later.solve problem pattern method job state).2.1 := by
  rw [Session.solve]
  rcases Differentiator.build problem pattern method with failure | d
  · exact after
  · exact after.solve d job (.fresh state)

/-- Assignments that will be made up for by some others and lengths of a workspace. -/
def IsCoveredBy (past own : List (Assignment R)) : Prop :=
  ∀ name ∈ past.map Prod.fst, name ∈ own.map Prod.fst ∨ ∃ region, name = .workspace region

omit [Arith R] in
theorem isCoveredBy_nil (own : List (Assignment R)) : IsCoveredBy [] own := nofun

omit [Arith R] in
theorem IsCoveredBy.append {past more own : List (Assignment R)} (first : IsCoveredBy past own)
    (second : IsCoveredBy more own) : IsCoveredBy (past ++ more) own := by
  intro name member
  rw [List.map_append] at member
  rcases List.mem_append.1 member with earlier | later
  · exact first name earlier
  · exact second name later

omit [Arith R] in
theorem isCoveredBy_self (own : List (Assignment R)) : IsCoveredBy own own :=
  fun _ member => .inl member

omit [Arith R] in
theorem isCoveredBy_lengths (workspace : Workspace R) (regions : List Region)
    (own : List (Assignment R)) :
    IsCoveredBy (regions.map (lengthAssignment workspace)) own := by
  intro name member
  rw [List.map_map] at member
  obtain ⟨region, _, rfl⟩ := List.mem_map.1 member
  exact .inr ⟨region, rfl⟩

/-- Opening the channels leaves the settings. -/
theorem settings_openChannels (routing : OutputRouting) (solver : AugmentedLagrangian R) :
    (Engine.openChannels routing solver).2.settings = solver.settings := by
  simp only [Engine.openChannels, openChannels]
  split
  · rfl
  · split <;> rfl

/-- Whether the channels open depends on where they lead. -/
theorem openChannels_fst (routing : OutputRouting) (solver solver' : AugmentedLagrangian R) :
    (Engine.openChannels routing solver).1 = (Engine.openChannels routing solver').1 := by
  simp only [Engine.openChannels, openChannels]
  split
  · rfl
  · split <;> rfl

/-- The options of a session are handed over to its solver: the job passes its checks and the
channels open. -/
def handsOver [Precision R] (session : Session R (AugmentedLagrangian R)) (d : Differentiator R σ)
    (job : Job R) : Bool :=
  (d.supplier.check job).isOk &&
    (Engine.openChannels session.settings.routing session.engine).1.isOk

section Kept

variable [Precision R] (session : Session R (AugmentedLagrangian R)) (d : Differentiator R σ)
variable (job : Job R) (memory : d.Memory)

/-- A solve changes the solver of a session and nothing else. -/
theorem solveWith_session : (session.solveWith d job memory).2.1 =
    { session with engine := (session.solveWith d job memory).2.1.engine } := by
  rw [solveWith, solveFrom]
  split
  · rfl
  · split <;> rfl

/-- A solve that hands over the options leaves the settings with which the solver was called, and
any other solve leaves the settings that there were. -/
theorem settings_solveWith : (session.solveWith d job memory).2.1.engine.settings =
    if session.handsOver d job then (session.readySolver d).settings
    else session.engine.settings := by
  have opens := settings_openChannels session.settings.routing session.engine
  rw [solveWith, solveFrom, handsOver, readySolver]
  cases d.supplier.check job with
  | error failure => rfl
  | ok passed =>
      rcases opening : Engine.openChannels session.settings.routing session.engine with
        ⟨failure | opened, solver⟩
      · rw [opening] at opens
        exact opens
      · exact settings_run memory

end Kept

/-- The options of a session are some assignments. -/
def Assigns (session : Session R (AugmentedLagrangian R)) (own : List (Assignment R)) : Prop :=
  ∀ (workspace : Workspace R) (solver : AugmentedLagrangian R),
    (session.options.apply workspace solver).2.2.settings.value =
      assignAll solver.settings.value own

/-- A later session differs by assignments that will be made up for. -/
structure IsLike (later session : Session R (AugmentedLagrangian R)) (own : List (Assignment R)) :
    Prop where
  settings : later.settings = session.settings
  options : later.options = session.options
  past : ∃ past, IsCoveredBy past own ∧
    later.engine.settings.value = assignAll session.engine.settings.value past

section Settings

variable {session later : Session R (AugmentedLagrangian R)} {own : List (Assignment R)}

omit [Arith R] in
theorem IsLike.refl (session : Session R (AugmentedLagrangian R)) (own : List (Assignment R)) :
    session.IsLike session own :=
  ⟨rfl, rfl, [], isCoveredBy_nil own, rfl⟩

omit [Arith R] in
theorem IsLike.trans {last : Session R (AugmentedLagrangian R)} (second : last.IsLike later own)
    (first : later.IsLike session own) : last.IsLike session own := by
  obtain ⟨past, covered, assigned⟩ := first.past
  obtain ⟨more, coveredToo, assignedToo⟩ := second.past
  refine ⟨second.settings.trans first.settings, second.options.trans first.options, past ++ more,
    covered.append coveredToo, ?_⟩
  rw [assignedToo, assigned, assignAll_append]

variable [Precision R]

/-- When the solver is called, the options have been assigned, and of the lengths those that come
before the first one that is too large. -/
theorem exists_value_readySolver (assigns : session.Assigns own) (d : Differentiator R σ) :
    ∃ announced, (session.readySolver d).settings.value = assignAll session.engine.settings.value
        (own ++ announced.map (lengthAssignment (session.lentWorkspace d))) ∧
      ((∀ region, (session.lentWorkspace d).lengths.of region ≤ maxSolverInteger) →
        announced = Region.all) := by
  let opened := (Engine.openChannels session.settings.routing session.engine).2
  obtain ⟨announced, assigned, all⟩ :=
    exists_announced (session.lentWorkspace d) Region.all (session.configure d opened)
  have applied : (session.configure d opened).settings.value =
      assignAll opened.settings.value own := assigns _ opened
  have opens : opened.settings = session.engine.settings := settings_openChannels _ _
  refine ⟨announced, ?_, ?_⟩
  · rw [applied, opens, ← assignAll_append] at assigned
    exact assigned
  · intro lengths
    apply all
    rw [(announceLengths_eq _ _ _).1]
    exact forM_eq_ok.2 fun region _ => Differentiator.checkCount_eq_ok.2 (lengths region)

/-- A solve assigns the options and at most all lengths. -/
theorem isLike_solveWith (assigns : session.Assigns own) (d : Differentiator R σ)
    (job : Job R) (memory : d.Memory) :
    (session.solveWith d job memory).2.1.IsLike session own := by
  have left := settings_solveWith session d job memory
  rw [solveWith_session]
  refine ⟨rfl, rfl, ?_⟩
  change ∃ past, _ ∧ (session.solveWith d job memory).2.1.engine.settings.value = _
  rw [left]
  split
  case isTrue =>
    obtain ⟨announced, assigned, _⟩ := exists_value_readySolver assigns d
    exact ⟨own ++ announced.map (lengthAssignment (session.lentWorkspace d)),
      (isCoveredBy_self own).append (isCoveredBy_lengths _ _ own), assigned⟩
  case isFalse => exact ⟨[], isCoveredBy_nil own, rfl⟩

theorem After.isLike (assigns : session.Assigns own) (after : session.After later) :
    later.IsLike session own := by
  induction after with
  | none => exact .refl session own
  | solve after d job memory ih =>
      have assignsToo := assigns
      rw [Assigns, ← ih.options] at assignsToo
      exact (isLike_solveWith assignsToo d job memory).trans ih

/-- When the solver is called, the options and all lengths have been assigned. -/
theorem value_readySolver (assigns : session.Assigns own) (d : Differentiator R σ)
    (lengths : ∀ region, (session.lentWorkspace d).lengths.of region ≤ maxSolverInteger) :
    (session.readySolver d).settings.value = assignAll session.engine.settings.value
      (own ++ Region.all.map (lengthAssignment (session.lentWorkspace d))) := by
  obtain ⟨announced, assigned, all⟩ := exists_value_readySolver assigns d
  rw [assigned, all lengths]

theorem IsLike.lentWorkspace_eq (like : later.IsLike session own) (d : Differentiator R σ) :
    later.lentWorkspace d = session.lentWorkspace d := by
  simp only [lentWorkspace, like.settings]
  rfl

/-- The solver is called with the settings it has without the solves before. -/
theorem IsLike.readySolver_settings (like : later.IsLike session own)
    (assigns : session.Assigns own) (d : Differentiator R σ)
    (lengths : ∀ region, (session.lentWorkspace d).lengths.of region ≤ maxSolverInteger) :
    (later.readySolver d).settings = (session.readySolver d).settings := by
  have assignsToo : later.Assigns own := by
    rw [Assigns, like.options]
    exact assigns
  obtain ⟨past, covered, assigned⟩ := like.past
  apply Settings.value_injective
  rw [value_readySolver assigns d lengths,
    value_readySolver assignsToo d (like.lentWorkspace_eq d ▸ lengths), like.lentWorkspace_eq d,
    assigned]
  apply assignAll_assignAll
  intro name member
  rw [List.map_append, List.mem_append, List.map_map]
  rcases covered name member with ofOption | ⟨region, rfl⟩
  · exact .inl ofOption
  · exact .inr (List.mem_map.2 ⟨region, by cases region <;> decide, rfl⟩)

/-- What comes before the call of the solver is the same. -/
theorem IsLike.preflight_eq (like : later.IsLike session own) (d : Differentiator R σ)
    (job : Job R) : later.preflight d job = session.preflight d job := by
  have opens : (Engine.openChannels session.settings.routing later.engine).1 =
      (Engine.openChannels session.settings.routing session.engine).1 :=
    openChannels_fst _ _ _
  rw [preflight, preflight, like.lentWorkspace_eq d, like.settings, opens]

theorem IsLike.outcome_eq {τ : Type} (like : later.IsLike session own)
    (assigns : session.Assigns own) (d : Differentiator R σ) (job : Job R)
    (lengths : ∀ region, (session.lentWorkspace d).lengths.of region ≤ maxSolverInteger)
    (callback : Callback R τ d.dims.nx d.dims.rows d.layout.solverLength) (state : τ) :
    later.outcome d job callback state = session.outcome d job callback state := by
  rw [outcome, outcome, like.readySolver_settings assigns d lengths, like.lentWorkspace_eq d,
    like.settings]

/-- A later session reports the same. -/
theorem IsLike.solveWith_fst (like : later.IsLike session own)
    (assigns : session.Assigns own) (d : Differentiator R σ) (job : Job R) (memory : d.Memory) :
    (later.solveWith d job memory).1 = (session.solveWith d job memory).1 := by
  rw [Session.solveWith_fst, Session.solveWith_fst, like.preflight_eq]
  apply map_congr
  rintro ⟨⟩ passed
  have begins : session.CanBegin d job := preflight_eq_ok.1 passed
  rw [answer, answer, like.outcome_eq assigns d job begins.lengths]

end Settings

/-- Solves do not disturb each other: after any solves of any problems, with any memory of a
differentiator that is used again, or with a new one, a session reports what it reports without
them. -/
theorem solves_undisturbed [Precision R] {problem : Problem R σ} {pattern : Pattern}
    {method : Method}
    (determined : ∀ d, Differentiator.build problem pattern method = .ok d →
      problem.IsDetermined d.dims.nx d.dims.ng d.layout.length)
    {session later : Session R (AugmentedLagrangian R)} (after : session.After later)
    (job : Job R) :
    (∀ state state', (later.solve problem pattern method job state).1 =
        (session.solve problem pattern method job state').1) ∧
      ∀ d, Differentiator.build problem pattern method = .ok d → ∀ memory memory',
        (later.solveWith d job memory).1 = (session.solveWith d job memory').1 := by
  obtain ⟨own, applied⟩ := exists_assignments session.options.entries
  have assigns : session.Assigns own := applied {}
  have like := after.isLike assigns
  have reused : ∀ d, Differentiator.build problem pattern method = .ok d → ∀ memory memory',
      (later.solveWith d job memory).1 = (session.solveWith d job memory').1 := by
    intro d built memory memory'
    have known := determined d built
    rw [← Differentiator.problem_of_build built] at known
    rw [like.solveWith_fst assigns, Session.solveWith_fst, Session.solveWith_fst,
      answer_same (Differentiator.isCovered_of_build built) known session job memory memory']
  refine ⟨fun state state' => ?_, reused⟩
  rw [solve, solve]
  rcases built : Differentiator.build problem pattern method with failure | d
  · rfl
  · exact reused d built (.fresh state) (.fresh state')

/-- The square and the product are solved from a point where the square overflows, and then from
another point with what is left of the differentiator. -/
theorem solves_undisturbed_squareAndProduct :
    let d := Differentiator.onSparse squareAndProduct squareAndProductEntries .supplied
    let job : Job Double := ⟨.cold #[2.0, 3.0, 4.0] 3, .free ⟨3, 2⟩, 0⟩
    let earlier : Job Double := ⟨.cold #[1e200, 3.0, 4.0] 3, .free ⟨3, 2⟩, 0⟩
    let before := usual.solveWith d earlier (.fresh ())
    Differentiator.build squareAndProduct (.sparse 2 3 squareAndProductEntries) .supplied = .ok d ∧
      squareAndProduct.IsDetermined 3 2 d.layout.length ∧ usual.After before.2.1 ∧
        (usual.solveWith d job (.fresh ())).1.isOk ∧
          (before.2.1.solveWith d job before.2.2).1 = (usual.solveWith d job (.fresh ())).1 := by
  intro d job earlier before
  have built : Differentiator.build squareAndProduct (.sparse 2 3 squareAndProductEntries)
      .supplied = .ok d := Differentiator.build_eq_ok.2 ⟨by decide, rfl⟩
  have determined : ∀ d', Differentiator.build squareAndProduct
      (.sparse 2 3 squareAndProductEntries) .supplied = .ok d' →
        squareAndProduct.IsDetermined d'.dims.nx d'.dims.ng d'.layout.length := by
    intro d' builtToo
    obtain rfl : d = d' := Except.ok.inj (built.symm.trans builtToo)
    exact Differentiator.isDetermined_squareAndProduct
  have begins : usual.CanBegin d job :=
    usual_canBegin (by decide +kernel) (by decide +kernel) (by decide +kernel)
  have answered : (usual.solveWith d job (.fresh ())).1.isOk := by
    rw [begins.answered]
    rfl
  have after : usual.After before.2.1 := .solve .none d earlier (.fresh ())
  exact ⟨built, Differentiator.isDetermined_squareAndProduct, after, answered,
    (solves_undisturbed determined after job).2 d built before.2.2 (.fresh ())⟩

end Session

end NonlinearProgram
