import NonlinearProgram.Differentiation.Scratch
import NonlinearProgram.Proofs.Vectors

/-!
# Computations on the sampling buffers

How a computation on `Scratch` ends is decided part by part: a sequence succeeds exactly if each
part does, and a loop that succeeds keeps what each of its passes keeps. A loop that fails does so
in one of its passes, after those before it. A sample that succeeds has stored rows that the problem
gave; `IsSample` says so without the buffers and states the problem was called with.
-/

namespace NonlinearProgram

variable {R σ : Type} {nx ng groups : Nat}

/-- Function rows that an evaluation gives at its point, from some buffer and state. -/
def IsSample {T : Type} (evaluate : Vector T ng → StateM σ (Evaluation T ng))
    (rows : Vector T (ng + 1)) : Prop :=
  ∃ buffer state objective constraints state',
    evaluate buffer state = (⟨.ok objective, constraints⟩, state') ∧
      rows = functionRows objective constraints

namespace Sampling

variable {α β : Type}

/-! ## Sequences -/

theorem run_bind (first : Sampling R σ nx ng groups α) (next : α → Sampling R σ nx ng groups β)
    (scratch : Scratch R σ nx ng groups) :
    (first >>= next).run scratch =
      match first.run scratch with
      | (.ok value, scratch) => (next value).run scratch
      | (.error failure, scratch) => (.error failure, scratch) := by
  change ExceptT.bindCont next (first.run scratch).1 (first.run scratch).2 = _
  rcases first.run scratch with ⟨_ | _, _⟩ <;> rfl

theorem run_bind_eq_ok {first : Sampling R σ nx ng groups α}
    {next : α → Sampling R σ nx ng groups β} {before after : Scratch R σ nx ng groups} {value : β} :
    (first >>= next).run before = (.ok value, after) ↔
      ∃ intermediate between, first.run before = (.ok intermediate, between) ∧
        (next intermediate).run between = (.ok value, after) := by
  rw [run_bind]
  constructor
  · intro run
    split at run
    case h_1 intermediate between first => exact ⟨intermediate, between, first, run⟩
    case h_2 => cases run
  · rintro ⟨intermediate, between, first, next⟩
    rw [first]
    exact next

theorem run_pure_eq_ok {before after : Scratch R σ nx ng groups} {given value : α} :
    (pure given : Sampling R σ nx ng groups α).run before = (.ok value, after) ↔
      value = given ∧ after = before := by
  change ((.ok given, before) : Except EvaluationFailure α × Scratch R σ nx ng groups) = _ ↔ _
  simp [eq_comm]

theorem run_get_eq_ok {before after value : Scratch R σ nx ng groups} :
    (get : Sampling R σ nx ng groups _).run before = (.ok value, after) ↔
      value = before ∧ after = before := by
  change ((.ok before, before) : Except EvaluationFailure _ × Scratch R σ nx ng groups) = _ ↔ _
  simp [eq_comm]

theorem run_modify_eq_ok {change : Scratch R σ nx ng groups → Scratch R σ nx ng groups}
    {before after : Scratch R σ nx ng groups} {value : PUnit} :
    (modify change : Sampling R σ nx ng groups PUnit).run before = (.ok value, after) ↔
      after = change before := by
  change ((.ok ⟨⟩, change before) : Except EvaluationFailure PUnit × Scratch R σ nx ng groups) = _
    ↔ _
  simp [eq_comm]

/-- A part that is followed by a change to the buffers, as the passes of the loops are. -/
theorem run_bind_modify_eq_ok {first : Sampling R σ nx ng groups α}
    {change : Scratch R σ nx ng groups → Scratch R σ nx ng groups}
    {before after : Scratch R σ nx ng groups} {value : PUnit} :
    (first >>= fun _ => modify change).run before = (.ok value, after) ↔
      ∃ intermediate between, first.run before = (.ok intermediate, between) ∧
        after = change between := by
  simp only [run_bind_eq_ok, run_modify_eq_ok]

/-- A sequence fails in its first part, or in what follows. -/
theorem run_bind_eq_error {first : Sampling R σ nx ng groups α}
    {next : α → Sampling R σ nx ng groups β} {before after : Scratch R σ nx ng groups}
    {failure : EvaluationFailure} :
    (first >>= next).run before = (.error failure, after) ↔
      first.run before = (.error failure, after) ∨
        ∃ value between, first.run before = (.ok value, between) ∧
          (next value).run between = (.error failure, after) := by
  rw [run_bind]
  constructor
  · intro run
    split at run
    case h_1 value between first => exact .inr ⟨value, between, first, run⟩
    case h_2 failure' between first =>
      cases run
      exact .inl first
  · rintro (fails | ⟨value, between, first, run⟩)
    · rw [fails]
    · rw [first]
      exact run

theorem run_get_ne_error {before after : Scratch R σ nx ng groups} {failure : EvaluationFailure} :
    (get : Sampling R σ nx ng groups _).run before ≠ (.error failure, after) := nofun

theorem run_pure_ne_error {value : α} {before after : Scratch R σ nx ng groups}
    {failure : EvaluationFailure} :
    (pure value : Sampling R σ nx ng groups α).run before ≠ (.error failure, after) := nofun

/-! ## Loops -/

/-- A loop that succeeds establishes what holds before it and is kept by every pass that succeeds;
the invariant may speak of the items that are done. -/
theorem forM_ok_induction {ι : Type} {items : List ι} {body : ι → Sampling R σ nx ng groups PUnit}
    (invariant : List ι → Scratch R σ nx ng groups → Prop)
    {before after : Scratch R σ nx ng groups} (start : invariant [] before)
    (step : ∀ done item, item ∈ items → ∀ {before after}, invariant done before →
      (body item).run before = (.ok ⟨⟩, after) → invariant (done ++ [item]) after)
    (run : (items.forM body).run before = (.ok ⟨⟩, after)) : invariant items after := by
  -- The items are split into those that are done and those that are left.
  suffices general : ∀ (rest done : List ι) {before}, (∀ item ∈ rest, item ∈ items) →
      invariant done before → (rest.forM body).run before = (.ok ⟨⟩, after) →
        invariant (done ++ rest) after by
    simpa using general items [] (fun _ member => member) start run
  intro rest
  induction rest with
  | nil =>
      intro done before _ holds run
      rcases run_pure_eq_ok.1 run with ⟨_, rfl⟩
      simpa using holds
  | cons item rest ih =>
      intro done before members holds run
      rw [List.forM_eq_forM, List.forM_cons, run_bind_eq_ok] at run
      rcases run with ⟨_, between, first, run⟩
      have next := ih (done ++ [item]) (fun other member => members other (.tail _ member))
        (step done item (members item (.head _)) holds first) run
      simpa using next

/-- A loop over all indices establishes a property of each if its own pass establishes it and the
other passes keep it. -/
theorem forM_finRange_ok {count : Nat} {body : Fin count → Sampling R σ nx ng groups PUnit}
    (property : Fin count → Scratch R σ nx ng groups → Prop)
    (pass : ∀ index {before after}, (body index).run before = (.ok ⟨⟩, after) →
      property index after)
    (kept : ∀ index {other before after}, index ≠ other → property other before →
      (body index).run before = (.ok ⟨⟩, after) → property other after)
    {before after : Scratch R σ nx ng groups}
    (run : ((List.finRange count).forM body).run before = (.ok ⟨⟩, after)) (index : Fin count) :
    property index after := by
  refine forM_ok_induction (fun done scratch => ∀ index ∈ done, property index scratch)
    (fun _ member => nomatch member) ?_ run index (List.mem_finRange index)
  intro done index _ before after earlier now other member
  by_cases same : index = other
  · exact same ▸ pass index now
  · refine kept index same (earlier other ?_) now
    rcases List.mem_append.1 member with known | last
    · exact known
    · exact absurd (List.mem_singleton.1 last).symm same

/-- A loop leaves what each of its passes leaves. -/
theorem forM_preserves {ι α : Type} {items : List ι} {body : ι → Sampling R σ nx ng groups PUnit}
    (view : Scratch R σ nx ng groups → α)
    (pass : ∀ item {before after}, (body item).run before = (.ok ⟨⟩, after) →
      view after = view before)
    {before after : Scratch R σ nx ng groups}
    (run : (items.forM body).run before = (.ok ⟨⟩, after)) : view after = view before :=
  forM_ok_induction (fun _ scratch => view scratch = view before) rfl
    (fun _ item _ _ _ earlier now => (pass item now).trans earlier) run

/-- A loop fails in one of its passes, those before it being complete. -/
theorem forM_eq_error {ι : Type} {items : List ι} {body : ι → Sampling R σ nx ng groups PUnit}
    {before after : Scratch R σ nx ng groups} {failure : EvaluationFailure}
    (run : (items.forM body).run before = (.error failure, after)) :
    ∃ (index : Nat) (inside : index < items.length) (between : Scratch R σ nx ng groups),
      ((items.take index).forM body).run before = (.ok ⟨⟩, between) ∧
        (body items[index]).run between = (.error failure, after) := by
  induction items generalizing before with
  | nil => cases run
  | cons item rest ih =>
      rw [List.forM_eq_forM, List.forM_cons, run_bind_eq_error] at run
      rcases run with fails | ⟨_, between, first, run⟩
      · exact ⟨0, Nat.succ_pos _, before, rfl, fails⟩
      · obtain ⟨index, inside, between', completes, fails⟩ := ih run
        refine ⟨index + 1, Nat.succ_lt_succ inside, between', ?_, fails⟩
        rw [List.take_succ_cons, List.forM_eq_forM, List.forM_cons, run_bind_eq_ok]
        exact ⟨_, between, first, completes⟩

/-! ## Samples -/

theorem requireFinite_eq_ok {T : Type} {size : Nat} {isFinite : T → Bool} {quantity : Quantity}
    {values : Vector T size} :
    requireFinite isFinite quantity values = .ok () ↔ ∀ index, isFinite (values.get index) := by
  have found : requireFinite isFinite quantity values = .ok () ↔
      values.toList.findIdx? (fun value => !isFinite value) = none := by
    rw [requireFinite]
    split
    case h_1 _ found => simp [found]
    case h_2 _ missing => simp [missing]
  rw [found, List.findIdx?_eq_none_iff, forall_mem_toList]
  simp

theorem evaluateRows_ok {T : Type} {isFinite : T → Bool}
    {evaluate : Vector T ng → StateM σ (Evaluation T ng)} {buffer rows : Vector T (ng + 1)}
    {state state' : σ}
    (run : evaluateRows isFinite evaluate buffer state = ((.ok (), rows), state')) :
    IsSample evaluate rows ∧ ∀ row, isFinite (rows.get row) := by
  rcases evaluated : evaluate buffer.tail state with ⟨⟨outcome, constraints⟩, state''⟩
  cases outcome with
  | ok objective =>
      have reduced : evaluateRows isFinite evaluate buffer state =
          ((requireFinite isFinite .function (functionRows objective constraints),
            functionRows objective constraints), state'') := by
        simp only [evaluateRows, bind, StateT.bind, evaluated]
        rfl
      rcases Prod.mk.inj (reduced.symm.trans run) with ⟨result, rfl⟩
      rcases Prod.mk.inj result with ⟨checked, rfl⟩
      exact ⟨⟨_, state, objective, constraints, _, evaluated, rfl⟩, requireFinite_eq_ok.1 checked⟩
  | error failure =>
      have reduced : evaluateRows isFinite evaluate buffer state =
          ((.error failure, functionRows (buffer.get 0) constraints), state'') := by
        simp only [evaluateRows, bind, StateT.bind, evaluated]
        rfl
      cases reduced.symm.trans run

theorem run_sample {T : Type} (isFinite : T → Bool)
    (evaluate : Vector T ng → StateM σ (Evaluation T ng))
    (buffer : Scratch R σ nx ng groups → Vector T (ng + 1))
    (store : Scratch R σ nx ng groups → Vector T (ng + 1) → Scratch R σ nx ng groups)
    (before : Scratch R σ nx ng groups) :
    (sample isFinite evaluate buffer store).run before =
      let sampled := evaluateRows isFinite evaluate (buffer before) before.state
      (sampled.1.1, { store before sampled.1.2 with state := sampled.2 }) :=
  rfl

/-- A sample that succeeds stores finite rows of the problem and changes nothing else but its
state. -/
theorem sample_finite {T : Type} {isFinite : T → Bool}
    {evaluate : Vector T ng → StateM σ (Evaluation T ng)}
    {buffer : Scratch R σ nx ng groups → Vector T (ng + 1)}
    {store : Scratch R σ nx ng groups → Vector T (ng + 1) → Scratch R σ nx ng groups}
    {before after : Scratch R σ nx ng groups} {value : Unit}
    (run : (sample isFinite evaluate buffer store).run before = (.ok value, after)) :
    ∃ rows state, IsSample evaluate rows ∧ (∀ row, isFinite (rows.get row)) ∧
      after = { store before rows with state } := by
  rw [run_sample] at run
  rcases evaluated : evaluateRows isFinite evaluate (buffer before) before.state with
    ⟨⟨outcome, rows⟩, state⟩
  rw [evaluated] at run
  cases run
  obtain ⟨isSample, finite⟩ := evaluateRows_ok evaluated
  exact ⟨rows, state, isSample, finite, rfl⟩

end Sampling

end NonlinearProgram
