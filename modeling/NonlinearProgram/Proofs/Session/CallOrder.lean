import Mathlib
import NonlinearProgram.Session
import NonlinearProgram.Solver.Recorder

/-!
# The order of calls to an engine

A session reaches its engine by calls alone, so a recorder in front of the engine sees all that the
session does to it. It changes nothing: outcome, engine and memory are those of the same solve
without it. What it has recorded afterwards follows `CallOrder`, whatever the engine answers and
whatever it does to the workspace it is lent.
-/

namespace NonlinearProgram

variable {R ε τ μ : Type}

namespace Recorder

/-- The recorder after some calls, which left the engine as given. -/
def extend (recorder : Recorder R ε) (engine : ε) (events : List (EngineEvent R)) : Recorder R ε :=
  { recorder with engine, events := recorder.events ++ events.toArray }

@[simp] theorem extend_engine (recorder : Recorder R ε) (engine : ε)
    (events : List (EngineEvent R)) : (recorder.extend engine events).engine = engine := rfl

@[simp] theorem extend_nil (recorder : Recorder R ε) :
    recorder.extend recorder.engine [] = recorder := by
  simp [extend]

@[simp] theorem extend_extend (recorder : Recorder R ε) (engine engine' : ε)
    (events events' : List (EngineEvent R)) :
    (recorder.extend engine events).extend engine' events' =
      recorder.extend engine' (events ++ events') := by
  simp [extend]

theorem note_eq_extend (recorder : Recorder R ε) (event : EngineEvent R) (engine : ε) :
    recorder.note event engine = recorder.extend engine [event] := by
  simp [note, extend]

variable [Engine R ε]

theorem openChannels_eq {recorder : Recorder R ε} {routing : OutputRouting}
    {outcome : Except SessionError Unit} {engine : ε}
    (plain : Engine.openChannels routing recorder.engine = (outcome, engine)) :
    Engine.openChannels routing recorder =
      (outcome, recorder.extend engine [.opened routing outcome.isOk]) := by
  rw [← note_eq_extend]
  change ((Engine.openChannels routing recorder.engine).1,
    recorder.note (.opened routing (Engine.openChannels routing recorder.engine).1.isOk)
      (Engine.openChannels routing recorder.engine).2) = _
  rw [plain]

theorem closeChannels_eq (recorder : Recorder R ε) :
    Engine.closeChannels recorder =
      recorder.extend (Engine.closeChannels recorder.engine) [.closed] := by
  rw [← note_eq_extend]
  rfl

theorem setOption_eq {recorder : Recorder R ε} {key : String} {value : OptionValue R}
    {workspace after : Workspace R} {errors : UInt64} {engine : ε}
    (plain : Engine.setOption key value workspace recorder.engine = (errors, after, engine)) :
    Engine.setOption key value workspace recorder =
      (errors, after, recorder.extend engine [.option key value errors]) := by
  rw [← note_eq_extend]
  change ((Engine.setOption key value workspace recorder.engine).1,
    (Engine.setOption key value workspace recorder.engine).2.1,
    recorder.note (.option key value (Engine.setOption key value workspace recorder.engine).1)
      (Engine.setOption key value workspace recorder.engine).2.2) = _
  rw [plain]

/-- A recorder that steers no negotiation passes the engine's own answer on. -/
theorem storage_eq {recorder : Recorder R ε} (passive : recorder.estimate? = none)
    {request : StorageRequest} {workspace after : Workspace R} {estimate : StorageEstimate}
    {engine : ε}
    (plain : Engine.storage request workspace recorder.engine = (estimate, after, engine)) :
    Engine.storage request workspace recorder =
      (estimate, after, recorder.extend engine [.storage request estimate]) := by
  rw [← note_eq_extend]
  change (recorder.estimate?.getD (Engine.storage request workspace recorder.engine).1,
    (Engine.storage request workspace recorder.engine).2.1,
    recorder.note (.storage request (Engine.storage request workspace recorder.engine).1)
      (Engine.storage request workspace recorder.engine).2.2) = _
  rw [passive, plain]
  rfl

theorem solve_eq (recorder : Recorder R ε) {n nf neg : Nat} (call : EngineCall R n nf neg)
    (callback : Callback R τ n nf neg) (state : τ) :
    Engine.solve call callback recorder state =
      ((Engine.solve call callback recorder.engine state).1,
        recorder.extend (Engine.solve call callback recorder.engine state).2.1
          [.solve call, .report (Engine.solve call callback recorder.engine state).1.1],
        (Engine.solve call callback recorder.engine state).2.2) := by
  rw [← List.singleton_append, ← extend_extend, ← note_eq_extend, ← note_eq_extend]
  rfl

end Recorder

/-- An engine that is lent a workspace does not resize it before the solve. -/
structure Engine.KeepsLengths (R ε : Type) [Engine R ε] : Prop where
  setOption : ∀ key value (workspace : Workspace R) (engine : ε),
    (Engine.setOption key value workspace engine).2.1.lengths = workspace.lengths
  storage : ∀ request (workspace : Workspace R) (engine : ε),
    (Engine.storage request workspace engine).2.1.lengths = workspace.lengths

variable [Engine R ε]

/-! ## Options -/

/-- An option was handed over; the engine counted some errors. -/
def IsSetting (option : String × OptionValue R) (event : EngineEvent R) : Prop :=
  ∃ errors, event = .option option.1 option.2 errors

/-- Options that are not withheld, in order. -/
def acceptedOptions (options : List (String × OptionValue R)) : List (String × OptionValue R) :=
  options.filter fun option => (optionFault? option.1 option.2).isNone

/-- Options that are accepted are handed over in order, whatever errors the engine counts. -/
theorem applyOptions_recorded (summary : AppliedOptions) (options : List (String × OptionValue R))
    (workspace : Workspace R) (recorder : Recorder R ε) :
    let plain := applyOptions summary options workspace recorder.engine
    ∃ events, List.Forall₂ IsSetting (acceptedOptions options) events ∧
      applyOptions summary options workspace recorder =
        (plain.1, plain.2.1, recorder.extend plain.2.2 events) := by
  induction options generalizing summary workspace recorder with
  | nil => exact ⟨[], .nil, by simp [applyOptions]⟩
  | cons option rest ih =>
      rcases option with ⟨key, value⟩
      rcases fault : optionFault? key value with _ | found
      · rcases setting : Engine.setOption key value workspace recorder.engine with
          ⟨errors, after, engine⟩
        have recorded := Recorder.setOption_eq setting
        obtain ⟨events, settings, same⟩ :=
          ih { summary with applied := summary.applied + 1, errors := summary.errors + errors }
            after (recorder.extend engine [.option key value errors])
        have kept : acceptedOptions ((key, value) :: rest) = (key, value) :: acceptedOptions rest :=
          List.filter_cons_of_pos (by simp [fault])
        refine ⟨.option key value errors :: events, ?_, ?_⟩
        · rw [kept]
          exact .cons ⟨errors, rfl⟩ settings
        · simpa [applyOptions, fault, setting, recorded] using same
      · obtain ⟨events, settings, same⟩ :=
          ih { summary with skipped := summary.skipped ++ [key] } workspace recorder
        have dropped : acceptedOptions ((key, value) :: rest) = acceptedOptions rest :=
          List.filter_cons_of_neg (by simp [fault])
        refine ⟨events, dropped ▸ settings, ?_⟩
        simpa [applyOptions, fault] using same

theorem Engine.KeepsLengths.applyOptions (keeps : Engine.KeepsLengths R ε)
    (summary : AppliedOptions) (options : List (String × OptionValue R)) (workspace : Workspace R)
    (engine : ε) :
    (NonlinearProgram.applyOptions summary options workspace engine).2.1.lengths =
      workspace.lengths := by
  induction options generalizing summary workspace engine with
  | nil => rfl
  | cons option rest ih =>
      rw [NonlinearProgram.applyOptions]
      split
      · exact ih _ _ _
      · exact (ih _ _ _).trans (keeps.setOption _ _ _ _)

/-! ## Negotiated lengths -/

/-- Length of a region once an estimate is in: what there was, raised to a usable estimate. -/
def negotiatedLength (lengths : Lengths) (estimate : StorageEstimate) (region : Region) : Nat :=
  if estimate.isUsable then max (lengths.of region) (estimate.minimums.of region)
  else lengths.of region

omit [Engine R ε] in
/-- Growing raises a region to its minimum, the characters if their bytes can be counted. -/
theorem Workspace.length_grow (workspace : Workspace R) {estimate : StorageEstimate}
    {region : Region}
    (fits : region = .character → FitsWord (estimate.minimums.character * unitBytes)) :
    (workspace.grow estimate).lengths.of region =
      max (workspace.lengths.of region) (estimate.minimums.of region) := by
  cases region with
  | character =>
      simp only [grow, lengths, Lengths.of, Cells.size_raise, (fits rfl).wrap]
      split
      all_goals
        simp only [unitBytes] at *
        omega
  | integer | real =>
      simp only [grow, lengths, Lengths.of, Cells.size_raise]
      split <;> omega

/-- Lengths that come of a negotiation: those before it, raised to a usable estimate, provided that
the engine does not resize the workspace itself and that the characters can be counted in bytes. -/
def IsNegotiated (R ε : Type) [Engine R ε] (before : Lengths) (estimate : StorageEstimate)
    (lengths : Region → Nat) : Prop :=
  Engine.KeepsLengths R ε → FitsWord (estimate.minimums.character * Workspace.unitBytes) →
    lengths = negotiatedLength before estimate

/-- One storage request is made, and the answer decides the lengths. -/
theorem negotiate_recorded [Arith R] (recorder : Recorder R ε)
    (passive : recorder.estimate? = none) (request : StorageRequest) (workspace : Workspace R) :
    let plain := negotiate request workspace recorder.engine
    ∃ estimate, IsNegotiated R ε workspace.lengths estimate plain.1.lengths.of ∧
      negotiate request workspace recorder =
        (plain.1, recorder.extend plain.2 [.storage request estimate]) := by
  intro plain
  rcases answer : Engine.storage request workspace recorder.engine with ⟨estimate, after, engine⟩
  have recorded := Recorder.storage_eq passive answer
  refine ⟨estimate, fun keeps fits => ?_, ?_⟩
  · have kept : after.lengths = workspace.lengths := by
      have kept := keeps.storage request workspace recorder.engine
      rwa [answer] at kept
    funext region
    simp only [plain, negotiate, answer, negotiatedLength]
    by_cases usable : estimate.isUsable
    · simp only [usable, if_true, after.length_grow fun _ => fits, kept]
    · simp only [usable, Bool.false_eq_true, if_false, kept]
  · simp only [plain, negotiate, answer, recorded]

/-! ## Announcements -/

/-- The option that tells an engine the length of a region. -/
def announcement (length : Region → Nat) (region : Region) : String × OptionValue R :=
  (region.lengthOption, .integer (length region))

/-- Lengths are announced region by region, up to the first that is too large for the integers of a
solver. -/
inductive Announces (length : Region → Nat) :
    List Region → Except SessionError Unit → List (EngineEvent R) → Prop where
  | all {regions : List Region} {events : List (EngineEvent R)} :
      (∀ region ∈ regions, length region ≤ maxSolverInteger) →
      List.Forall₂ IsSetting (regions.map (announcement length)) events →
      Announces length regions (.ok ()) events
  | tooLong {fitting rest : List Region} {region : Region} {events : List (EngineEvent R)} :
      (∀ region ∈ fitting, length region ≤ maxSolverInteger) →
      List.Forall₂ IsSetting (fitting.map (announcement length)) events →
      maxSolverInteger < length region →
      Announces length (fitting ++ region :: rest)
        (.error (.overflow .workspaceLength (length region))) events

/-- One more announcement in front. -/
theorem Announces.cons {length : Region → Nat} {region : Region} {regions : List Region}
    {outcome : Except SessionError Unit} {event : EngineEvent R} {events : List (EngineEvent R)}
    (fits : length region ≤ maxSolverInteger)
    (setting : IsSetting (announcement length region) event)
    (announces : Announces length regions outcome events) :
    Announces length (region :: regions) outcome (event :: events) := by
  cases announces with
  | all fit settings =>
      exact .all (List.forall_mem_cons.2 ⟨fits, fit⟩) (.cons setting settings)
  | tooLong fit settings tooLong =>
      exact .tooLong (List.forall_mem_cons.2 ⟨fits, fit⟩) (.cons setting settings) tooLong

/-- What is announced depends on the lengths of the regions alone. -/
theorem Announces.congr {length length' : Region → Nat} {regions : List Region}
    {outcome : Except SessionError Unit} {events : List (EngineEvent R)}
    (announces : Announces length regions outcome events)
    (same : ∀ region ∈ regions, length' region = length region) :
    Announces length' regions outcome events := by
  have announced : ∀ {told : List Region}, (∀ region ∈ told, length' region = length region) →
      told.map (announcement (R := R) length') = told.map (announcement length) := by
    intro told same
    exact List.map_congr_left fun region member => by rw [announcement, same region member]; rfl
  cases announces with
  | all fit settings =>
      refine .all (fun region member => (same region member).trans_le (fit region member)) ?_
      rwa [announced same]
  | @tooLong fitting rest region _ fit settings tooLong =>
      have inFront : ∀ region ∈ fitting, length' region = length region :=
        fun other member => same other (List.mem_append_left _ member)
      have here : length' region = length region := same region (by simp)
      rw [← here]
      refine .tooLong (fun other member => (inFront other member).trans_le (fit other member)) ?_
        (here ▸ tooLong)
      rwa [announced inFront]

/-- Different regions are announced with the lengths that the workspace has when they are read,
which are those at the beginning unless the engine resizes it. -/
theorem announceLengths_recorded (regions : List Region) (distinct : regions.Nodup)
    (workspace : Workspace R) (recorder : Recorder R ε) :
    let plain := announceLengths regions workspace recorder.engine
    ∃ lengths events, Announces lengths regions plain.1 events ∧
      (Engine.KeepsLengths R ε →
        (∀ region ∈ regions, lengths region = workspace.lengths.of region) ∧
          plain.2.1.lengths = workspace.lengths) ∧
      announceLengths regions workspace recorder =
        (plain.1, plain.2.1, recorder.extend plain.2.2 events) := by
  induction regions generalizing workspace recorder with
  | nil =>
      exact ⟨workspace.lengths.of, [], .all nofun .nil, fun _ => ⟨nofun, rfl⟩,
        by simp [announceLengths]⟩
  | cons region rest ih =>
      obtain ⟨notLater, distinct⟩ := List.nodup_cons.1 distinct
      by_cases fits : workspace.lengths.of region ≤ maxSolverInteger
      · have checked : checkCount .workspaceLength (workspace.lengths.of region) = .ok () :=
          if_pos fits
        rcases setting : Engine.setOption region.lengthOption
          (.integer (workspace.lengths.of region)) workspace recorder.engine with
          ⟨errors, after, engine⟩
        have recorded := Recorder.setOption_eq setting
        obtain ⟨lengths, events, announces, kept, same⟩ := ih distinct after
          (recorder.extend engine
            [.option region.lengthOption (.integer (workspace.lengths.of region)) errors])
        have later : ∀ other ∈ rest,
            Function.update lengths region (workspace.lengths.of region) other = lengths other := by
          intro other member
          have different : other ≠ region := by
            rintro rfl
            exact notLater member
          exact Function.update_of_ne different _ _
        have here : Function.update lengths region (workspace.lengths.of region) region =
            workspace.lengths.of region := Function.update_self ..
        refine ⟨Function.update lengths region (workspace.lengths.of region),
          .option region.lengthOption (.integer (workspace.lengths.of region)) errors :: events,
          ?_, fun keeps => ?_, ?_⟩
        · simp only [announceLengths, checked, setting]
          exact (announces.congr later).cons (here.trans_le fits)
            ⟨errors, by rw [announcement, here]⟩
        · have keptHere : after.lengths = workspace.lengths := by
            have keptHere := keeps.setOption region.lengthOption
              (.integer (workspace.lengths.of region)) workspace recorder.engine
            rwa [setting] at keptHere
          obtain ⟨keptLater, keptAll⟩ := kept keeps
          refine ⟨List.forall_mem_cons.2 ⟨here, fun other member => ?_⟩, ?_⟩
          · rw [later other member, keptLater other member, keptHere]
          · simp only [announceLengths, checked, setting]
            exact keptAll.trans keptHere
        · simpa [announceLengths, checked, setting, recorded] using same
      · have refused : checkCount .workspaceLength (workspace.lengths.of region) =
            .error (.overflow .workspaceLength (workspace.lengths.of region)) := if_neg fits
        refine ⟨workspace.lengths.of, [], ?_, fun _ => ⟨fun _ _ => rfl, ?_⟩, ?_⟩
        · simp only [announceLengths, refused]
          exact (.tooLong (fun _ member => nomatch member) .nil (Nat.lt_of_not_le fits) :
            Announces _ ([] ++ region :: rest) _ [])
        · simp only [announceLengths, refused]
        · simp [announceLengths, refused]

/-! ## Solves -/

variable [Arith R] {supplier : Supplier R τ μ}

/-- Lengths with which negotiation about a problem starts. -/
def initialLengths (R : Type) [Arith R] (dims : Dimensions) (baseLength : Nat) : Lengths :=
  (Workspace.initial dims baseLength : Workspace R).lengths

/-- Calls made while the channels are open, with the outcome they lead to. Options come first, then
one storage request, then the lengths that are negotiated. One solve follows unless a length is too
large. -/
inductive RunOrder (ε : Type) [Engine R ε] (job : Job R) (supplier : Supplier R τ μ)
    (settings : SessionSettings) (options : OptionTable R) :
    Except SessionError (SessionResult R) → List (EngineEvent R) → Prop where
  | overflowing {failure : SessionError} {estimate : StorageEstimate} {lengths : Region → Nat}
      {set announced : List (EngineEvent R)} :
      List.Forall₂ IsSetting (acceptedOptions options.entries) set →
      IsNegotiated R ε (initialLengths R supplier.dims settings.baseLength) estimate lengths →
      Announces lengths Region.all (.error failure) announced →
      RunOrder ε job supplier settings options (.error failure)
        (set ++ .storage ⟨supplier.dims.rows, supplier.dims.nx, 1, 1, 0,
          supplier.pattern.solverSize⟩ estimate :: announced)
  | solved {result : SessionResult R} {estimate : StorageEstimate} {lengths : Region → Nat}
      {set announced : List (EngineEvent R)} (workspace : Workspace R) :
      List.Forall₂ IsSetting (acceptedOptions options.entries) set →
      IsNegotiated R ε (initialLengths R supplier.dims settings.baseLength) estimate lengths →
      Announces lengths Region.all (.ok ()) announced →
      (Engine.KeepsLengths R ε → workspace.lengths.of = lengths) →
      RunOrder ε job supplier settings options (.ok result)
        (set ++ .storage ⟨supplier.dims.rows, supplier.dims.nx, 1, 1, 0,
          supplier.pattern.solverSize⟩ estimate :: announced ++
            [.solve (supplier.call job settings.problemName workspace), .report result.report])

variable (supplier) in
theorem Supplier.run_recorded (job : Job R) (settings : SessionSettings) (options : OptionTable R)
    (recorder : Recorder R ε) (passive : recorder.estimate? = none) (memory : μ) :
    let plain := supplier.run job settings options recorder.engine memory
    ∃ events, RunOrder ε job supplier settings options plain.1 events ∧
      supplier.run job settings options recorder memory =
        (plain.1, recorder.extend plain.2.1 events, plain.2.2) := by
  obtain ⟨set, isSet, applied⟩ := applyOptions_recorded {} options.entries
    (Workspace.initial supplier.dims settings.baseLength) recorder
  have keptSet (keeps : Engine.KeepsLengths R ε) := keeps.applyOptions {} options.entries
    (Workspace.initial supplier.dims settings.baseLength) recorder.engine
  simp only [Supplier.run, OptionTable.apply, applied]
  generalize applyOptions {} options.entries _ recorder.engine = afterOptions at keptSet ⊢
  obtain ⟨estimate, negotiates, negotiated⟩ := negotiate_recorded
    (recorder.extend afterOptions.2.2 set) passive supplier.storageRequest afterOptions.2.1
  simp only [negotiated, Recorder.extend_engine] at negotiates ⊢
  generalize negotiate _ afterOptions.2.1 afterOptions.2.2 = afterNegotiation at negotiates ⊢
  obtain ⟨lengths, announced, announces, kept, told⟩ := announceLengths_recorded
    Region.all (by decide) afterNegotiation.1
    ((recorder.extend afterOptions.2.2 set).extend afterNegotiation.2
      [.storage supplier.storageRequest estimate])
  simp only [told, Recorder.extend_engine] at announces kept ⊢
  generalize announceLengths _ afterNegotiation.1 afterNegotiation.2 = afterAnnouncement
    at announces kept ⊢
  have lengths_eq (keeps : Engine.KeepsLengths R ε) : lengths = afterNegotiation.1.lengths.of :=
    funext fun region => (kept keeps).1 region region.mem_all
  have isNegotiated : IsNegotiated R ε (initialLengths R supplier.dims settings.baseLength)
      estimate lengths := by
    intro keeps fits
    rw [lengths_eq keeps, negotiates keeps fits, keptSet keeps, initialLengths]
  rcases afterAnnouncement with ⟨failure | _, workspace, engine⟩
  · refine ⟨_, .overflowing isSet isNegotiated announces, ?_⟩
    simp [Supplier.storageRequest]
  · refine ⟨_, .solved workspace isSet isNegotiated announces (fun keeps => ?_), ?_⟩
    · rw [lengths_eq keeps, (kept keeps).2]
    · simp [Recorder.solve_eq, Supplier.storageRequest]

/-- Calls made by a solve, with the outcome they lead to. None is made for data that is refused, and
none but the failing one if the channels cannot be opened. Otherwise closing the channels is the
last call. -/
inductive CallOrder (session : Session R ε) (supplier : Supplier R τ μ) (job : Job R) :
    Except SessionError (SessionResult R) → List (EngineEvent R) → Prop where
  | refused {failure : SessionError} :
      supplier.check job = .error failure → CallOrder session supplier job (.error failure) []
  | unopened {failure : SessionError} :
      supplier.check job = .ok () →
      (Engine.openChannels session.settings.routing session.engine).1 = .error failure →
      CallOrder session supplier job (.error failure) [.opened session.settings.routing false]
  | opened {outcome : Except SessionError (SessionResult R)} {events : List (EngineEvent R)} :
      supplier.check job = .ok () →
      (Engine.openChannels session.settings.routing session.engine).1 = .ok () →
      RunOrder ε job supplier session.settings session.options outcome events →
      CallOrder session supplier job outcome
        (.opened session.settings.routing true :: events ++ [.closed])

namespace Session

/-- The session with a recorder in front of its engine. -/
def recorded (session : Session R ε) : Session R (Recorder R ε) :=
  { session with engine := { engine := session.engine } }

theorem solveFrom_recorded (session : Session R ε) (job : Job R) (memory : μ) :
    let plain := session.solveFrom supplier job memory
    ∃ events, CallOrder session supplier job plain.1 events ∧
      session.recorded.solveFrom supplier job memory =
        (plain.1,
          { session.recorded with
            engine := session.recorded.engine.extend plain.2.1.engine events },
          plain.2.2) := by
  rcases checked : supplier.check job with failure | _
  · refine ⟨[], ?_, ?_⟩
    · simp only [solveFrom, checked]
      exact .refused checked
    · simp [solveFrom, checked, recorded, Recorder.extend]
  rcases opening : Engine.openChannels session.settings.routing session.engine with
    ⟨failure | _, engine⟩
  · have opened : Engine.openChannels session.recorded.settings.routing session.recorded.engine =
        (.error failure,
          session.recorded.engine.extend engine [.opened session.settings.routing false]) :=
      Recorder.openChannels_eq opening
    refine ⟨[.opened session.settings.routing false], ?_, ?_⟩
    · simp only [solveFrom, checked, opening]
      exact .unopened checked (congrArg Prod.fst opening)
    · simp only [solveFrom, checked, opening, opened]
  · have opened : Engine.openChannels session.recorded.settings.routing session.recorded.engine =
        (.ok (),
          session.recorded.engine.extend engine [.opened session.settings.routing true]) :=
      Recorder.openChannels_eq opening
    obtain ⟨events, order, run⟩ := supplier.run_recorded job
      session.recorded.settings session.recorded.options
      (session.recorded.engine.extend engine [.opened session.settings.routing true]) rfl memory
    refine ⟨.opened session.settings.routing true :: events ++ [.closed], ?_, ?_⟩
    · simp only [solveFrom, checked, opening]
      exact .opened checked (congrArg Prod.fst opening) order
    · simp only [solveFrom, checked, opening, opened, run, Recorder.closeChannels_eq,
        Recorder.extend_extend]
      rfl

/-- A recorder changes nothing about a solve, and the calls it has recorded follow the order. -/
theorem solveFrom_callOrder (session : Session R ε) (supplier : Supplier R τ μ) (job : Job R)
    (memory : μ) :
    let plain := session.solveFrom supplier job memory
    let recorded := session.recorded.solveFrom supplier job memory
    recorded.1 = plain.1 ∧ recorded.2.1.engine.engine = plain.2.1.engine ∧
      recorded.2.2 = plain.2.2 ∧
      CallOrder session supplier job plain.1 recorded.2.1.engine.events.toList := by
  intro plain recorded
  obtain ⟨events, order, same⟩ := session.solveFrom_recorded job memory
  have isRecorded : recorded = _ := same
  rw [isRecorded]
  exact ⟨rfl, rfl, rfl, by simpa [Recorder.extend, Session.recorded] using order⟩

end Session

end NonlinearProgram
