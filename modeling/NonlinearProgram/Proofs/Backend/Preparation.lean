import NonlinearProgram.Backend
import NonlinearProgram.Proofs.Differentiation.Build
import NonlinearProgram.Proofs.Differentiation.Requests
import NonlinearProgram.Proofs.Setup

/-!
# Preparing a minimization

Before any solver is involved, the bounds of a problem are checked, its pattern is resolved, and a
differentiator is built. Each of these steps has its own conditions; together they are
`MinimizeOptions.CanPrepare`.

Sizes are read off a pattern in two ways: a pattern says which sizes it belongs to, and it is
checked against sizes that are given. The objective row counts in a dense pattern only, and both
ways agree on that. So whatever source a pattern was resolved from, its differentiator has the sizes
of the problem.
-/

namespace NonlinearProgram

variable {R σ : Type}

/-! ## Shapes -/

namespace Pattern

/-- A pattern has a row for each function row of a problem if it is dense and for each constraint if
it is sparse, and a column for each variable. -/
@[mk_iff]
structure HasShape (pattern : Pattern) (dims : Dimensions) : Prop where
  rows : pattern.nrows = if pattern.isDense then dims.rows else dims.ng
  columns : pattern.ncols = dims.nx

variable {pattern : Pattern} {dims : Dimensions}

theorem checkShape_eq_ok : pattern.checkShape dims = .ok () ↔ pattern.HasShape dims := by
  rw [checkShape, then_eq_ok, checkExtent_eq_ok, checkExtent_eq_ok, hasShape_iff]

/-- A pattern belongs to the sizes whose shape it has. -/
theorem dimensions_eq_ok : pattern.dimensions = .ok dims ↔ pattern.HasShape dims := by
  rcases dims with ⟨nx, ng⟩
  rw [hasShape_iff]
  rcases pattern with ⟨ncols, _ | nrows⟩ | ⟨nrows, ncols, entries⟩
  · simp [dimensions, Pattern.nrows, isDense, Dimensions.rows]
  · simp [dimensions, Pattern.nrows, Pattern.ncols, isDense, Dimensions.rows, and_comm]
  · simp [dimensions, Pattern.nrows, Pattern.ncols, isDense, and_comm]

end Pattern

namespace Differentiator

variable {problem : Problem R σ} {pattern : Pattern} {method : Method} {dims : Dimensions}

/-- A differentiator has the sizes its pattern belongs to. -/
theorem dimensions_of_build {d : Differentiator R σ}
    (built : build problem pattern method = .ok d) : pattern.dimensions = .ok d.dims := by
  rcases cases_of_build built with ⟨nx, ng, rfl, rfl⟩ | ⟨nrows, ncols, entries, rfl, rfl⟩
  · rfl
  · rfl

/-- Apart from its pattern a differentiator needs the derivatives that its method relies on. -/
theorem exists_build_eq_ok (sized : pattern.dimensions = .ok dims) :
    (∃ d, build problem pattern method = .ok d) ↔
      (method = .supplied → problem.hasDerivatives) := by
  simp only [build_eq_ok, exists_and_left]
  refine and_iff_left ?_
  rcases pattern with ⟨nx, _ | ng⟩ | ⟨nrows, ncols, entries⟩
  · cases sized
  · exact ⟨_, rfl⟩
  · exact ⟨_, rfl⟩

end Differentiator

/-! ## Detection -/

variable [Arith R]

namespace Probes

variable {nx : Nat}

/-- Probes of one size as points. -/
def ofSize (probes : Probes R) (sizes : ∀ index : Fin 3, (probes.get index).size = nx) :
    List (Vector R nx) :=
  List.ofFn fun index => ⟨probes.get index, sizes index⟩

/-- No two probes agree in every coordinate. -/
def AreDistinct (probes : Probes R) : Prop :=
  probes.toList.Pairwise fun first second => (first == second) = false

omit [Arith R] in
theorem exists_eq (probes : Probes R) :
    ∃ first second third, probes = #v[first, second, third] := by
  refine ⟨probes.get 0, probes.get 1, probes.get 2, Vector.ext fun index inside => ?_⟩
  interval_cases index <;> rfl

omit [Arith R] in
theorem find?_size_eq_none {probes : Probes R} :
    probes.toList.find? (·.size ≠ nx) = none ↔ ∀ index : Fin 3, (probes.get index).size = nx := by
  obtain ⟨first, second, third, rfl⟩ := probes.exists_eq
  simp [Fin.forall_fin_succ]

theorem identical?_eq_none {probes : Probes R} : probes.identical? = none ↔ probes.AreDistinct := by
  obtain ⟨first, second, third, rfl⟩ := probes.exists_eq
  simp [identical?, AreDistinct, and_assoc]

omit [Arith R] in
theorem points_eq_ok {probes : Probes R}
    (sizes : ∀ index : Fin 3, (probes.get index).size = (probes.get 0).size) :
    probes.points = .ok (probes.ofSize sizes) := by
  obtain ⟨first, second, third, rfl⟩ := probes.exists_eq
  have secondSize : second.size = first.size := sizes 1
  have thirdSize : third.size = first.size := sizes 2
  simp [Probes.points, ofSize, secondSize, thirdSize, bind, Except.bind, pure, Except.pure]

/-- Probes of one size pass their check if they are distinct. -/
theorem check_eq_ok {probes : Probes R}
    (sizes : ∀ index : Fin 3, (probes.get index).size = (probes.get 0).size)
    {points : List (Vector R (probes.get 0).size)} :
    probes.check = .ok points ↔ probes.AreDistinct ∧ probes.ofSize sizes = points := by
  rw [check, points_eq_ok sizes, ← identical?_eq_none]
  cases probes.identical? with
  | none =>
      exact ⟨fun passed => ⟨rfl, Except.ok.inj passed⟩, fun ⟨_, same⟩ => congrArg Except.ok same⟩
  | some pair => exact ⟨nofun, nofun⟩

/-- What a detection from probes relies on: they are points of a problem, they are distinct, and
every difference it takes can be evaluated. -/
structure Support [Precision R] (probes : Probes R) (problem : Problem R σ) (dims : Dimensions)
    (scheme : Scheme) (state : σ) : Prop where
  sizes : ∀ index : Fin 3, (probes.get index).size = dims.nx
  distinct : probes.AreDistinct
  evaluates :
    problem.Evaluates dims.ng ((probes.ofSize sizes).flatMap scheme.jacobianRequests) state

end Probes

/-! ## Sources -/

variable [Precision R] {problem : Problem R σ} {dims : Dimensions} {scheme : Scheme} {state : σ}

namespace Pattern

variable {probes : Probes R} {ng : Nat}

/-- A detection succeeds if the probes pass their check and the magnitudes there can be added up. -/
theorem detect_eq_ok {pattern : Pattern} {state' : σ} :
    detect problem ng probes scheme state = (.ok pattern, state') ↔
      ∃ points magnitudes after, probes.check = .ok points ∧
        (Sampling.addMagnitudes problem scheme (.replicate _ (.replicate ng 0)) points).run
          (.fresh state) = (.ok magnitudes, after) ∧
        ofMatrix magnitudes = pattern ∧ after.state = state' := by
  rw [detect]
  cases probes.check with
  | error failure => simp
  | ok points =>
      rcases added : (Sampling.addMagnitudes problem scheme (.replicate _ (.replicate ng 0))
        points).run (.fresh state) with ⟨failure | magnitudes, after⟩
      · simp only [added]
        constructor
        · nofun
        · rintro ⟨_, _, _, ⟨⟩, formed, _⟩
          cases added.symm.trans formed
      · simp only [added]
        constructor
        · rintro ⟨⟩
          exact ⟨points, magnitudes, after, rfl, added, rfl, rfl⟩
        · rintro ⟨_, _, _, ⟨⟩, formed, rfl, rfl⟩
          cases added.symm.trans formed
          rfl

/-- A detected pattern has a row for each constraint and a column for each coordinate. -/
theorem dimensions_of_detect {pattern : Pattern} {state' : σ}
    (detected : detect problem ng probes scheme state = (.ok pattern, state')) :
    pattern.dimensions = .ok ⟨(probes.get 0).size, ng⟩ := by
  obtain ⟨_, magnitudes, _, _, _, rfl, _⟩ := detect_eq_ok.1 detected
  rfl

theorem exists_detect_eq_ok
    (sizes : ∀ index : Fin 3, (probes.get index).size = (probes.get 0).size) :
    (∃ pattern state', detect problem ng probes scheme state = (.ok pattern, state')) ↔
      probes.AreDistinct ∧
        problem.Evaluates ng ((probes.ofSize sizes).flatMap scheme.jacobianRequests) state := by
  simp only [detect_eq_ok, Probes.check_eq_ok sizes]
  constructor
  · rintro ⟨pattern, state', points, magnitudes, after, ⟨distinct, rfl⟩, added, _, _⟩
    exact ⟨distinct, Sampling.exists_addMagnitudes_eq_ok.1 ⟨magnitudes, after, added⟩⟩
  · rintro ⟨distinct, evaluates⟩
    obtain ⟨magnitudes, after, added⟩ := Sampling.exists_addMagnitudes_eq_ok.2 evaluates
    exact ⟨_, _, _, magnitudes, after, ⟨distinct, rfl⟩, added, rfl, rfl⟩

end Pattern

namespace PatternSource

/-- What a source needs to have a pattern for a problem: a given pattern has the shape of the
problem, a detected one has the support of its probes. -/
def Resolves (problem : Problem R σ) (dims : Dimensions) (state : σ) : PatternSource R → Prop
  | dense => True
  | given pattern => pattern.HasShape dims
  | detected probes scheme => probes.Support problem dims scheme state

theorem resolve_given_eq_ok {pattern pattern' : Pattern} {state' : σ} :
    (given pattern).resolve problem dims state = (.ok pattern', state') ↔
      pattern.HasShape dims ∧ pattern = pattern' ∧ state = state' := by
  rw [resolve, ← Pattern.checkShape_eq_ok]
  cases pattern.checkShape dims with
  | error failure => simp [Except.map]
  | ok passed => simp [Except.map]

/-- Probes that are points of a problem get as far as the detection. -/
theorem resolve_detected {probes : Probes R}
    (sizes : ∀ index : Fin 3, (probes.get index).size = dims.nx) :
    (detected probes scheme).resolve problem dims state =
      Pattern.detect problem dims.ng probes scheme state := by
  rw [resolve, Probes.find?_size_eq_none.2 sizes]

theorem sizes_of_resolve {probes : Probes R} {pattern : Pattern} {state' : σ}
    (resolved : (detected probes scheme).resolve problem dims state = (.ok pattern, state'))
    (index : Fin 3) : (probes.get index).size = dims.nx := by
  rw [resolve] at resolved
  split at resolved
  case h_1 => cases resolved
  case h_2 fit => exact Probes.find?_size_eq_none.1 fit index

theorem exists_resolve_detected {nx ng : Nat} {probes : Probes R}
    (sizes : ∀ index : Fin 3, (probes.get index).size = nx) :
    (∃ pattern state', (detected probes scheme).resolve problem ⟨nx, ng⟩ state =
      (.ok pattern, state')) ↔
      probes.AreDistinct ∧
        problem.Evaluates ng ((probes.ofSize sizes).flatMap scheme.jacobianRequests) state := by
  obtain rfl : (probes.get 0).size = nx := sizes 0
  rw [show (detected probes scheme).resolve problem ⟨(probes.get 0).size, ng⟩ state =
    Pattern.detect problem ng probes scheme state from resolve_detected sizes]
  exact Pattern.exists_detect_eq_ok sizes

/-- A source has a pattern for a problem exactly if it has what it needs. -/
theorem exists_resolve_eq_ok {source : PatternSource R} :
    (∃ pattern state', source.resolve problem dims state = (.ok pattern, state')) ↔
      source.Resolves problem dims state := by
  cases source with
  | dense => exact iff_of_true ⟨_, _, rfl⟩ trivial
  | given pattern =>
      simp only [resolve_given_eq_ok, Resolves]
      exact ⟨fun ⟨_, _, passed, _⟩ => passed, fun passed => ⟨pattern, state, passed, rfl, rfl⟩⟩
  | detected probes scheme =>
      constructor
      · rintro ⟨pattern, state', resolved⟩
        have sizes := sizes_of_resolve resolved
        have support := (exists_resolve_detected sizes).1 ⟨pattern, state', resolved⟩
        exact ⟨sizes, support.1, support.2⟩
      · rintro ⟨sizes, distinct, evaluates⟩
        exact (exists_resolve_detected sizes).2 ⟨distinct, evaluates⟩

/-- A pattern that is resolved has the sizes of the problem, whatever its source. -/
theorem dimensions_of_resolve {source : PatternSource R} {pattern : Pattern} {state' : σ}
    (resolved : source.resolve problem dims state = (.ok pattern, state')) :
    pattern.dimensions = .ok dims := by
  cases source with
  | dense =>
      cases resolved
      rfl
  | given pattern =>
      obtain ⟨passed, rfl, _⟩ := resolve_given_eq_ok.1 resolved
      exact Pattern.dimensions_eq_ok.2 passed
  | detected probes scheme =>
      have sizes := sizes_of_resolve resolved
      have detection := Pattern.dimensions_of_detect ((resolve_detected sizes).symm.trans resolved)
      rwa [show (probes.get 0).size = dims.nx from sizes 0] at detection

end PatternSource

/-! ## Preparation -/

namespace MinimizeOptions

variable {options : MinimizeOptions R} {bounds : Bounds R}

/-- The bounds pass their check, the source has a pattern, and the method has its derivatives. -/
structure CanPrepare (options : MinimizeOptions R) (problem : Problem R σ) (dims : Dimensions)
    (bounds : Bounds R) (state : σ) : Prop where
  bounds : bounds.validate dims = .ok ()
  source : options.source.Resolves problem dims state
  method : options.method = .supplied → problem.hasDerivatives

theorem prepare_eq_ok {d : Differentiator R σ} {state' : σ} :
    options.prepare problem dims bounds state = (.ok d, state') ↔
      bounds.validate dims = .ok () ∧ ∃ pattern,
        options.source.resolve problem dims state = (.ok pattern, state') ∧
          Differentiator.build problem pattern options.method = .ok d := by
  rw [prepare]
  cases bounds.validate dims with
  | error failure => simp
  | ok passed =>
      rcases options.source.resolve problem dims state with ⟨failure | pattern, after⟩
      · simp
      · simp [and_comm]

/-- What is prepared has the sizes of the problem. -/
theorem dims_of_prepare {d : Differentiator R σ} {state' : σ}
    (prepared : options.prepare problem dims bounds state = (.ok d, state')) : d.dims = dims := by
  obtain ⟨_, pattern, resolved, built⟩ := prepare_eq_ok.1 prepared
  have sized := (Differentiator.dimensions_of_build built).symm.trans
    (PatternSource.dimensions_of_resolve resolved)
  exact Except.ok.inj sized

theorem exists_prepare_eq_ok :
    (∃ d state', options.prepare problem dims bounds state = (.ok d, state')) ↔
      options.CanPrepare problem dims bounds state := by
  simp only [prepare_eq_ok]
  constructor
  · rintro ⟨d, state', bounds, pattern, resolved, built⟩
    have sized := PatternSource.dimensions_of_resolve resolved
    exact ⟨bounds, PatternSource.exists_resolve_eq_ok.1 ⟨pattern, state', resolved⟩,
      (Differentiator.exists_build_eq_ok sized).1 ⟨d, built⟩⟩
  · rintro ⟨bounds, source, method⟩
    obtain ⟨pattern, state', resolved⟩ := PatternSource.exists_resolve_eq_ok.2 source
    have sized := PatternSource.dimensions_of_resolve resolved
    obtain ⟨d, built⟩ := (Differentiator.exists_build_eq_ok sized).2 method
    exact ⟨d, state', bounds, pattern, resolved, built⟩

end MinimizeOptions

end NonlinearProgram
