import NonlinearProgram.Proofs.Differentiation.Sampling
import NonlinearProgram.Proofs.Problem.Effects

/-!
# What a computation settles in the buffers

Two runs of one computation are compared from buffers that agree on some of their parts. A
computation that `Settles` parts reads none that has not been written before, apart from those it
needs: it ends in the same way, does not undo any agreement, and after a success the parts that it
settles agree whatever they held. A sequence settles what its steps settle, and a loop what its
passes settle.

Samples of a problem that is determined by its arguments settle the rows they store. A sample that
fails may have written some of the rows only, so that nothing is settled then; but what has been
written is the same, and buffers that agreed before agree afterwards.
-/

namespace NonlinearProgram

variable {R σ T : Type} {nx ng groups : Nat}

namespace Scratch

/-- Parts of the buffers that are written one by one. -/
inductive Part (nx groups : Nat) where
  | rows
  | plus
  | minus
  | complexRows
  | dualRows
  | raw
  | divisor (column : Fin nx)
  | gradient
  | sweep (group : Fin groups)
  deriving DecidableEq

/-- Two buffers hold the same in a part. -/
def Same (left right : Scratch R σ nx ng groups) : Part nx groups → Prop
  | .rows => left.rows = right.rows
  | .plus => left.plus = right.plus
  | .minus => left.minus = right.minus
  | .complexRows => left.complexRows = right.complexRows
  | .dualRows => left.dualRows = right.dualRows
  | .raw => left.raw = right.raw
  | .divisor column => left.divisors.get column = right.divisors.get column
  | .gradient => left.gradient = right.gradient
  | .sweep group => left.jacobian.get group = right.jacobian.get group

theorem Same.symm {left right : Scratch R σ nx ng groups} {part : Part nx groups}
    (same : left.Same right part) : right.Same left part := by
  cases part <;> exact Eq.symm same

theorem Same.trans {left middle right : Scratch R σ nx ng groups} {part : Part nx groups}
    (same : left.Same middle part) (same' : middle.Same right part) : left.Same right part := by
  cases part <;> exact Eq.trans same same'

/-- Two buffers hold the same in some parts. The states of the problem may differ. -/
def AgreeOn (parts : Set (Part nx groups)) (left right : Scratch R σ nx ng groups) : Prop :=
  ∀ part ∈ parts, left.Same right part

namespace AgreeOn

variable {parts parts' : Set (Part nx groups)} {left right : Scratch R σ nx ng groups}

theorem mono (agree : AgreeOn parts left right) (fewer : parts' ⊆ parts) :
    AgreeOn parts' left right :=
  fun part member => agree part (fewer member)

theorem union (agree : AgreeOn parts left right) (agree' : AgreeOn parts' left right) :
    AgreeOn (parts ∪ parts') left right := by
  rintro part (member | member)
  · exact agree part member
  · exact agree' part member

theorem divisors_eq (agree : AgreeOn parts left right)
    (all : ∀ column, .divisor column ∈ parts) : left.divisors = right.divisors :=
  ext_get fun column => agree _ (all column)

theorem jacobian_eq (agree : AgreeOn parts left right) (all : ∀ group, .sweep group ∈ parts) :
    left.jacobian = right.jacobian :=
  ext_get fun group => agree _ (all group)

end AgreeOn

end Scratch

open Scratch

namespace Sampling

variable {α β ι : Type}

/-- From buffers that agree on what is needed a computation ends in the same way. They still agree
where they did, and after a success also on what is settled. -/
def Settles (needed settled : Set (Part nx groups)) (computation : Sampling R σ nx ng groups α) :
    Prop :=
  ∀ known, needed ⊆ known → ∀ left right, AgreeOn known left right →
    (computation.run left).1 = (computation.run right).1 ∧
      AgreeOn known (computation.run left).2 (computation.run right).2 ∧
      ((computation.run left).1.isOk →
        AgreeOn settled (computation.run left).2 (computation.run right).2)

namespace Settles

variable {needed needed' settled settled' : Set (Part nx groups)}

theorem mono {computation : Sampling R σ nx ng groups α}
    (settles : Settles needed settled computation)
    (more : needed ⊆ needed') (fewer : settled' ⊆ settled) :
    Settles needed' settled' computation := by
  intro known includes left right agree
  obtain ⟨same, kept, gained⟩ := settles known (more.trans includes) left right agree
  exact ⟨same, kept, fun isOk => (gained isOk).mono fewer⟩

/-! ## Sequences -/

theorem pure (value : α) : Settles needed ∅ (pure value : Sampling R σ nx ng groups α) :=
  fun _ _ _ _ agree => ⟨rfl, agree, fun _ => nofun⟩

/-- Both runs fail alike and keep what agreed, or both succeed with one value and agree on what is
settled as well. -/
theorem ends {computation : Sampling R σ nx ng groups α}
    (settles : Settles needed settled computation) {known : Set (Part nx groups)}
    (includes : needed ⊆ known) {left right : Scratch R σ nx ng groups}
    (agree : AgreeOn known left right) :
    (∃ failure left' right', computation.run left = (.error failure, left') ∧
        computation.run right = (.error failure, right') ∧ AgreeOn known left' right') ∨
      ∃ value left' right', computation.run left = (.ok value, left') ∧
        computation.run right = (.ok value, right') ∧ AgreeOn (known ∪ settled) left' right' := by
  obtain ⟨same, kept, gained⟩ := settles known includes left right agree
  rcases ranLeft : computation.run left with ⟨outcome, left'⟩
  rcases ranRight : computation.run right with ⟨outcome', right'⟩
  rw [ranLeft, ranRight] at same kept gained
  obtain rfl : outcome = outcome' := same
  cases outcome with
  | error failure => exact .inl ⟨failure, left', right', rfl, rfl, kept⟩
  | ok value => exact .inr ⟨value, left', right', rfl, rfl, kept.union (gained rfl)⟩

/-- What the first computation settles need not be there for the second. -/
theorem bind {first : Sampling R σ nx ng groups α} {next : α → Sampling R σ nx ng groups β}
    (before : Settles needed settled first)
    (after : ∀ value, Settles (needed ∪ settled) settled' (next value)) :
    Settles needed (settled ∪ settled') (first >>= next) := by
  intro known includes left right agree
  rw [run_bind, run_bind]
  obtain ⟨failure, left', right', ranLeft, ranRight, kept⟩ |
    ⟨value, left', right', ranLeft, ranRight, kept⟩ := before.ends includes agree
  · rw [ranLeft, ranRight]
    exact ⟨rfl, kept, nofun⟩
  · rw [ranLeft, ranRight]
    have more : needed ∪ settled ⊆ known ∪ settled := Set.union_subset_union_left settled includes
    obtain ⟨same, kept', gained⟩ := after value _ more left' right' kept
    refine ⟨same, kept'.mono Set.subset_union_left, fun isOk => ?_⟩
    exact (kept'.mono Set.subset_union_right).union (gained isOk)

/-- The buffers may be read where what follows sees of them only what is needed. -/
theorem get_bind {next : Scratch R σ nx ng groups → Sampling R σ nx ng groups α}
    (same : ∀ {left right}, AgreeOn needed left right → next left = next right)
    (settles : ∀ scratch, Settles needed settled (next scratch)) :
    Settles needed settled (get >>= next) := by
  intro known includes left right agree
  have after := settles left known includes left right agree
  rw [run_bind, run_bind]
  change ((next left).run left).1 = ((next right).run right).1 ∧
    AgreeOn known ((next left).run left).2 ((next right).run right).2 ∧
    (((next left).run left).1.isOk →
      AgreeOn settled ((next left).run left).2 ((next right).run right).2)
  rw [← same (agree.mono includes)]
  exact after

/-- A change settles what it writes if this is made of what is needed. -/
theorem modify {change : Scratch R σ nx ng groups → Scratch R σ nx ng groups}
    (written : ∀ {left right}, AgreeOn needed left right →
      AgreeOn settled (change left) (change right))
    (others : ∀ scratch, ∀ part ∉ settled, (change scratch).Same scratch part) :
    Settles needed settled (modify change : Sampling R σ nx ng groups PUnit) := by
  intro known includes left right agree
  have now := written (agree.mono includes)
  refine ⟨rfl, fun part member => ?_, fun _ => now⟩
  by_cases isWritten : part ∈ settled
  · exact now part isWritten
  · have same := agree part member
    exact ((others left part isWritten).trans same).trans (others right part isWritten).symm

/-- A loop settles what its passes settle. -/
theorem forM {items : List ι} {body : ι → Sampling R σ nx ng groups PUnit}
    {parts : ι → Set (Part nx groups)}
    (pass : ∀ item ∈ items, Settles needed (parts item) (body item)) :
    Settles needed {part | ∃ item ∈ items, part ∈ parts item} (items.forM body) := by
  induction items with
  | nil =>
      refine (Settles.pure PUnit.unit).mono subset_rfl ?_
      rintro part ⟨item, member, _⟩
      cases member
  | cons item rest ih =>
      rw [List.forM_eq_forM, List.forM_cons]
      have first := pass item (.head _)
      have later := ih fun other member => pass other (.tail _ member)
      refine (first.bind fun _ => later.mono Set.subset_union_left subset_rfl).mono subset_rfl ?_
      rintro part ⟨other, member, settles⟩
      rcases List.mem_cons.1 member with rfl | member
      · exact .inl settles
      · exact .inr ⟨other, member, settles⟩

end Settles

/-! ## Samples -/

/-- What a sample gives and leaves, by the effect of the evaluation. -/
theorem evaluateRows_of_effect {isFinite : T → Bool}
    {evaluate : Vector T ng → StateM σ (Evaluation T ng)} {effect : Effect T ng}
    (has : HasEffect evaluate effect) (rows : Vector T (ng + 1)) (state : σ) :
    (evaluateRows isFinite evaluate rows state).1 =
      match effect.outcome with
      | .ok objective =>
          let sampled := functionRows objective (overwrite effect.writes rows.tail)
          (requireFinite isFinite .function sampled, sampled)
      | .error failure =>
          (.error failure,
            functionRows (rows.get objectiveRow) (overwrite effect.writes rows.tail)) := by
  have evaluated := has rows.tail state
  rcases ran : evaluate rows.tail state with ⟨evaluation, after⟩
  rw [ran] at evaluated
  subst evaluated
  simp only [evaluateRows, Bind.bind, StateT.bind, ran]
  cases effect.outcome <;> rfl

/-- A sample has the same outcome from any rows and state. The rows that it leaves are the same if
it succeeds, or if they were the same before. -/
theorem evaluateRows_agree {isFinite : T → Bool}
    {evaluate : Vector T ng → StateM σ (Evaluation T ng)} {effect : Effect T ng}
    (has : HasEffect evaluate effect) (rows rows' : Vector T (ng + 1)) (state state' : σ) :
    let sampled := (evaluateRows isFinite evaluate rows state).1
    let sampled' := (evaluateRows isFinite evaluate rows' state').1
    sampled.1 = sampled'.1 ∧ (sampled.1.isOk ∨ rows = rows' → sampled.2 = sampled'.2) := by
  rw [evaluateRows_of_effect has, evaluateRows_of_effect has]
  cases outcome : effect.outcome with
  | ok objective =>
      have complete := effect.complete (outcome ▸ rfl)
      rw [overwrite_eq_of_complete complete rows.tail rows'.tail]
      exact ⟨rfl, fun _ => rfl⟩
  | error failure =>
      refine ⟨rfl, ?_⟩
      rintro (isOk | rfl)
      · cases isOk
      · rfl

/-- A sample of an evaluation with an effect settles the rows that it stores. -/
theorem settles_sample {isFinite : T → Bool}
    {evaluate : Vector T ng → StateM σ (Evaluation T ng)}
    (determined : ∃ effect, HasEffect evaluate effect)
    {buffer : Scratch R σ nx ng groups → Vector T (ng + 1)}
    {store : Scratch R σ nx ng groups → Vector T (ng + 1) → Scratch R σ nx ng groups}
    {needed : Set (Part nx groups)} {part : Part nx groups}
    (isPart : ∀ {left right}, left.Same right part ↔ buffer left = buffer right)
    (stored : ∀ {scratch rows state}, buffer { store scratch rows with state } = rows)
    (others : ∀ (scratch : Scratch R σ nx ng groups) (rows : Vector T (ng + 1)) (state : σ),
      ∀ other ≠ part, Same { store scratch rows with state } scratch other) :
    Settles needed {part} (sample isFinite evaluate buffer store) := by
  obtain ⟨effect, has⟩ := determined
  intro known _ left right agree
  obtain ⟨outcome, rows⟩ :=
    evaluateRows_agree has (buffer left) (buffer right) left.state right.state
  refine ⟨outcome, fun other member => ?_, fun isOk => ?_⟩
  · by_cases isStored : other = part
    · subst isStored
      apply isPart.2
      exact (stored.trans (rows (.inr (isPart.1 (agree _ member))))).trans stored.symm
    · have same := agree other member
      exact ((others left _ _ other isStored).trans same).trans
        (others right _ _ other isStored).symm
  · rintro _ rfl
    apply isPart.2
    exact (stored.trans (rows (.inl isOk))).trans stored.symm

section Problems

variable [Arith R] {problem : Problem R σ} {nj : Nat} {needed : Set (Part nx groups)}

theorem settles_sampleRows (determined : problem.IsDetermined nx ng nj) (x : Vector R nx) :
    Settles needed {.rows} (sampleRows problem x : Sampling R σ nx ng groups Unit) := by
  apply settles_sample (determined.real x) Iff.rfl rfl
  intro scratch rows state other different
  cases other
  case rows => exact absurd rfl different
  all_goals exact rfl

theorem settles_samplePlus (determined : problem.IsDetermined nx ng nj) (x : Vector R nx) :
    Settles needed {.plus} (samplePlus problem x : Sampling R σ nx ng groups Unit) := by
  apply settles_sample (determined.real x) Iff.rfl rfl
  intro scratch rows state other different
  cases other
  case plus => exact absurd rfl different
  all_goals exact rfl

theorem settles_sampleMinus (determined : problem.IsDetermined nx ng nj) (x : Vector R nx) :
    Settles needed {.minus} (sampleMinus problem x : Sampling R σ nx ng groups Unit) := by
  apply settles_sample (determined.real x) Iff.rfl rfl
  intro scratch rows state other different
  cases other
  case minus => exact absurd rfl different
  all_goals exact rfl

theorem settles_sampleComplex (determined : problem.IsDetermined nx ng nj)
    (x : Vector (Complex R) nx) :
    Settles needed {.complexRows} (sampleComplex problem x : Sampling R σ nx ng groups Unit) := by
  apply settles_sample (determined.complex x) Iff.rfl rfl
  intro scratch rows state other different
  cases other
  case complexRows => exact absurd rfl different
  all_goals exact rfl

theorem settles_sampleDual (determined : problem.IsDetermined nx ng nj) (x : Vector (Dual R) nx) :
    Settles needed {.dualRows} (sampleDual problem x : Sampling R σ nx ng groups Unit) := by
  apply settles_sample (determined.dual x) Iff.rfl rfl
  intro scratch rows state other different
  cases other
  case dualRows => exact absurd rfl different
  all_goals exact rfl

end Problems

end Sampling

end NonlinearProgram
