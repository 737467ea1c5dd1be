import NonlinearProgram.Differentiation.Differentiator

/-!
# Building differentiators

A pattern with an objective row has one differentiator for each method, except that supplied
derivatives have to be there. Nothing else is built.
-/

namespace NonlinearProgram

variable {R σ : Type} {nx ng : Nat}

namespace Differentiator

/-- The differentiator of a problem for a dense pattern. -/
abbrev onDense (problem : Problem R σ) (nx ng : Nat) (method : Method) : Differentiator R σ where
  dims := ⟨nx, ng⟩
  problem
  layout := .dense
  method

/-- The differentiator of a problem for a sparse pattern. -/
abbrev onSparse (problem : Problem R σ) (entries : Entries ng nx) (method : Method) :
    Differentiator R σ where
  dims := ⟨nx, ng⟩
  problem
  layout := .sparse entries (.greedy entries.pairs)
  method

theorem build_of_lacking {problem : Problem R σ} {method : Method}
    (lacking : ¬(method = .supplied → problem.hasDerivatives)) (pattern : Pattern)
    (differentiator : Differentiator R σ) :
    build problem pattern method ≠ .ok differentiator := by
  have refused : method = .supplied ∧ !problem.hasDerivatives := by simpa using lacking
  rw [build]
  cases pattern.dimensions with
  | error => nofun
  | ok => simp [bind, Except.bind, refused, throw, throwThe, MonadExceptOf.throw]

/-- A differentiator that is built is the one of its pattern. -/
theorem build_eq_ok {problem : Problem R σ} {pattern : Pattern} {method : Method}
    {differentiator : Differentiator R σ} :
    build problem pattern method = .ok differentiator ↔
      (method = .supplied → problem.hasDerivatives) ∧
        match pattern with
        | .dense _ 0 => False
        | .dense nx (ng + 1) => onDense problem nx ng method = differentiator
        | .sparse _ _ entries => onSparse problem entries method = differentiator := by
  by_cases relied : method = .supplied → problem.hasDerivatives
  · have kept : ¬(method = .supplied ∧ !problem.hasDerivatives) := by simpa using relied
    rcases pattern with ⟨nx, _ | ng⟩ | ⟨nrows, ncols, entries⟩
    · simp [build, Pattern.dimensions, bind, Except.bind]
    · have built : build problem (.dense nx (ng + 1)) method =
          .ok (onDense problem nx ng method) := by
        simp only [build, Pattern.dimensions, bind, Except.bind, if_neg kept]
        rfl
      rw [built, Except.ok.injEq, and_iff_right relied]
    · have built : build problem (.sparse nrows ncols entries) method =
          .ok (onSparse problem entries method) := by
        simp only [build, Pattern.dimensions, bind, Except.bind, if_neg kept]
        rfl
      rw [built, Except.ok.injEq, and_iff_right relied]
  · exact iff_of_false (build_of_lacking relied pattern differentiator)
      fun ⟨relied', _⟩ => relied relied'

/-- What is built is the differentiator of a dense pattern with an objective row, or that of a
sparse pattern. -/
theorem cases_of_build {problem : Problem R σ} {pattern : Pattern} {method : Method}
    {differentiator : Differentiator R σ}
    (built : build problem pattern method = .ok differentiator) :
    (∃ nx ng, pattern = .dense nx (ng + 1) ∧ differentiator = onDense problem nx ng method) ∨
      ∃ nrows ncols entries, pattern = .sparse nrows ncols entries ∧
        differentiator = onSparse problem entries method := by
  have isBuilt := (build_eq_ok.1 built).2
  rcases pattern with ⟨nx, _ | ng⟩ | ⟨nrows, ncols, entries⟩
  · cases isBuilt
  · exact .inl ⟨nx, ng, rfl, isBuilt.symm⟩
  · exact .inr ⟨nrows, ncols, entries, rfl, isBuilt.symm⟩

/-- A differentiator has the pattern it was built for. -/
theorem pattern_of_build {problem : Problem R σ} {pattern : Pattern} {method : Method}
    {differentiator : Differentiator R σ}
    (built : build problem pattern method = .ok differentiator) :
    differentiator.pattern = pattern := by
  rcases cases_of_build built with ⟨_, _, rfl, rfl⟩ | ⟨_, _, _, rfl, rfl⟩
  · rfl
  · rfl

/-- A differentiator evaluates the problem it was built for. -/
theorem problem_of_build {problem : Problem R σ} {pattern : Pattern} {method : Method}
    {differentiator : Differentiator R σ}
    (built : build problem pattern method = .ok differentiator) :
    differentiator.problem = problem := by
  rcases cases_of_build built with ⟨_, _, _, rfl⟩ | ⟨_, _, _, _, rfl⟩
  · rfl
  · rfl

/-- A differentiator has the method it was built for. -/
theorem method_of_build {problem : Problem R σ} {pattern : Pattern} {method : Method}
    {differentiator : Differentiator R σ}
    (built : build problem pattern method = .ok differentiator) :
    differentiator.method = method := by
  rcases cases_of_build built with ⟨_, _, _, rfl⟩ | ⟨_, _, _, _, rfl⟩
  · rfl
  · rfl

end Differentiator

end NonlinearProgram
