import NonlinearProgram.Proofs.Differentiation.History
import NonlinearProgram.Proofs.Pattern.DeclarationOrder

/-!
# Evaluations and the order of declaration

The declared order of a sparse pattern is used once, when the entries are read off the compressed
columns. Everything before that goes by the colouring, which two orders of the same entries share.
So two differentiators that differ in this order make the same calls of the problem and keep the
same buffers, and their constraint derivatives are permutations of each other.

The derivatives that a caller lends are overwritten if they are asked for and the evaluation
succeeds, and are left alone otherwise. They have no influence, so that two callers may lend
different ones.
-/

namespace NonlinearProgram

variable {R σ : Type} {nx ng : Nat} {entries entries' : Entries ng nx} {coloring : Coloring nx}

/-- The buffers of a caller with other constraint derivatives in them. -/
def Buffers.withDerivatives {nj nj' : Nat} (target : Buffers R nx ng nj) (dg : Vector R nj') :
    Buffers R nx ng nj' :=
  ⟨target.g, target.df, dg⟩

/-- Two evaluations that differ in the order of the constraint derivatives: the second one gives
the same result, values and gradient, and leaves the problem in the same state. The derivatives that
were `lent` to it are replaced by those of the first one, each in its place, if they are `needed`
and there are any. -/
structure IsReordered {nj nj' groups groups' : Nat} (order : Fin nj' → Fin nj)
    (lent : Vector R nj') (needed : Bool)
    (evaluated : Except EvaluationFailure R × Buffers R nx ng nj × Scratch R σ nx ng groups)
    (evaluated' : Except EvaluationFailure R × Buffers R nx ng nj' × Scratch R σ nx ng groups') :
    Prop where
  outcome : evaluated'.1 = evaluated.1
  g : evaluated'.2.1.g = evaluated.2.1.g
  df : evaluated'.2.1.df = evaluated.2.1.df
  state : evaluated'.2.2.state = evaluated.2.2.state
  dg : evaluated'.2.1.dg =
    if needed && evaluated.1.isOk then .ofFn fun k => evaluated.2.1.dg.get (order k) else lent

section Evaluation

variable [Arith R] (reordering : entries.Reordering entries')

include reordering in
/-- Entries in another order are read off the same compressed columns. -/
theorem Coloring.decompressRows_reordering
    (compressed : Vector (Vector R (ng + 1)) coloring.count) (divisors : Vector R nx) :
    coloring.decompressRows entries'.pairs compressed divisors =
      .ofFn fun k =>
        (coloring.decompressRows entries.pairs compressed divisors).get (reordering.order k) := by
  ext k inside
  have entry := reordering.get_order ⟨k, inside⟩
  simp only [List.get_eq_getElem] at entry
  simp [decompressRows, decompress, entry]

/-- Values alone do not depend on the entries. -/
theorem evaluateValues_reordering {nj nj' groups : Nat} (problem : Problem R σ) (x : Vector R nx)
    (target : Buffers R nx ng nj) (order : Fin nj' → Fin nj) (lent : Vector R nj')
    (scratch : Scratch R σ nx ng groups) :
    let evaluated := evaluateValues problem x target scratch
    let evaluated' := evaluateValues problem x (target.withDerivatives lent) scratch
    IsReordered order lent false evaluated evaluated' ∧ evaluated'.2.2 = evaluated.2.2 := by
  intro evaluated evaluated'
  simp only [evaluated, evaluated', evaluateValues, Buffers.withDerivatives]
  cases (Sampling.sampleRows problem x).run scratch with
  | mk outcome after =>
      cases outcome with
      | error failure => exact ⟨⟨rfl, rfl, rfl, rfl, rfl⟩, rfl⟩
      | ok => exact ⟨⟨rfl, rfl, rfl, rfl, rfl⟩, rfl⟩

variable [Precision R]

/-- Evaluations by one colouring, of entries in two orders. -/
theorem evaluateSparse_reordering (problem : Problem R σ) (scheme? : Option Scheme)
    (x : Vector R nx) (target : Buffers R nx ng entries.pairs.length)
    (lent : Vector R entries'.pairs.length) (scratch : Scratch R σ nx ng coloring.count) :
    let evaluated := evaluateSparse problem scheme? entries coloring x target scratch
    let evaluated' := evaluateSparse problem scheme? entries' coloring x
      (target.withDerivatives lent) scratch
    IsReordered reordering.order lent true evaluated evaluated' ∧
      evaluated'.2.2 = evaluated.2.2 := by
  intro evaluated evaluated'
  simp only [evaluated, evaluated', evaluateSparse, Buffers.withDerivatives]
  cases (Sampling.compressed problem scheme? coloring x).run
    { scratch with gradient := target.df } with
  | mk outcome after =>
      cases outcome with
      | error failure => exact ⟨⟨rfl, rfl, rfl, rfl, rfl⟩, rfl⟩
      | ok divisors =>
          have delivered := coloring.decompressRows_reordering reordering after.jacobian divisors
          exact ⟨⟨rfl, rfl, rfl, rfl, delivered⟩, rfl⟩

end Evaluation

namespace Differentiator

/-- The differentiator of a problem for entries that are compressed by a given colouring. -/
abbrev onColored (problem : Problem R σ) (entries : Entries ng nx) (coloring : Coloring nx)
    (method : Method) : Differentiator R σ where
  dims := ⟨nx, ng⟩
  problem
  layout := .sparse entries coloring
  method

/-- The same call for entries in another order, with derivatives lent for them. -/
def Request.lend {problem : Problem R σ} {method : Method} {coloring' : Coloring nx}
    (call : (onColored problem entries coloring method).Request)
    (lent : Vector R entries'.pairs.length) :
    (onColored problem entries' coloring' method).Request :=
  ⟨call.x, call.target.withDerivatives lent, call.needDerivatives⟩

variable [Arith R] [Precision R] {problem : Problem R σ} {method : Method}

/-- One call of each of two differentiators with the same memory. -/
theorem answer_reordering (notSupplied : method ≠ .supplied)
    (reordering : entries.Reordering entries')
    (memory : (onColored problem entries coloring method).Memory)
    (call : (onColored problem entries coloring method).Request)
    (lent : Vector R entries'.pairs.length) :
    let answer := (onColored problem entries coloring method).answer memory call
    let answer' := (onColored problem entries' coloring method).answer memory (call.lend lent)
    IsReordered reordering.order lent call.needDerivatives answer answer' ∧
      answer'.2.2 = answer.2.2 := by
  cases call with
  | mk x target needDerivatives =>
      simp only [answer, evaluate, Request.lend, if_neg notSupplied]
      cases needDerivatives with
      | true => exact evaluateSparse_reordering reordering problem _ x target lent memory
      | false => exact evaluateValues_reordering problem x target reordering.order lent memory

/-- Two differentiators that have been called alike have the same memory. -/
theorem memoryAfter_reordering (notSupplied : method ≠ .supplied)
    (reordering : entries.Reordering entries')
    (memory : (onColored problem entries coloring method).Memory)
    (calls : List ((onColored problem entries coloring method).Request ×
      Vector R entries'.pairs.length)) :
    (onColored problem entries' coloring method).memoryAfter memory
        (calls.map fun made => made.1.lend made.2) =
      (onColored problem entries coloring method).memoryAfter memory (calls.map Prod.fst) := by
  induction calls generalizing memory with
  | nil => rfl
  | cons made rest ih =>
      have same := (answer_reordering notSupplied reordering memory made.1 made.2).2
      exact (congrArg (memoryAfter _ · _) same).trans (ih _)

/-- One call of each of two differentiators that have been called alike. -/
theorem answer_memoryAfter_reordering {coloring' : Coloring nx} (notSupplied : method ≠ .supplied)
    (reordering : entries.Reordering entries') (colored : coloring' = coloring) (state : σ)
    (calls : List ((onColored problem entries coloring method).Request ×
      Vector R entries'.pairs.length))
    (call : (onColored problem entries coloring method).Request)
    (lent : Vector R entries'.pairs.length) :
    let first := onColored problem entries coloring method
    let second := onColored problem entries' coloring' method
    IsReordered reordering.order lent call.needDerivatives
      (first.answer (first.memoryAfter (.fresh state) (calls.map Prod.fst)) call)
      (second.answer (second.memoryAfter (.fresh state)
        (calls.map fun made => made.1.lend made.2)) (call.lend lent)) := by
  subst colored
  intro first second
  have memory := memoryAfter_reordering notSupplied reordering (.fresh state) calls
  have answered := (answer_reordering notSupplied reordering
    (first.memoryAfter (.fresh state) (calls.map Prod.fst)) call lent).1
  exact memory ▸ answered

/-- Two declared orders of the same entries have one colouring. Differentiators for them that are
called alike, whether the calls succeed or not, answer every call with the same result, values and
gradient after the same number of calls of the problem, and with derivatives that differ in their
order only. -/
theorem answer_of_declaration_order (problem : Problem R σ) (entries entries' : Entries ng nx)
    (reordering : entries.Reordering entries') (notSupplied : method ≠ .supplied)
    (state : σ × Tally)
    (calls : List ((onSparse problem.counted entries method).Request ×
      Vector R entries'.pairs.length))
    (call : (onSparse problem.counted entries method).Request)
    (lent : Vector R entries'.pairs.length) :
    let first := onSparse problem.counted entries method
    let second := onSparse problem.counted entries' method
    build problem.counted (.sparse ng nx entries) method = .ok first ∧
      build problem.counted (.sparse ng nx entries') method = .ok second ∧
      (Pattern.sparse ng nx entries').coloring = (Pattern.sparse ng nx entries).coloring ∧
      IsReordered reordering.order lent call.needDerivatives
        (first.answer (first.memoryAfter (.fresh state) (calls.map Prod.fst)) call)
        (second.answer (second.memoryAfter (.fresh state)
          (calls.map fun made => made.1.lend made.2)) (call.lend lent)) := by
  intro first second
  refine ⟨build_eq_ok.2 ⟨fun supplied => absurd supplied notSupplied, rfl⟩,
    build_eq_ok.2 ⟨fun supplied => absurd supplied notSupplied, rfl⟩, reordering.greedy_eq, ?_⟩
  exact answer_memoryAfter_reordering notSupplied reordering reordering.greedy_eq state calls call
    lent

/-- The entries of the square and the product, declared column by column: the entry of the last
column comes last and not first. -/
def squareAndProductColumns : Entries 2 3 where
  pairs := squareAndProductEntries.pairs.rotate 1
  nodup := List.nodup_rotate.2 squareAndProductEntries.nodup

/-- Where each entry stands that is declared column by column. -/
def squareAndProductReordering :
    squareAndProductEntries.Reordering squareAndProductColumns where
  order := finRotate 3
  get_order := by decide

/-- Derivatives at a point, with derivatives lent for either order. -/
def squareAndProductCall (x : Vector Double 3) :
    (onSparse squareAndProduct.counted squareAndProductEntries .centralDifference).Request ×
      Vector Double squareAndProductColumns.pairs.length :=
  ⟨⟨x, ⟨.replicate 2 0, .replicate 3 0, .replicate 3 0⟩, true⟩, .replicate 3 1⟩

theorem squareAndProduct_counted_isOk :
    let differentiator :=
      onSparse squareAndProduct.counted squareAndProductEntries .centralDifference
    (differentiator.answer (differentiator.memoryAfter (.fresh ((), {}))
      [(squareAndProductCall #v[1e200, 2.0, 3.0]).1])
      (squareAndProductCall #v[1.0, 2.0, 3.0]).1).1.isOk := by
  have colored := greedy_squareAndProductEntries
  unfold squareAndProductCall onSparse
  generalize Coloring.greedy squareAndProductEntries.pairs = coloring at colored
  subst colored
  decide +kernel

theorem answer_of_squareAndProduct_columns :
    let first := onSparse squareAndProduct.counted squareAndProductEntries .centralDifference
    let second := onSparse squareAndProduct.counted squareAndProductColumns .centralDifference
    let failing := squareAndProductCall #v[1e200, 2.0, 3.0]
    let made := squareAndProductCall #v[1.0, 2.0, 3.0]
    let answer := first.answer (first.memoryAfter (.fresh ((), {})) [failing.1]) made.1
    let answer' := second.answer
      (second.memoryAfter (.fresh ((), {})) [failing.1.lend failing.2]) (made.1.lend made.2)
    Method.centralDifference ≠ .supplied ∧ answer.1.isOk ∧
      IsReordered (finRotate 3) made.2 true answer answer' := by
  intro first second failing made answer answer'
  have notSupplied : Method.centralDifference ≠ .supplied := by decide
  have answered := answer_of_declaration_order squareAndProduct squareAndProductEntries
    squareAndProductColumns squareAndProductReordering notSupplied ((), {}) [failing] made.1 made.2
  exact ⟨notSupplied, squareAndProduct_counted_isOk, answered.2.2.2⟩

end Differentiator

end NonlinearProgram
