import NonlinearProgram.Proofs.Arith.One
import NonlinearProgram.Proofs.Problem.Dependence

/-!
# Values and tangents of expressions

Whatever relation between two kinds of scalars all operations keep, the evaluation of an expression
keeps as well. Two such relations of dual numbers are used here. To have the same value is one, so
the value of an expression does not depend on tangents. The other is equality of numbers whose
tangents have no sign besides their own, so this is what a sweep gives for expressions over doubles.
-/

namespace NonlinearProgram

variable {R T T' : Type}

/-- A relation between scalars over the same reals that is kept by all operations of expressions. -/
structure IsCongruence [Scalar R T] [Scalar R T'] (related : T → T' → Prop) : Prop where
  ofReal (value : R) : related (Scalar.ofReal value) (Scalar.ofReal value)
  binary (operation : BinaryOp) {left right : T} {left' right' : T'} : related left left' →
    related right right' → related (operation.apply left right) (operation.apply left' right')
  unary (operation : UnaryOp) {argument : T} {argument' : T'} : related argument argument' →
    related (operation.apply argument) (operation.apply argument')
  power (exponent : Int) {base : T} {base' : T'} : related base base' →
    related (Scalar.power base exponent) (Scalar.power base' exponent)
  pow (exponent : R) {base : T} {base' : T'} : related base base' →
    related (Scalar.pow base exponent) (Scalar.pow base' exponent)
  re {value : T} {value' : T'} : related value value' → Scalar.re value = Scalar.re value'

/-- Outcomes with related values, or with the same failure. -/
inductive AreRelated {ε : Type} (related : T → T' → Prop) : Except ε T → Except ε T' → Prop where
  | ok {value : T} {value' : T'} : related value value' → AreRelated related (.ok value) (.ok value')
  | error (failure : ε) : AreRelated related (.error failure) (.error failure)

namespace AreRelated

variable {ε : Type} {related : T → T' → Prop}

theorem bind {first : Except ε T} {first' : Except ε T'} {next : T → Except ε T}
    {next' : T' → Except ε T'} (outcomes : AreRelated related first first')
    (follow : ∀ {value value'}, related value value' → AreRelated related (next value) (next' value')) :
    AreRelated related (first >>= next) (first' >>= next') := by
  cases outcomes with
  | ok values => exact follow values
  | error failure => exact .error failure

theorem of_eq_ok {first : Except ε T} {first' : Except ε T'} {value : T} {value' : T'}
    (outcomes : AreRelated related first first') (isOk : first = .ok value)
    (isOk' : first' = .ok value') : related value value' := by
  subst isOk isOk'
  cases outcomes with
  | ok values => exact values

end AreRelated

/-- Expressions have related values at points with related coordinates. -/
theorem Expr.evaluate_related [Arith R] [Scalar R T] [Scalar R T'] {related : T → T' → Prop}
    (congruence : IsCongruence related) {nx : Nat} {point : Vector T nx} {point' : Vector T' nx}
    (coordinates : ∀ column, related (point.get column) (point'.get column)) (expr : Expr R) :
    AreRelated related (expr.evaluate point) (expr.evaluate point') := by
  induction expr with
  | constant value => exact .ok (congruence.ofReal value)
  | var index =>
      by_cases inside : index < nx
      · simpa [evaluate, coordinate, inside] using AreRelated.ok (coordinates ⟨index, inside⟩)
      · simpa [evaluate, coordinate, inside] using AreRelated.error _
  | binary operation left right ihLeft ihRight =>
      exact ihLeft.bind fun left => ihRight.bind fun right =>
        .ok (congruence.binary operation left right)
  | unary operation argument ih =>
      exact ih.bind fun argument => .ok (congruence.unary operation argument)
  | power base exponent ih => exact ih.bind fun base => .ok (congruence.power exponent base)
  | pow base exponent ih => exact ih.bind fun base => .ok (congruence.pow exponent base)
  | ifLess left right first second ihLeft ihRight ihFirst ihSecond =>
      refine ihLeft.bind fun left => ihRight.bind fun right => ?_
      rw [congruence.re left, congruence.re right]
      split
      · exact ihFirst
      · exact ihSecond
  | undefined reason => exact .error _

/-! ## Dual numbers -/

namespace Dual

/-- Values are computed from values alone. -/
theorem isCongruence_re [Elementary R] :
    IsCongruence fun (value value' : Dual R) => value.re = value'.re where
  ofReal value := rfl
  binary operation {left right left' right'} sameLeft sameRight := by
    cases left; cases right; cases sameLeft; cases sameRight
    cases operation <;> rfl
  unary operation {argument argument'} same := by
    cases argument; cases same
    cases operation <;> rfl
  power exponent {base base'} same := by
    cases base; cases same
    simp only [Scalar.power, Dual.power]
    split_ifs <;> rfl
  pow exponent {base base'} same := by
    cases base; cases same
    simp only [Scalar.pow, Dual.pow]
    split_ifs <;> rfl
  re same := same

/-- Tangents over doubles are results of arithmetic, which have no sign besides their own. -/
theorem isCongruence_isCanonical :
    IsCongruence fun (value value' : Dual Double) =>
      value = value' ∧ value.tangent.IsCanonical where
  ofReal value := ⟨rfl, Double.isCanonical_zero⟩
  binary operation {left right left' right'} sameLeft sameRight := by
    obtain ⟨rfl, _⟩ := sameLeft
    obtain ⟨rfl, _⟩ := sameRight
    refine ⟨rfl, ?_⟩
    cases operation <;> exact Double.isCanonical_binary _ _ _
  unary operation {argument argument'} same := by
    obtain ⟨rfl, _⟩ := same
    refine ⟨rfl, ?_⟩
    cases operation with
    | neg => exact Double.isCanonical_negate _
    | sqrt | exp | log | sin | cos => exact Double.isCanonical_binary _ _ _
  power exponent {base base'} same := by
    obtain ⟨rfl, canonical⟩ := same
    refine ⟨rfl, ?_⟩
    simp only [Scalar.power, Dual.power]
    split_ifs
    · exact Double.isCanonical_zero
    · exact canonical
    · exact Double.isCanonical_binary _ _ _
    · exact Double.isCanonical_binary _ _ _
  pow exponent {base base'} same := by
    obtain ⟨rfl, canonical⟩ := same
    refine ⟨rfl, ?_⟩
    simp only [Scalar.pow, Dual.pow]
    split_ifs
    · exact Double.isCanonical_zero
    · exact canonical
    · exact Double.isCanonical_binary _ _ _
    · exact Double.isCanonical_binary _ _ _
  re same := congrArg Dual.re same.1

end Dual

end NonlinearProgram
